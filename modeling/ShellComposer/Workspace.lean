import ShellComposer.Diagnostics
import ShellComposer.Repair
import ShellComposer.Rules.Check
import ShellComposer.Script.Emit

/-!
# The workspace

A workspace holds a block graph and everything that follows from it: what the blocks mean, the open
violations, and the notices that have not been read yet.  Every change is followed by a reaction,
which enables the blocks of the script, repairs commands until nothing is left to repair, and checks
all blocks.

Main results:

- Structures `Workspace`, `Answer`.
- Definition `Workspace.react`: the reaction.
- Definitions `Workspace.create`, `setField`, `attach`, `insertAfter`, `detach`, `remove`: changes.
- Definitions `Workspace.diagnostics`, `isBlocked`, `emit`, `compile`: queries.
-/

namespace ShellComposer

/-- A block graph and everything that follows from it. -/
structure Workspace where
  catalog : Catalog
  settings : Settings
  graph : BlockGraph
  meanings : Meanings
  ledger : Ledger
  notices : List Notice

/-- The workspace after a change, and what the change answers.  A change that fails may still have
changed the workspace. -/
structure Answer (α : Type) where
  result : Except Fault α
  workspace : Workspace

/-- The answer with its result changed. -/
def Answer.map {α β : Type} (f : α → β) (answer : Answer α) : Answer β :=
  ⟨answer.result.map f, answer.workspace⟩

@[simp] theorem Answer.map_map {α β γ : Type} (f : α → β) (f' : β → γ) (answer : Answer α) :
    (answer.map f).map f' = answer.map fun value => f' (f value) := by
  obtain ⟨result, workspace⟩ := answer
  cases result <;> rfl

namespace Workspace

/-- A workspace with nothing but the script block. -/
def new (catalog : Catalog) (settings : Settings) : Workspace where
  catalog := catalog
  settings := settings
  graph := .new
  meanings := Meanings.attach .empty BlockGraph.root scriptMeaning
  ledger := .empty
  notices := []

/-! ## The reaction -/

/-- The workspace as the rules look at it. -/
def site (w : Workspace) : Site :=
  ⟨w.graph, w.catalog, w.meanings, w.settings⟩

/-- Enable exactly the blocks of the script. -/
def refresh (w : Workspace) : Workspace :=
  { w with graph := w.graph.refresh.2 }

/-- Check all blocks. -/
def revalidate (w : Workspace) : Workspace :=
  { w with ledger := w.site.checkAll w.ledger }

/-- The most repair cycles of one reaction: as set, or one more than the number of blocks. -/
def cycleBound (w : Workspace) : Nat :=
  match w.settings.maxReactionCycles with
  | some bound => bound.toNat
  | none => w.graph.size + 1

/-- Enable and repair until nothing is repaired any more, then check.  `left` more cycles may repair
something; the one after them aborts the reaction, and what it did is enabled and checked. -/
def reactWithin (bound : Nat) : Nat → Workspace → Answer Unit
  | left, w =>
    let w := w.refresh
    match repairAll w.catalog w.graph with
    | .error fault => ⟨.error fault, w⟩
    | .ok repaired =>
      let w := { w with graph := repaired.graph, notices := w.notices ++ repaired.notices }
      if repaired.removed = 0 then ⟨.ok (), w.revalidate⟩
      else
        match left with
        | 0 => ⟨.error (.unsettled bound), w.refresh.revalidate⟩
        | left + 1 => reactWithin bound left w

/-- Bring everything in line with the graph. -/
def react (w : Workspace) : Answer Unit :=
  reactWithin w.cycleBound w.cycleBound w

/-! ## Changes -/

/-- React to a changed graph, or report that it could not be changed. -/
def edit (w : Workspace) (change : Except Fault BlockGraph) : Answer Unit :=
  match change with
  | .ok graph => { w with graph }.react
  | .error fault => ⟨.error fault, w⟩

/-- The workspace with a block that stands for a definition, before any reaction, and the id of the
block. -/
def place (w : Workspace) (kind : BlockKind) (template : Template) : BlockId × Workspace :=
  let (id, graph) := w.graph.insert kind template.slots template.fields
  (id, { w with graph, meanings := Meanings.attach w.meanings id template.meaning })

/-- Make a block of a kind.  It is not linked to anything. -/
def create (w : Workspace) (kind : BlockKind) : Answer BlockId :=
  match w.catalog.definition? kind with
  | none => ⟨.error (.unknownKind kind), w⟩
  | some .script => ⟨.error (.secondScript BlockGraph.root), w⟩
  | some definition =>
    let (id, placed) := w.place kind definition.template
    placed.react.map fun _ => id

/-- Set a field of a block. -/
def setField (w : Workspace) (id : BlockId) (name value : String) : Answer Unit :=
  w.edit (w.graph.setField id name value)

/-- Plug a block, with the blocks that follow it, into a slot. -/
def attach (w : Workspace) (parent : BlockId) (slot : String) (child : BlockId) : Answer Unit :=
  w.edit (w.graph.attach parent slot child)

/-- Plug a block, with the blocks that follow it, behind another block. -/
def insertAfter (w : Workspace) (previous child : BlockId) : Answer Unit :=
  w.edit (w.graph.insertAfter previous child)

/-- Take a block off, alone or with the blocks that follow it. -/
def detach (w : Workspace) (id : BlockId) (heal : Bool) : Answer Unit :=
  w.edit (w.graph.detach id heal)

/-- The workspace without some blocks that are deleted from its graph. -/
def forget (w : Workspace) (graph : BlockGraph) (removed : List BlockId) : Workspace :=
  { w with
    graph := graph
    meanings := removed.foldl IdMap.erase w.meanings
    ledger := removed.foldl Ledger.clear w.ledger }

/-- Delete a block and what its slots hold.  The answer lists the deleted blocks. -/
def remove (w : Workspace) (id : BlockId) : Answer (List BlockId) :=
  match w.graph.remove id with
  | .error fault => ⟨.error fault, w⟩
  | .ok (removed, graph) => (w.forget graph removed).react.map fun _ => removed

/-- The notices not read yet, oldest first, and the workspace once they are read. -/
def drainNotices (w : Workspace) : List Notice × Workspace :=
  (w.notices, { w with notices := [] })

/-! ## Queries -/

/-- The open violations of a block. -/
def violations (w : Workspace) (id : BlockId) : List Violation :=
  w.ledger.get id

/-- The open violations of all blocks. -/
def allViolations (w : Workspace) : List (BlockId × List Violation) :=
  w.ledger.listed

/-- Whether a block of the script has open violations. -/
def isBlocked (w : Workspace) : Bool :=
  w.ledger.listed.any fun entry => w.graph.isEnabled entry.1

/-- The reports of all blocks of the script that have violations. -/
def diagnostics (w : Workspace) : List Diagnostic :=
  ShellComposer.diagnostics w.graph w.meanings w.ledger

/-- The script tree. -/
def emit (w : Workspace) : Except Fault Node :=
  ShellComposer.emit w.graph w.meanings

/-- The script tree with the level it is run in. -/
def compile (w : Workspace) (level : String) : Except Fault Request := do
  return ⟨level, ← w.emit⟩

end Workspace

end ShellComposer
