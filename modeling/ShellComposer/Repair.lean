import ShellComposer.Block.Edit
import ShellComposer.Catalog.Compiled

/-!
# Repairing commands

Some things a learner cannot have meant: an option given twice, options that exclude each other,
more operands than a command takes.  They are put right by taking the later blocks off the command,
and a notice says so for each.

Main results:

- Structures `Notice`, `Repaired`.
- Definitions `unplugDuplicate`, `unplugExclusive`, `trimOperands`: the three repairs.
- Definition `repairCommand`: all repairs of one command.
- Definition `repairAll`: one pass over the commands of the script.
-/

namespace ShellComposer

open Catalog

/-! ## Notices -/

/-- A notice about a block that was taken off. -/
structure Notice where
  message : String
  block : BlockId
deriving DecidableEq, Repr

/-- A notice as a JSON object; every notice is a warning. -/
def Notice.encode (notice : Notice) : Json.Value :=
  .object [("level", .string "warn"), ("message", .string notice.message),
    ("blockId", .natural notice.block)]

/-- The notice about an option that was given twice. -/
def Notice.ofDuplicate (flag : String) (id : BlockId) : Notice :=
  ⟨s!"Option \"{flag}\" removed as a duplicate.", id⟩

/-- The notice about an option that an earlier one, the keeper, excludes. -/
def Notice.ofConflict (flag keeper : String) (id : BlockId) : Notice :=
  ⟨s!"Conflict: option \"{flag}\" cannot be used with \"{keeper}\".", id⟩

/-- The notice about operands beyond the most that their kind allows, of which one is named. -/
def Notice.ofLimit (limit : Nat) (operand : OperandDef) (id : BlockId) : Notice :=
  ⟨s!"Limit of {limit} exceeded for \"{operand.displayLabel}\".", id⟩

/-- A graph after repairs, how many blocks were taken off, and the notices about it. -/
structure Repaired where
  graph : BlockGraph
  removed : Nat
  notices : List Notice

namespace Repaired

/-- A graph before any repair. -/
def start (g : BlockGraph) : Repaired :=
  ⟨g, 0, []⟩

/-- Go on with another repair of the graph reached so far. -/
def andThen (done : Repaired) (repair : BlockGraph → Except Fault Repaired) :
    Except Fault Repaired := do
  let more ← repair done.graph
  return ⟨more.graph, done.removed + more.removed, done.notices ++ more.notices⟩

/-- Do several repairs one after the other. -/
def inTurn {α : Type} (repair : α → BlockGraph → Except Fault Repaired) (items : List α)
    (g : BlockGraph) : Except Fault Repaired :=
  items.foldlM (fun done item => done.andThen (repair item)) (start g)

end Repaired

/-! ## Options -/

/-- The option blocks of a command and their flags, in order. -/
def flaggedOptions (g : BlockGraph) (command : BlockId) : List (BlockId × String) :=
  ((g.slotChain command optionsSlot).filter (g.hasKind BlockKind.isOption)).map
    fun id => (id, g.fieldText id flagField)

/-- The first option whose flag was seen before. -/
def firstRepeated (seen : List String) : List (BlockId × String) → Option (BlockId × String)
  | [] => none
  | (id, flag) :: rest =>
    if seen.contains flag then some (id, flag) else firstRepeated (flag :: seen) rest

/-- Take off the first option whose flag was seen before, if there is one. -/
def unplugDuplicate (command : BlockId) (g : BlockGraph) : Except Fault Repaired :=
  match firstRepeated [] (flaggedOptions g command) with
  | none => .ok (.start g)
  | some (id, flag) => do
    return ⟨← g.detach id true, 1, [.ofDuplicate flag id]⟩

/-- Take off the options whose flags are in a group, except the first of them.  Each round takes one
block off, so there are no more rounds than blocks. -/
def unplugGroup (command : BlockId) (group : List String) :
    Nat → BlockGraph → Except Fault Repaired
  | 0, g => .ok (.start g)
  | rounds + 1, g =>
    match (flaggedOptions g command).filter fun option => group.contains option.2 with
    | (_, keeper) :: (id, flag) :: _ => do
      let once : Repaired := ⟨← g.detach id true, 1, [.ofConflict flag keeper id]⟩
      once.andThen (unplugGroup command group rounds)
    | _ => .ok (.start g)

/-- Leave one option of every group of options that exclude each other. -/
def unplugExclusive (command : BlockId) (groups : List (List String)) (g : BlockGraph) :
    Except Fault Repaired :=
  Repaired.inTurn (fun group g => unplugGroup command group g.size g) groups g

/-! ## Operands -/

/-- Take off the blocks beyond the most that an operand kind allows, out of the blocks that were
attached when trimming began. -/
def trimOperand (attached : List BlockId) (operand : OperandDef) (g : BlockGraph) :
    Except Fault Repaired :=
  match operand.cardinality.max.limit with
  | none => .ok (.start g)
  | some max => do
    let excess := (attached.filter (g.hasKind (BlockKind.isOperandNamed operand.id))).drop max.toNat
    match excess with
    | [] => return .start g
    | first :: _ =>
      let trimmed ← excess.foldlM (fun g id => g.detach id true) g
      return ⟨trimmed, excess.length, [.ofLimit max.toNat operand first]⟩

/-- Trim the operands of every kind that has a most. -/
def trimOperands (command : BlockId) (definition : CommandDef) (g : BlockGraph) :
    Except Fault Repaired :=
  Repaired.inTurn (trimOperand (g.slotChain command operandsSlot)) definition.operands g

/-! ## Commands -/

/-- Do all repairs of a command: one duplicate option, exclusive options, surplus operands. -/
def repairCommand (command : BlockId) (definition : CommandDef) (g : BlockGraph) :
    Except Fault Repaired := do
  let first ← unplugDuplicate command g
  let second ← first.andThen (unplugExclusive command definition.exclusiveOptions)
  second.andThen (trimOperands command definition)

/-- Repair a block if it is an enabled command that the catalog defines. -/
def repairBlock (catalog : Catalog) (id : BlockId) (g : BlockGraph) : Except Fault Repaired :=
  match g.get? id with
  | some ⟨.command command, _, _, true⟩ =>
    match catalog.command? command with
    | some definition => repairCommand id definition g
    | none => .ok (.start g)
  | _ => .ok (.start g)

/-- One pass over all blocks, oldest first. -/
def repairAll (catalog : Catalog) (g : BlockGraph) : Except Fault Repaired :=
  Repaired.inTurn (repairBlock catalog) g.ids g

end ShellComposer
