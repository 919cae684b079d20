import ShellComposer.Block.Edit

/-!
# Edits done in place

The edits of a block graph decide first and then build the new graph.  Here the same edits are done
in place, one step after the other: links are taken away and put in while blocks are still looked
up, and an edit that fails halfway leaves the graph as far as it got.

Main results:

- Abbreviation `InPlace` and definition `InPlace.on`: something done to a graph that may fail.
- Definitions `InPlace.setField`, `attach`, `insertAfter`, `detach`, `remove`: the edits.
-/

namespace ShellComposer

/-- Something done to a graph in place.  When it fails, what was done before stays done. -/
abbrev InPlace (α : Type) : Type :=
  ExceptT Fault (StateM BlockGraph) α

namespace InPlace

/-- What comes of something done to a graph, and the graph it leaves. -/
def on {α : Type} (g : BlockGraph) (edit : InPlace α) : Except Fault α × BlockGraph :=
  edit.run g

/-- Look at the graph as it is now. -/
def look {α : Type} (question : BlockGraph → Except Fault α) : InPlace α :=
  ExceptT.mk fun g => (question g, g)

/-- Make sure that a block is there. -/
def locate (id : BlockId) : InPlace Unit := do
  let _ ← look fun g => g.block id

/-- Set a field of a block. -/
def setField (id : BlockId) (name value : String) : InPlace Unit := do
  let block ← look fun g => g.block id
  modify fun g => { g with blocks := g.blocks.insert id (block.setField name value) }

/-- Take a block off: first the link to it goes, then, if the chain heals, the link to the block
that follows is put in its place. -/
def detach (id : BlockId) (heal : Bool) : InPlace Unit := do
  look fun g => g.ensureMovable id
  locate id
  match (← get).parent id with
  | none => return ()
  | some (source, outlet) =>
    modify fun g => g.dropIncoming id
    if heal then
      match (← get).next id with
      | none => return ()
      | some after =>
        modify fun g => g.dropOutlet id .next
        modify fun g => g.addLink ⟨source, outlet, after⟩

/-- Link an outlet to a stack of blocks, and what was there before to the end of the stack. -/
def plug (place : BlockId) (outlet : Outlet) (child : BlockId) : InPlace Unit := do
  locate place
  locate child
  let before := (← get).target? place outlet
  modify fun g => g.dropOutlet place outlet
  modify fun g => g.addLink ⟨place, outlet, child⟩
  match before with
  | none => return ()
  | some displaced =>
    let tail := (← get).stackTail child
    locate tail
    modify fun g => g.addLink ⟨tail, .next, displaced⟩

/-- Plug a block, with the blocks that follow it, into a slot. -/
def attach (parent : BlockId) (slot : String) (child : BlockId) : InPlace Unit := do
  look fun g => g.ensureMovable child
  let owner ← look fun g => g.block parent
  match owner.slot? slot with
  | none => throw (.unknownSlot slot parent)
  | some place =>
    look fun g => g.ensureFits place.accepts child
    look fun g => g.ensureOutside child parent
    detach child false
    plug parent (.slot slot) child

/-- Plug a block, with the blocks that follow it, behind another block. -/
def insertAfter (previous child : BlockId) : InPlace Unit := do
  look fun g => g.ensureMovable child
  let before ← look fun g => g.block previous
  match before.kind.tag? with
  | none => throw (.noNextConnection previous)
  | some tag =>
    look fun g => g.ensureFits tag child
    look fun g => g.ensureOutside child previous
    detach child false
    plug previous .next child

/-- Delete a block and everything in its slots. -/
def remove (id : BlockId) : InPlace (List BlockId) := do
  detach id true
  locate id
  modify fun g => g.dropOutlet id .next
  let doomed := (← get).withContents id
  modify fun g => g.delete doomed
  return doomed

end InPlace

end ShellComposer
