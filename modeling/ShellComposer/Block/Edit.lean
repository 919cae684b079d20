import ShellComposer.Block.Graph

/-!
# Editing the block graph

An edit adds a block, sets a field, plugs a stack of blocks into a slot or behind another block,
takes blocks off, or deletes them.  An edit that cannot be done leaves the graph as it is and says
why.

Main results:

- Definitions `BlockGraph.insert`, `setField`, `attach`, `insertAfter`, `detach`, `remove`.
- Definition `BlockGraph.refresh`: which blocks are part of the script.
-/

namespace ShellComposer

namespace BlockGraph

/-! ## Blocks -/

/-- Add a block without links, disabled for the time being; the new id is returned. -/
def insert (g : BlockGraph) (kind : BlockKind) (slots : List Slot)
    (fields : List (String × String)) : BlockId × BlockGraph :=
  (g.nextId,
    { g with
      blocks := g.blocks.insert g.nextId ⟨kind, fields, slots, false⟩
      nextId := g.nextId + 1 })

/-- Set a field of a block. -/
def setField (g : BlockGraph) (id : BlockId) (name value : String) : Except Fault BlockGraph := do
  let block ← g.block id
  return { g with blocks := g.blocks.insert id (block.setField name value) }

/-! ## Links -/

/-- The graph with one more link. -/
def addLink (g : BlockGraph) (link : Link) : BlockGraph :=
  { g with links := link :: g.links }

/-- The graph without the link that enters a block. -/
def dropIncoming (g : BlockGraph) (id : BlockId) : BlockGraph :=
  { g with links := g.links.filter fun link => link.target != id }

/-- The graph without the link that leaves an outlet. -/
def dropOutlet (g : BlockGraph) (id : BlockId) (outlet : Outlet) : BlockGraph :=
  { g with links := g.links.filter fun link => !(link.source == id && link.outlet == outlet) }

/-- Link an outlet to a stack of blocks.  What was linked to the outlet before follows the stack. -/
def plug (g : BlockGraph) (id : BlockId) (outlet : Outlet) (child : BlockId) : BlockGraph :=
  let placed := (g.dropOutlet id outlet).addLink ⟨id, outlet, child⟩
  match g.target? id outlet with
  | none => placed
  | some displaced => placed.addLink ⟨placed.stackTail child, .next, displaced⟩

/-- Take a block off the block above it, together with the blocks that follow. -/
def cut (g : BlockGraph) (id : BlockId) : BlockGraph :=
  g.dropIncoming id

/-- Take a single block out of its place; the block that follows takes the place.  A block with
nothing above it stays as it is. -/
def unplug (g : BlockGraph) (id : BlockId) : BlockGraph :=
  match g.parent id with
  | none => g
  | some (source, outlet) =>
    let loose := g.dropIncoming id
    match loose.next id with
    | none => loose
    | some after => (loose.dropOutlet id .next).addLink ⟨source, outlet, after⟩

/-! ## Conditions -/

/-- The script cannot be moved, nor can a block that is not there. -/
def ensureMovable (g : BlockGraph) (id : BlockId) : Except Fault Unit :=
  if id == root then .error (.lockedRoot id)
  else if g.contains id then .ok () else .error (.unknownBlock id)

/-- A block fits only where its tag is accepted. -/
def ensureFits (g : BlockGraph) (accepts : Tag) (child : BlockId) : Except Fault Unit := do
  let block ← g.block child
  if block.kind.tag? = some accepts then return ()
  else throw (.incompatible accepts block.kind.tag? child)

/-- A block cannot go into itself, nor into what is below it. -/
def ensureOutside (g : BlockGraph) (child place : BlockId) : Except Fault Unit :=
  if g.isAncestor child place then .error (.insideItself child) else .ok ()

/-! ## Edits -/

/-- Plug a block, with the blocks that follow it, into a slot, before what the slot held. -/
def attach (g : BlockGraph) (parent : BlockId) (slot : String) (child : BlockId) :
    Except Fault BlockGraph := do
  g.ensureMovable child
  let owner ← g.block parent
  match owner.slot? slot with
  | none => throw (.unknownSlot slot parent)
  | some place =>
    g.ensureFits place.accepts child
    g.ensureOutside child parent
    return (g.cut child).plug parent (.slot slot) child

/-- Plug a block, with the blocks that follow it, behind another block. -/
def insertAfter (g : BlockGraph) (previous child : BlockId) : Except Fault BlockGraph := do
  g.ensureMovable child
  let before ← g.block previous
  match before.kind.tag? with
  | none => throw (.noNextConnection previous)
  | some tag =>
    g.ensureFits tag child
    g.ensureOutside child previous
    return (g.cut child).plug previous .next child

/-- Take a block off.  When the chain heals, the block leaves alone and the next one takes its
place; otherwise the blocks that follow leave with it. -/
def detach (g : BlockGraph) (id : BlockId) (heal : Bool) : Except Fault BlockGraph := do
  g.ensureMovable id
  return if heal then g.unplug id else g.cut id

/-- Delete blocks, and the links at them. -/
def delete (g : BlockGraph) (doomed : List BlockId) : BlockGraph :=
  { g with
    blocks := doomed.foldl IdMap.erase g.blocks
    links := g.links.filter fun link =>
      !doomed.contains link.source && !doomed.contains link.target }

/-- Delete a block and everything in its slots.  The chain it was in heals.  The deleted ids are
returned, each after the block that linked to it. -/
def remove (g : BlockGraph) (id : BlockId) : Except Fault (List BlockId × BlockGraph) := do
  let healed ← g.detach id true
  let alone := healed.dropOutlet id .next
  let doomed := alone.withContents id
  return (doomed, alone.delete doomed)

/-! ## Which blocks are part of the script -/

/-- Enable exactly the blocks that links lead to from the script.  The number of blocks that changed
is returned. -/
def refresh (g : BlockGraph) : Nat × BlockGraph :=
  let reached := g.reachable
  let changed := g.blocks.entries.filter fun entry => entry.2.enabled != reached.contains entry.1
  (changed.length,
    { g with blocks := g.blocks.mapValues fun id block =>
        { block with enabled := reached.contains id } })

end BlockGraph

end ShellComposer
