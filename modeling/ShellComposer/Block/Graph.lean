import ShellComposer.Fault

/-!
# The block graph

Blocks are joined by links.  A link leaves a block at one of its slots and enters the first block
held there, or it leaves a block at its lower end and enters the block that follows.  Links are
listed newest first.  The block with id zero is the script; it is always there.

Main results:

- Structures `Block`, `Link`, `BlockGraph`.
- Definitions `BlockGraph.slotHead`, `next`, `parent`: one step along a link.
- Definitions `BlockGraph.chain`, `ancestry` and what is read off them: walks along links, which
  visit no more blocks than there are.
-/

namespace ShellComposer

/-! ## Blocks and links -/

/-- A named place on a block, and the tag of the blocks that fit. -/
structure Slot where
  name : String
  accepts : Tag
deriving DecidableEq, Repr

/-- A block: what it stands for, its fields, its slots, and whether it is part of the script. -/
structure Block where
  kind : BlockKind
  fields : List (String × String)
  slots : List Slot
  enabled : Bool
deriving DecidableEq, Repr

namespace Block

/-- The value of a field. -/
def field? (block : Block) (name : String) : Option String :=
  block.fields.lookup name

/-- The value of a field, empty when the block has no such field. -/
def fieldText (block : Block) (name : String) : String :=
  (block.field? name).getD ""

/-- The block with a field set. -/
def setField (block : Block) (name value : String) : Block :=
  { block with fields := (name, value) :: block.fields.filter fun entry => entry.1 != name }

/-- The first slot with a name. -/
def slot? (block : Block) (name : String) : Option Slot :=
  block.slots.find? fun slot => slot.name == name

end Block

/-- Where a link leaves a block. -/
inductive Outlet where
  | slot (name : String)
  | next
deriving DecidableEq, Repr

/-- Whether an outlet is a slot. -/
def Outlet.isSlot : Outlet → Bool
  | slot _ => true
  | next => false

/-- A link from an outlet of one block to another block. -/
structure Link where
  source : BlockId
  outlet : Outlet
  target : BlockId
deriving DecidableEq, Repr

/-- The names of the slots and fields of built-in blocks. -/
def stackSlot : String := "STACK"
@[inherit_doc stackSlot] def optionsSlot : String := "OPTIONS"
@[inherit_doc stackSlot] def operandsSlot : String := "OPERANDS"
@[inherit_doc stackSlot] def flagField : String := "FLAG"
@[inherit_doc stackSlot] def valueField : String := "VALUE"
@[inherit_doc stackSlot] def argumentField : String := "OPTION_ARG_VALUE"

/-- Blocks under their ids, the links between them, newest first, and the id for the next block. -/
structure BlockGraph where
  blocks : IdMap Block
  links : List Link
  nextId : BlockId

namespace BlockGraph

/-- The id of the script. -/
def root : BlockId := 0

/-- The slot of the script. -/
def scriptSlots : List Slot :=
  [⟨stackSlot, .command⟩]

/-- The graph that holds the script alone. -/
def new : BlockGraph where
  blocks := IdMap.empty.insert root ⟨.script, [], scriptSlots, true⟩
  links := []
  nextId := 1

instance : Inhabited BlockGraph :=
  ⟨new⟩

/-! ## Blocks -/

/-- The block with an id. -/
def get? (g : BlockGraph) (id : BlockId) : Option Block :=
  g.blocks.get? id

/-- The block with an id, or the fault that there is none. -/
def block (g : BlockGraph) (id : BlockId) : Except Fault Block :=
  match g.get? id with
  | some block => .ok block
  | none => .error (.unknownBlock id)

/-- Whether there is a block with an id. -/
def contains (g : BlockGraph) (id : BlockId) : Bool :=
  g.blocks.contains id

/-- The ids of all blocks, oldest first. -/
def ids (g : BlockGraph) : List BlockId :=
  g.blocks.keys

/-- The number of blocks. -/
def size (g : BlockGraph) : Nat :=
  g.blocks.size

/-- Whether the block with an id is part of the script. -/
def isEnabled (g : BlockGraph) (id : BlockId) : Bool :=
  match g.get? id with
  | some block => block.enabled
  | none => false

/-- Whether there is a block with an id whose kind has a property. -/
def hasKind (g : BlockGraph) (p : BlockKind → Bool) (id : BlockId) : Bool :=
  match g.get? id with
  | some block => p block.kind
  | none => false

/-- The value of a field of a block, empty when there is none. -/
def fieldText (g : BlockGraph) (id : BlockId) (name : String) : String :=
  match g.get? id with
  | some block => block.fieldText name
  | none => ""

/-! ## One step along a link -/

/-- The block entered by the link that leaves an outlet. -/
def target? (g : BlockGraph) (id : BlockId) (outlet : Outlet) : Option BlockId :=
  (g.links.find? fun link => link.source == id && link.outlet == outlet).map Link.target

/-- The first block held in a slot. -/
def slotHead (g : BlockGraph) (id : BlockId) (slot : String) : Option BlockId :=
  g.target? id (.slot slot)

/-- The block that follows. -/
def next (g : BlockGraph) (id : BlockId) : Option BlockId :=
  g.target? id .next

/-- The block that holds or precedes a block, and the outlet where the link leaves it. -/
def parent (g : BlockGraph) (id : BlockId) : Option (BlockId × Outlet) :=
  (g.links.find? fun link => link.target == id).map fun link => (link.source, link.outlet)

/-- The block above: the one that holds or precedes a block. -/
def above (g : BlockGraph) (id : BlockId) : Option BlockId :=
  (g.parent id).map Prod.fst

/-- The block that precedes a block in its chain. -/
def previous (g : BlockGraph) (id : BlockId) : Option BlockId :=
  match g.parent id with
  | some (before, .next) => some before
  | _ => none

/-- The blocks entered by the links that leave a block, newest link first. -/
def targets (g : BlockGraph) (id : BlockId) : List BlockId :=
  (g.links.filter fun link => link.source == id).map Link.target

/-! ## Walks -/

/-- The places passed from a start on, at most `steps` of them. -/
def walk (step : BlockId → Option BlockId) : Nat → BlockId → List BlockId
  | 0, _ => []
  | steps + 1, start =>
    start :: match step start with
      | some after => walk step steps after
      | none => []

/-- The chain that starts with a block, along the links to the block that follows. -/
def chainFrom (g : BlockGraph) (head : BlockId) : List BlockId :=
  walk g.next g.size head

/-- The chain that starts with a block, or no blocks without a start. -/
def chain (g : BlockGraph) : Option BlockId → List BlockId
  | none => []
  | some head => g.chainFrom head

/-- The blocks held in a slot, from the first to the last. -/
def slotChain (g : BlockGraph) (id : BlockId) (slot : String) : List BlockId :=
  g.chain (g.slotHead id slot)

/-- The last block of the chain that starts with a block. -/
def stackTail (g : BlockGraph) (id : BlockId) : BlockId :=
  (g.chainFrom id).getLast?.getD id

/-- A block and the blocks above it, upwards. -/
def ancestry (g : BlockGraph) (id : BlockId) : List BlockId :=
  walk g.above g.size id

/-- The topmost block above a block, or the block itself. -/
def rootOf (g : BlockGraph) (id : BlockId) : BlockId :=
  (g.ancestry id).getLast?.getD id

/-- Whether a block is another one or is above it. -/
def isAncestor (g : BlockGraph) (ancestor id : BlockId) : Bool :=
  (g.ancestry id).contains ancestor

/-- The first block of the chain that a block is in. -/
def chainHead (g : BlockGraph) (id : BlockId) : BlockId :=
  (walk g.previous g.size id).getLast?.getD id

/-- The block whose slot holds the chain that a block is in, and the name of that slot. -/
def surroundParent (g : BlockGraph) (id : BlockId) : Option (BlockId × String) :=
  match g.parent (g.chainHead id) with
  | some (owner, .slot slot) => some (owner, slot)
  | _ => none

/-- A row of blocks, then the blocks that these lead to, and so on, at most `steps` rows further. -/
def rows (lead : BlockId → List BlockId) : Nat → List BlockId → List BlockId
  | 0, row => row
  | steps + 1, row =>
    if row.isEmpty then [] else row ++ rows lead steps (row.flatMap lead)

/-- The blocks held in the slots of a block, slot by slot, the slot plugged last first. -/
def slotContents (g : BlockGraph) (id : BlockId) : List BlockId :=
  (g.links.filter fun link => link.source == id && link.outlet.isSlot).flatMap
    fun link => g.chainFrom link.target

/-- A block and everything held in its slots, directly or deeper, row by row. -/
def withContents (g : BlockGraph) (id : BlockId) : List BlockId :=
  rows g.slotContents g.size [id]

/-- The blocks that links lead to from the script, and the script. -/
def reachable (g : BlockGraph) : List BlockId :=
  rows g.targets g.size [root]

end BlockGraph

end ShellComposer
