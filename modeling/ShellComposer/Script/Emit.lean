import ShellComposer.Block.Template
import ShellComposer.Script.Node

/-!
# From the block graph to the script tree

The script tree is read off the graph from the script block downwards.  Each parameter of a node is
a field of its block, or the nodes of the enabled blocks in one of its slots, in order.

Main results:

- Definition `Meaning.configKey`: the key under which a slot is written.
- Definition `emitBlock`: the node of a block.
- Definition `emit`: the script tree.
-/

namespace ShellComposer

/-! ## Slots of controls and operators -/

/-- The key of the parameter read from a slot, or the key made from its name when there is none. -/
def Meaning.configKey (meaning : Meaning) (slot : String) : String :=
  match meaning.slotBinding? slot with
  | some binding => binding.key
  | none => slotKey slot

/-- How a control is written. -/
def Meaning.controlConfig? (meaning : Meaning) : Option ControlConfig :=
  meaning.controlForm?.map fun form =>
    { syntaxEnd := form.syntaxEnd
      slots := form.slots.map fun slot =>
        ⟨meaning.configKey slot.name, slot.syntaxPrefix, slot.obligatory, slot.breakLineBefore⟩ }

/-- How an operator is written. -/
def Meaning.operatorConfig? (meaning : Meaning) : Option OperatorConfig :=
  meaning.operatorForm?.map fun form =>
    { slots := form.slots.map fun slot =>
        ⟨meaning.configKey slot.name, slot.symbol, slot.symbolPlacement⟩ }

/-! ## Nodes -/

/-- The enabled blocks in a slot, in order. -/
def BlockGraph.enabledChain (g : BlockGraph) (id : BlockId) (slot : String) : List BlockId :=
  (g.slotChain id slot).filter g.isEnabled

/-- The parameter that a binding reads from a block, given how the nodes of blocks are made. -/
def emitParameter (g : BlockGraph) (emitNode : BlockId → Except Fault Node) (id : BlockId)
    (block : Block) (binding : Binding) : Except Fault Parameter :=
  match binding.source with
  | .field => .ok (.ofText binding.key (block.fieldText binding.name))
  | .input => do
    return .ofNodes binding.key (← (g.enabledChain id binding.name).mapM emitNode)

/-- The node of a block, with at most so many levels of blocks below it. -/
def emitBlock (g : BlockGraph) (meanings : Meanings) : Nat → BlockId → Except Fault Node
  | 0, id => .error (.unknownBlock id)
  | levels + 1, id => do
    let block ← g.block id
    match meanings.get? id with
    | none => throw (.noMeaning id)
    | some meaning =>
      let parameters ← meaning.bindings.mapM
        (emitParameter g (emitBlock g meanings levels) id block)
      return .mk meaning.nodeType meaning.name parameters meaning.controlConfig?
        meaning.operatorConfig?

/-- The script tree of a graph, which has to have the script block.  A block lies below fewer blocks
than there are, so their number bounds the levels. -/
def emit (g : BlockGraph) (meanings : Meanings) : Except Fault Node := do
  if g.contains BlockGraph.root then
    let node ← emitBlock g meanings g.size BlockGraph.root
    if node.nodeType = .script then return node else throw (.rootNotScript BlockGraph.root)
  else throw .noRoot

end ShellComposer
