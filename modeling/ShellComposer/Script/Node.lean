import ShellComposer.Block.Meaning

/-!
# Script trees

The script that the blocks compose is handed on as a tree.  A node has a type, a name and
parameters; a parameter holds a text or a list of nodes.  Nodes of controls and operators also say
how their slots are written.

Main results:

- Structures `Node`, `Parameter`, `Request`.
- Definitions `Node.encode`, `Node.decode`: trees as JSON.
-/

namespace ShellComposer

open Json Json.Fields Catalog

/-! ## Nodes -/

/-- How a slot of a control is written, under the key of the parameter read from it. -/
structure ControlSlotConfig where
  key : String
  syntaxPrefix : Option String
  obligatory : Bool
  breakLineBefore : Bool
deriving DecidableEq, Repr, Inhabited

/-- How a control is written. -/
structure ControlConfig where
  syntaxEnd : Option String
  slots : List ControlSlotConfig
deriving DecidableEq, Repr, Inhabited

/-- How a slot of an operator is written, under the key of the parameter read from it. -/
structure OperatorSlotConfig where
  key : String
  symbol : Option String
  symbolPlacement : Option SymbolPlacement
deriving DecidableEq, Repr, Inhabited

/-- How an operator is written. -/
structure OperatorConfig where
  slots : List OperatorSlotConfig
deriving DecidableEq, Repr, Inhabited

mutual
/-- A node of a script tree. -/
inductive Node where
  | mk (nodeType : NodeType) (name : String) (parameters : List Parameter)
    (controlConfig : Option ControlConfig) (operatorConfig : Option OperatorConfig)

/-- A parameter of a node: a text read from a field, or the nodes of the blocks in a slot. -/
inductive Parameter where
  | mk (key : String) (value : Option String) (children : Option (List Node))
end

instance : Inhabited Node :=
  ⟨.mk default default [] none none⟩

instance : Inhabited Parameter :=
  ⟨.mk default none none⟩

namespace Node

/-- The type of a node. -/
def nodeType : Node → NodeType
  | mk nodeType _ _ _ _ => nodeType

/-- The name of a node. -/
def name : Node → String
  | mk _ name _ _ _ => name

/-- The parameters of a node, in order. -/
def parameters : Node → List Parameter
  | mk _ _ parameters _ _ => parameters

/-- How a control is written; other nodes have nothing here. -/
def controlConfig : Node → Option ControlConfig
  | mk _ _ _ config _ => config

/-- How an operator is written; other nodes have nothing here. -/
def operatorConfig : Node → Option OperatorConfig
  | mk _ _ _ _ config => config

end Node

namespace Parameter

/-- The key of a parameter. -/
def key : Parameter → String
  | mk key _ _ => key

/-- The text of a parameter that holds one. -/
def value : Parameter → Option String
  | mk _ value _ => value

/-- The nodes of a parameter that holds nodes. -/
def children : Parameter → Option (List Node)
  | mk _ _ children => children

/-- A parameter that holds a text. -/
def ofText (key value : String) : Parameter :=
  mk key (some value) none

/-- A parameter that holds nodes. -/
def ofNodes (key : String) (nodes : List Node) : Parameter :=
  mk key none (some nodes)

end Parameter

/-- A script tree with the level it is run in. -/
structure Request where
  levelId : String
  script : Node

/-! ## Trees as JSON -/

/-- How a slot of a control is written, as an object. -/
def ControlSlotConfig.encode (slot : ControlSlotConfig) : Value :=
  .object [("key", .string slot.key), ("syntaxPrefix", .ofText? slot.syntaxPrefix),
    ("obligatory", .bool slot.obligatory), ("breakLineBefore", .bool slot.breakLineBefore)]

/-- How a slot of a control is written; only the text before it may be null. -/
def ControlSlotConfig.decode : Decoder ControlSlotConfig :=
  decoder (ControlSlotConfig.mk
    <$> required "key" decodeString
    <*> nullable "syntaxPrefix" decodeString
    <*> required "obligatory" decodeBool
    <*> required "breakLineBefore" decodeBool)

/-- How a control is written, as an object. -/
def ControlConfig.encode (config : ControlConfig) : Value :=
  .object [("syntaxEnd", .ofText? config.syntaxEnd),
    ("slots", .ofList ControlSlotConfig.encode config.slots)]

/-- How a control is written; only the text at its end may be null. -/
def ControlConfig.decode : Decoder ControlConfig :=
  decoder (ControlConfig.mk
    <$> nullable "syntaxEnd" decodeString
    <*> required "slots" (decodeList ControlSlotConfig.decode))

/-- How a slot of an operator is written, as an object. -/
def OperatorSlotConfig.encode (slot : OperatorSlotConfig) : Value :=
  .object [("key", .string slot.key), ("symbol", .ofText? slot.symbol),
    ("symbolPlacement", SymbolPlacement.encode? slot.symbolPlacement)]

/-- How a slot of an operator is written; its symbol and the place of that may be null. -/
def OperatorSlotConfig.decode : Decoder OperatorSlotConfig :=
  decoder (OperatorSlotConfig.mk
    <$> required "key" decodeString
    <*> nullable "symbol" decodeString
    <*> nullable "symbolPlacement" SymbolPlacement.decode)

/-- How an operator is written, as an object. -/
def OperatorConfig.encode (config : OperatorConfig) : Value :=
  .object [("slots", .ofList OperatorSlotConfig.encode config.slots)]

/-- How an operator is written, with all its slots. -/
def OperatorConfig.decode : Decoder OperatorConfig :=
  decoder (OperatorConfig.mk <$> required "slots" (decodeList OperatorSlotConfig.decode))

mutual
/-- A node as a JSON object. -/
def Node.encode : Node → Value
  | .mk nodeType name parameters controlConfig operatorConfig =>
    .object ([("type", .string nodeType.word), ("name", .string name),
        ("parameters", .array (encodeParameters parameters))] ++
      Value.memberIfPresent "controlConfig" ControlConfig.encode controlConfig ++
      Value.memberIfPresent "operatorConfig" OperatorConfig.encode operatorConfig)

/-- A parameter as a JSON object. -/
def Parameter.encode : Parameter → Value
  | .mk key value children =>
    .object ([("key", .string key)] ++ Value.memberIfPresent "value" .string value ++
      match children with
      | none => []
      | some nodes => [("children", .array (encodeNodes nodes))])

/-- The JSON objects of several nodes. -/
def encodeNodes : List Node → List Value
  | [] => []
  | node :: rest => node.encode :: encodeNodes rest

/-- The JSON objects of several parameters. -/
def encodeParameters : List Parameter → List Value
  | [] => []
  | parameter :: rest => parameter.encode :: encodeParameters rest
end

/-- A parameter, given how the nodes it holds are read. -/
def Parameter.decodeWith (decodeNode : Decoder Node) : Decoder Parameter :=
  decoder (Parameter.mk
    <$> required "key" decodeString
    <*> optional "value" decodeString
    <*> optional "children" (decodeList decodeNode))

/-- A node of a tree with at most so many levels of nodes. -/
def Node.decodeLevels : Nat → Decoder Node
  | 0 => fun _ _ => .error .malformed
  | levels + 1 =>
    decoder (Node.mk
      <$> required "type" NodeType.decode
      <*> required "name" decodeString
      <*> required "parameters" (decodeList (Parameter.decodeWith (decodeLevels levels)))
      <*> optional "controlConfig" ControlConfig.decode
      <*> optional "operatorConfig" OperatorConfig.decode)

/-- A node.  Each level of nodes nests at least one array or object, so a tree has no more levels
than it may nest. -/
def Node.decode : Decoder Node := fun room tree =>
  Node.decodeLevels room room tree

/-- The node in a JSON text. -/
def Node.ofText (text : String) : Except Misread Node :=
  decodeText Node.decode text

/-- A request as an object. -/
def Request.encode (request : Request) : Value :=
  .object [("levelId", .string request.levelId), ("ast", request.script.encode)]

/-- A request; both members have to be there. -/
def Request.decode : Decoder Request :=
  decoder (Request.mk
    <$> required "levelId" decodeString
    <*> required "ast" Node.decode)

/-- The request in a JSON text. -/
def Request.ofText (text : String) : Except Misread Request :=
  decodeText Request.decode text

end ShellComposer
