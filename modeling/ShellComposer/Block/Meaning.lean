import ShellComposer.Catalog.Document
import ShellComposer.IdMap

/-!
# What blocks mean

Beside its place in the graph every block has a meaning: the type and name of the script node it
becomes, and for each parameter of the node the field or slot that the parameter is read from.  The
meaning is written once, when the block is made.

Main results:

- Structures `Binding`, `Meaning`.
- Definition `Meaning.slotBinding?`: the parameter that is read from a slot.
- Definition `Meanings.attach`: a block keeps the first meaning it was given.
-/

namespace ShellComposer

open Json Json.Fields Catalog

/-! ## Node types -/

/-- The types of script nodes. -/
inductive NodeType where
  | script
  | command
  | option
  | operand
  | control
  | operator
deriving DecidableEq, Repr, Inhabited

/-- The word for a node type. -/
def NodeType.word : NodeType → String
  | script => "script"
  | command => "command"
  | option => "option"
  | operand => "operand"
  | control => "control"
  | operator => "operator"

/-! ## Bindings -/

/-- Where a parameter is read from. -/
inductive BindingSource where
  | field
  | input
deriving DecidableEq, Repr, Inhabited

/-- A parameter of a node, and the field or slot it is read from. -/
structure Binding where
  key : String
  source : BindingSource
  name : String
deriving DecidableEq, Repr, Inhabited

/-- What the script needs to know about a slot of a control. -/
structure ControlSlot where
  name : String
  syntaxPrefix : Option String
  obligatory : Bool
  breakLineBefore : Bool
deriving DecidableEq, Repr, Inhabited

/-- What the script needs to know about a control. -/
structure ControlForm where
  syntaxEnd : Option String
  slots : List ControlSlot
deriving DecidableEq, Repr, Inhabited

/-- What the script needs to know about a slot of an operator. -/
structure OperatorSlot where
  name : String
  symbol : Option String
  symbolPlacement : Option SymbolPlacement
deriving DecidableEq, Repr, Inhabited

/-- What the script needs to know about an operator. -/
structure OperatorForm where
  slots : List OperatorSlot
  slotsWithImplicitData : List String
deriving DecidableEq, Repr, Inhabited

/-- Whether the block in a slot gets its data from the operator. -/
def OperatorForm.suppliesData (form : OperatorForm) (slot : String) : Bool :=
  form.slotsWithImplicitData.contains slot

/-- The part of a meaning that only controls and operators have. -/
inductive Form where
  | control (form : ControlForm)
  | operator (form : OperatorForm)
deriving DecidableEq, Repr, Inhabited

/-- The meaning of a block. -/
structure Meaning where
  nodeType : NodeType
  name : String
  bindings : List Binding
  form : Option Form
deriving DecidableEq, Repr, Inhabited

namespace Meaning

/-- The first parameter that is read from a slot. -/
def slotBinding? (meaning : Meaning) (slot : String) : Option Binding :=
  meaning.bindings.find? fun binding => binding.source == .input && binding.name == slot

/-- The form of a control. -/
def controlForm? (meaning : Meaning) : Option ControlForm :=
  match meaning.form with
  | some (.control form) => some form
  | _ => none

/-- The form of an operator. -/
def operatorForm? (meaning : Meaning) : Option OperatorForm :=
  match meaning.form with
  | some (.operator form) => some form
  | _ => none

end Meaning

/-! ## The meanings of all blocks -/

/-- The meanings of blocks, by id. -/
abbrev Meanings := IdMap Meaning

/-- Give a block its meaning, unless it has one. -/
def Meanings.attach (meanings : Meanings) (id : BlockId) (meaning : Meaning) : Meanings :=
  if meanings.contains id then meanings else meanings.insert id meaning

/-! ## Meanings as JSON -/

/-- A node type is read from its word. -/
def NodeType.decode : Decoder NodeType :=
  decodeVariant [("script", .script), ("command", .command), ("option", .option),
    ("operand", .operand), ("control", .control), ("operator", .operator)]

/-- The word for a source of a parameter. -/
def BindingSource.word : BindingSource → String
  | field => "field"
  | input => "input"

/-- A source is read from its word. -/
def BindingSource.decode : Decoder BindingSource :=
  decodeVariant [("field", .field), ("input", .input)]

/-- A parameter with its source as an object. -/
def Binding.encode (binding : Binding) : Value :=
  .object [("key", .string binding.key), ("source", .string binding.source.word),
    ("name", .string binding.name)]

/-- A parameter with its source; all members have to be there. -/
def Binding.decode : Decoder Binding :=
  decoder (Binding.mk
    <$> required "key" decodeString
    <*> required "source" BindingSource.decode
    <*> required "name" decodeString)

/-- A slot of a control as an object. -/
def ControlSlot.encode (slot : ControlSlot) : Value :=
  .object [("name", .string slot.name), ("syntaxPrefix", .ofText? slot.syntaxPrefix),
    ("obligatory", .bool slot.obligatory), ("breakLineBefore", .bool slot.breakLineBefore)]

/-- A slot of a control; only the text before it may be null. -/
def ControlSlot.decode : Decoder ControlSlot :=
  decoder (ControlSlot.mk
    <$> required "name" decodeString
    <*> nullable "syntaxPrefix" decodeString
    <*> required "obligatory" decodeBool
    <*> required "breakLineBefore" decodeBool)

/-- The form of a control as an object. -/
def ControlForm.encode (form : ControlForm) : Value :=
  .object [("syntaxEnd", .ofText? form.syntaxEnd),
    ("slots", .ofList ControlSlot.encode form.slots)]

/-- The form of a control; only the text at its end may be null. -/
def ControlForm.decode : Decoder ControlForm :=
  decoder (ControlForm.mk
    <$> nullable "syntaxEnd" decodeString
    <*> required "slots" (decodeList ControlSlot.decode))

/-- A slot of an operator as an object. -/
def OperatorSlot.encode (slot : OperatorSlot) : Value :=
  .object [("name", .string slot.name), ("symbol", .ofText? slot.symbol),
    ("symbolPlacement", SymbolPlacement.encode? slot.symbolPlacement)]

/-- A slot of an operator; its symbol and the place of that may be null. -/
def OperatorSlot.decode : Decoder OperatorSlot :=
  decoder (OperatorSlot.mk
    <$> required "name" decodeString
    <*> nullable "symbol" decodeString
    <*> nullable "symbolPlacement" SymbolPlacement.decode)

/-- The form of an operator as an object. -/
def OperatorForm.encode (form : OperatorForm) : Value :=
  .object [("slots", .ofList OperatorSlot.encode form.slots),
    ("slotsWithImplicitData", .ofTexts form.slotsWithImplicitData)]

/-- The form of an operator; all members have to be there. -/
def OperatorForm.decode : Decoder OperatorForm :=
  decoder (OperatorForm.mk
    <$> required "slots" (decodeList OperatorSlot.decode)
    <*> required "slotsWithImplicitData" decodeTexts)

/-- A form as an object whose one member says which form it is. -/
def Form.encode : Form → Value
  | control form => .object [("control", form.encode)]
  | operator form => .object [("operator", form.encode)]

/-- A form is read by the name of its one member. -/
def Form.decode : Decoder Form :=
  decodeTagged [("control", fun room tree => (ControlForm.decode room tree).map .control),
    ("operator", fun room tree => (OperatorForm.decode room tree).map .operator)]

namespace Meaning

/-- A meaning as a JSON object; the form is left out when there is none. -/
def encode (meaning : Meaning) : Value :=
  .object ([("nodeType", .string meaning.nodeType.word), ("name", .string meaning.name),
    ("bindings", .ofList Binding.encode meaning.bindings)] ++
    Value.memberIfPresent "definition" Form.encode meaning.form)

/-- A meaning; only its form may be left out. -/
def decode : Decoder Meaning :=
  decoder (Meaning.mk
    <$> required "nodeType" NodeType.decode
    <*> required "name" decodeString
    <*> required "bindings" (decodeList Binding.decode)
    <*> optional "definition" Form.decode)

/-- The meaning in a JSON text. -/
def ofText (text : String) : Except Misread Meaning :=
  decodeText decode text

end Meaning

end ShellComposer
