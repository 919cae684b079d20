import ShellComposer.Catalog.Definition
import ShellComposer.Json.Decoder
import ShellComposer.Json.Writer

/-!
# Catalogs as JSON documents

Every definition is written as an object with all its members, absent texts and bounds as null.  It
is read more leniently: whatever does not identify a thing may be left out and then has a default,
and some members have a second name.

Main results:

- Definitions `encode` and `decode` of every kind of definition.
- Definition `Maximum.ofText`: the maximum that a text denotes.
- Definition `Definitions.ofText`: the definitions in a document.
-/

namespace ShellComposer.Catalog

open Json Json.Fields

/-! ## Words and bounds -/

/-- The word for a type of value. -/
def ValueType.word : ValueType → String
  | string => "string"
  | file => "file"
  | folder => "folder"
  | number => "number"

/-- A type of value is read from its word. -/
def ValueType.decode : Decoder ValueType :=
  decodeVariant [("string", .string), ("file", .file), ("folder", .folder), ("number", .number)]

/-- The word for a placement. -/
def SymbolPlacement.word : SymbolPlacement → String
  | before => "before"
  | after => "after"

/-- A placement or null. -/
def SymbolPlacement.encode? (placement : Option SymbolPlacement) : Value :=
  .ofOption (fun p => .string p.word) placement

/-- A placement is read from its word. -/
def SymbolPlacement.decode : Decoder SymbolPlacement :=
  decodeVariant [("before", .before), ("after", .after)]

/-- A bound or null. -/
def encodeBound? (bound : Option UInt32) : Value :=
  .ofOption (fun n => .natural n.toNat) bound

/-! ## Rules -/

/-- A rule about a value as an object. -/
def ValueRule.encode (rule : ValueRule) : Value :=
  .object [("regex", .string rule.regex), ("errorMessage", .string rule.errorMessage)]

/-- A rule about a value; its message may be left out. -/
def ValueRule.decode : Decoder ValueRule :=
  decoder (ValueRule.mk
    <$> required "regex" decodeString
    <*> defaulted "errorMessage" decodeString "")

/-- A rule about sequences as an object. -/
def SyntaxRule.encode (rule : SyntaxRule) : Value :=
  .object [("regexPattern", .string rule.regexPattern),
    ("errorMessage", .ofText? rule.errorMessage)]

/-- A rule about sequences; both members have a shorter name, and the message may be left out. -/
def SyntaxRule.decode : Decoder SyntaxRule :=
  decoder (SyntaxRule.mk
    <$> requiredUnder "regexPattern" "pattern" decodeString
    <*> optionalUnder "errorMessage" "message" decodeString)

/-! ## Cardinalities -/

/-- The word for no maximum. -/
def unlimitedWord : String := "unlimited"

/-- A maximum: a number, or the word for none. -/
def Maximum.encode : Maximum → Value
  | limited count => .natural count.toNat
  | unlimited => .string unlimitedWord

/-- The number that a text of decimal digits denotes, with or without a plus sign in front. -/
def digitsValue? (text : String) : Option Nat :=
  let digits := match text.toList with
    | '+' :: rest => rest
    | cs => cs
  if !digits.isEmpty && digits.all Char.isDigit then some (Numeral.digitsValue digits) else none

/-- The maximum that a text denotes: the word for none, in small letters or capitals, or a number
between blanks. -/
def Maximum.ofText (text : String) : Except Misread Maximum :=
  if Text.sameIgnoringCase text unlimitedWord then .ok .unlimited
  else
    match digitsValue? (Text.trim text) with
    | some n => if n < UInt32.size then .ok (.limited (.ofNat n)) else .error (.badMaximum text)
    | none => .error (.badMaximum text)

/-- A maximum, written as a number or as a text.  It is taken into memory before it is looked at. -/
def Maximum.decode : Decoder Maximum := fun room tree =>
  if tree.holdable room then
    match tree with
    | .string (some text) => Maximum.ofText text
    | tree => (decodeUInt32 room tree).map .limited
  else .error .malformed

/-- A cardinality as an object. -/
def Cardinality.encode (cardinality : Cardinality) : Value :=
  .object [("min", .natural cardinality.min.toNat), ("max", cardinality.max.encode)]

/-- A cardinality; a bound that is left out does not bound. -/
def Cardinality.decode : Decoder Cardinality :=
  decoder (Cardinality.mk
    <$> defaulted "min" decodeUInt32 0
    <*> defaulted "max" Maximum.decode .unlimited)

/-! ## Commands -/

/-- The argument of an option as an object. -/
def ArgumentDef.encode (argument : ArgumentDef) : Value :=
  .object [("type", .string argument.valueType.word), ("label", .string argument.label),
    ("defaultValue", .ofText? argument.defaultValue),
    ("validations", .ofList ValueRule.encode argument.validations)]

/-- The argument of an option; all its members may be left out. -/
def ArgumentDef.decode : Decoder ArgumentDef :=
  decoder (ArgumentDef.mk
    <$> defaulted "type" ValueType.decode .string
    <*> defaulted "label" decodeString ""
    <*> optional "defaultValue" decodeString
    <*> defaulted "validations" (decodeList ValueRule.decode) [])

/-- An option as an object. -/
def OptionDef.encode (option : OptionDef) : Value :=
  .object [("flag", .string option.flag), ("longFlag", .ofText? option.longFlag),
    ("description", .string option.description),
    ("argument", .ofOption ArgumentDef.encode option.argument)]

/-- An option; only its flag has to be there. -/
def OptionDef.decode : Decoder OptionDef :=
  decoder (OptionDef.mk
    <$> required "flag" decodeString
    <*> optional "longFlag" decodeString
    <*> defaulted "description" decodeString ""
    <*> optional "argument" ArgumentDef.decode)

/-- An operand as an object. -/
def OperandDef.encode (operand : OperandDef) : Value :=
  .object [("id", .string operand.id), ("label", .string operand.label),
    ("description", .string operand.description), ("color", .string operand.color),
    ("type", .string operand.valueType.word), ("defaultValue", .string operand.defaultValue),
    ("cardinality", operand.cardinality.encode),
    ("validations", .ofList ValueRule.encode operand.validations)]

/-- An operand; only its id has to be there. -/
def OperandDef.decode : Decoder OperandDef :=
  decoder (OperandDef.mk
    <$> required "id" decodeString
    <*> defaulted "label" decodeString ""
    <*> defaulted "description" decodeString ""
    <*> defaulted "color" decodeString ""
    <*> defaulted "type" ValueType.decode .string
    <*> defaulted "defaultValue" decodeString ""
    <*> defaulted "cardinality" Cardinality.decode .any
    <*> defaulted "validations" (decodeList ValueRule.decode) [])

/-- A command as an object. -/
def CommandDef.encode (command : CommandDef) : Value :=
  .object [("id", .ofText? command.givenId), ("shellCommand", .string command.shellCommand),
    ("label", .string command.label), ("description", .string command.description),
    ("color", .string command.color), ("optionColor", .string command.optionColor),
    ("options", .ofList OptionDef.encode command.options),
    ("optionsMin", encodeBound? command.optionsMin),
    ("exclusiveOptions", .ofList .ofTexts command.exclusiveOptions),
    ("operands", .ofList OperandDef.encode command.operands),
    ("operandsMin", encodeBound? command.operandsMin),
    ("operandSyntaxRules", .ofList SyntaxRule.encode command.operandSyntaxRules),
    ("operandIdsSequenceDelimiter", .ofText? command.operandIdsSequenceDelimiter)]

/-- A command; only its shell command has to be there.  The delimiter has a second name. -/
def CommandDef.decode : Decoder CommandDef :=
  decoder (CommandDef.mk
    <$> optional "id" decodeString
    <*> required "shellCommand" decodeString
    <*> defaulted "label" decodeString ""
    <*> defaulted "description" decodeString ""
    <*> defaulted "color" decodeString ""
    <*> defaulted "optionColor" decodeString ""
    <*> defaulted "options" (decodeList OptionDef.decode) []
    <*> optional "optionsMin" decodeUInt32
    <*> defaulted "exclusiveOptions" (decodeList decodeTexts) []
    <*> defaulted "operands" (decodeList OperandDef.decode) []
    <*> optional "operandsMin" decodeUInt32
    <*> defaulted "operandSyntaxRules" (decodeList SyntaxRule.decode) []
    <*> optionalUnder "operandIdsSequenceDelimiter" "operandIdsSequenceSeparator" decodeString)

/-! ## Controls and operators -/

/-- A slot as an object. -/
def SlotDef.encode (slot : SlotDef) : Value :=
  .object [("name", .string slot.name), ("label", .ofText? slot.label),
    ("check", .string slot.check), ("symbol", .ofText? slot.symbol),
    ("symbolPlacement", SymbolPlacement.encode? slot.symbolPlacement),
    ("syntaxPrefix", .ofText? slot.syntaxPrefix), ("obligatory", .bool slot.obligatory),
    ("breakLineBefore", .bool slot.breakLineBefore)]

/-- The check text of a slot that has none: commands fit. -/
def standardCheck : String := "command"

/-- A slot; only its name has to be there. -/
def SlotDef.decode : Decoder SlotDef :=
  decoder (SlotDef.mk
    <$> required "name" decodeString
    <*> optional "label" decodeString
    <*> defaulted "check" decodeString standardCheck
    <*> optional "symbol" decodeString
    <*> optional "symbolPlacement" SymbolPlacement.decode
    <*> optional "syntaxPrefix" decodeString
    <*> defaulted "obligatory" decodeBool false
    <*> defaulted "breakLineBefore" decodeBool false)

/-- A control as an object. -/
def ControlDef.encode (control : ControlDef) : Value :=
  .object [("id", .string control.id), ("shellCommand", .string control.shellCommand),
    ("label", .string control.label), ("description", .string control.description),
    ("color", .string control.color), ("syntaxEnd", .ofText? control.syntaxEnd),
    ("slots", .ofList SlotDef.encode control.slots)]

/-- A control; only its id has to be there. -/
def ControlDef.decode : Decoder ControlDef :=
  decoder (ControlDef.mk
    <$> required "id" decodeString
    <*> defaulted "shellCommand" decodeString ""
    <*> defaulted "label" decodeString ""
    <*> defaulted "description" decodeString ""
    <*> defaulted "color" decodeString ""
    <*> optional "syntaxEnd" decodeString
    <*> defaulted "slots" (decodeList SlotDef.decode) [])

/-- An operator as an object. -/
def OperatorDef.encode (operator : OperatorDef) : Value :=
  .object [("id", .string operator.id), ("label", .string operator.label),
    ("description", .string operator.description), ("color", .string operator.color),
    ("slots", .ofList SlotDef.encode operator.slots),
    ("slotsWithImplicitData", .ofTexts operator.slotsWithImplicitData)]

/-- An operator; only its id has to be there. -/
def OperatorDef.decode : Decoder OperatorDef :=
  decoder (OperatorDef.mk
    <$> required "id" decodeString
    <*> defaulted "label" decodeString ""
    <*> defaulted "description" decodeString ""
    <*> defaulted "color" decodeString ""
    <*> defaulted "slots" (decodeList SlotDef.decode) []
    <*> defaulted "slotsWithImplicitData" decodeTexts [])

/-! ## Whole documents -/

/-- A heading as an object. -/
def CategoryDef.encode (category : CategoryDef) : Value :=
  .object [("name", .string category.name), ("commands", .ofTexts category.commands)]

/-- A heading; only its name has to be there. -/
def CategoryDef.decode : Decoder CategoryDef :=
  decoder (CategoryDef.mk
    <$> required "name" decodeString
    <*> defaulted "commands" decodeTexts [])

/-- All definitions as an object. -/
def Definitions.encode (definitions : Definitions) : Value :=
  .object [("commands", .ofList CommandDef.encode definitions.commands),
    ("operators", .ofList OperatorDef.encode definitions.operators),
    ("controls", .ofList ControlDef.encode definitions.controls),
    ("categories", .ofList CategoryDef.encode definitions.categories)]

/-- All definitions; each list may be left out. -/
def Definitions.decode : Decoder Definitions :=
  decoder (Definitions.mk
    <$> defaulted "commands" (decodeList CommandDef.decode) []
    <*> defaulted "operators" (decodeList OperatorDef.decode) []
    <*> defaulted "controls" (decodeList ControlDef.decode) []
    <*> defaulted "categories" (decodeList CategoryDef.decode) [])

/-- The definitions in a document. -/
def Definitions.ofText (text : String) : Except Misread Definitions :=
  decodeText decode text

end ShellComposer.Catalog
