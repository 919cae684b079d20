import ShellComposer.Text.Blank

/-!
# Definitions of a catalog

A catalog defines the commands, controls and operators that blocks can stand for.  A command has
options and operands with rules about their number, order and values; controls and operators have
slots that other blocks are plugged into.

Main results:

- Structures `CommandDef`, `ControlDef`, `OperatorDef`, `Definitions`.
- Definitions `CommandDef.option?`, `CommandDef.operand?`: the first definition under a name.
- Definitions `OperandDef.displayLabel`, `SlotDef.displayLabel`: how messages name them.
-/

namespace ShellComposer.Catalog

/-! ## Values and their rules -/

/-- What kind of text a value is. -/
inductive ValueType where
  | string
  | file
  | folder
  | number
deriving DecidableEq, Repr, Inhabited

/-- A pattern that a value must match, and what is said when it does not. -/
structure ValueRule where
  regex : String
  errorMessage : String
deriving DecidableEq, Repr, Inhabited

/-- A pattern for the whole sequence of operands.  The first pattern that matches decides: it either
carries a message, which is then reported, or accepts the sequence. -/
structure SyntaxRule where
  regexPattern : String
  errorMessage : Option String
deriving DecidableEq, Repr, Inhabited

/-- The most blocks of a kind. -/
inductive Maximum where
  | limited (count : UInt32)
  | unlimited
deriving DecidableEq, Repr, Inhabited

/-- The count, when there is one. -/
def Maximum.limit : Maximum → Option UInt32
  | limited count => some count
  | unlimited => none

/-- The fewest and the most blocks of a kind. -/
structure Cardinality where
  min : UInt32
  max : Maximum
deriving DecidableEq, Repr, Inhabited

/-- No bounds at all. -/
def Cardinality.any : Cardinality :=
  ⟨0, .unlimited⟩

/-! ## Commands -/

/-- The argument an option takes. -/
structure ArgumentDef where
  valueType : ValueType
  label : String
  defaultValue : Option String
  validations : List ValueRule
deriving DecidableEq, Repr, Inhabited

/-- An option of a command, known by its flag. -/
structure OptionDef where
  flag : String
  longFlag : Option String
  description : String
  argument : Option ArgumentDef
deriving DecidableEq, Repr, Inhabited

/-- An operand of a command. -/
structure OperandDef where
  id : String
  label : String
  description : String
  color : String
  valueType : ValueType
  defaultValue : String
  cardinality : Cardinality
  validations : List ValueRule
deriving DecidableEq, Repr, Inhabited

/-- The name of an operand in messages: its label, or its id when the label is empty. -/
def OperandDef.displayLabel (operand : OperandDef) : String :=
  if operand.label.isEmpty then operand.id else operand.label

/-- A command.  Its id may be missing in a document and is then its shell command. -/
structure CommandDef where
  givenId : Option String
  shellCommand : String
  label : String
  description : String
  color : String
  optionColor : String
  options : List OptionDef
  optionsMin : Option UInt32
  exclusiveOptions : List (List String)
  operands : List OperandDef
  operandsMin : Option UInt32
  operandSyntaxRules : List SyntaxRule
  operandIdsSequenceDelimiter : Option String
deriving DecidableEq, Repr, Inhabited

namespace CommandDef

/-- The id of a command, which is its shell command when none is given. -/
def id (command : CommandDef) : String :=
  command.givenId.getD command.shellCommand

/-- The first option with a flag. -/
def option? (command : CommandDef) (flag : String) : Option OptionDef :=
  command.options.find? fun option => option.flag == flag

/-- The first operand with an id. -/
def operand? (command : CommandDef) (id : String) : Option OperandDef :=
  command.operands.find? fun operand => operand.id == id

/-- Whether some option takes an argument. -/
def hasOptionArguments (command : CommandDef) : Bool :=
  command.options.any fun option => option.argument.isSome

/-- The command with an id of its own: a missing or empty id becomes the shell command. -/
def normalize (command : CommandDef) : CommandDef :=
  if (command.givenId.getD "").isEmpty
  then { command with givenId := some command.shellCommand }
  else command

end CommandDef

/-! ## Controls and operators -/

/-- On which side of its slot a symbol is written. -/
inductive SymbolPlacement where
  | before
  | after
deriving DecidableEq, Repr, Inhabited

/-- A slot of a control or an operator.  The check text says which blocks fit. -/
structure SlotDef where
  name : String
  label : Option String
  check : String
  symbol : Option String
  symbolPlacement : Option SymbolPlacement
  syntaxPrefix : Option String
  obligatory : Bool
  breakLineBefore : Bool
deriving DecidableEq, Repr, Inhabited

/-- The name of a slot in messages: its label, or its name when the label is missing or empty,
without colons and without white space at the ends. -/
def SlotDef.displayLabel (slot : SlotDef) : String :=
  let shown := match slot.label with
    | some label => if label.isEmpty then slot.name else label
    | none => slot.name
  Text.trim (String.ofList (shown.toList.filter (· != ':')))

/-- A control, such as a loop or a condition. -/
structure ControlDef where
  id : String
  shellCommand : String
  label : String
  description : String
  color : String
  syntaxEnd : Option String
  slots : List SlotDef
deriving DecidableEq, Repr, Inhabited

/-- The name of a control in the script: its shell command, or its id when that is empty. -/
def ControlDef.scriptName (control : ControlDef) : String :=
  if control.shellCommand.isEmpty then control.id else control.shellCommand

/-- An operator, such as a pipe.  The blocks in some of its slots get their data from it. -/
structure OperatorDef where
  id : String
  label : String
  description : String
  color : String
  slots : List SlotDef
  slotsWithImplicitData : List String
deriving DecidableEq, Repr, Inhabited

/-! ## The whole catalog -/

/-- A heading under which commands are offered. -/
structure CategoryDef where
  name : String
  commands : List String
deriving DecidableEq, Repr, Inhabited

/-- All definitions of a catalog. -/
structure Definitions where
  commands : List CommandDef
  operators : List OperatorDef
  controls : List ControlDef
  categories : List CategoryDef
deriving DecidableEq, Repr, Inhabited

/-- The definitions with an id for every command. -/
def Definitions.normalize (definitions : Definitions) : Definitions :=
  { definitions with commands := definitions.commands.map CommandDef.normalize }

end ShellComposer.Catalog
