import ShellComposer.Catalog.Document
import ShellComposer.Fault
import ShellComposer.Pattern.Compile

/-!
# Compiled catalogs

A document becomes a catalog when its ids are unique and its patterns are valid; otherwise every
defect is reported.  The patterns of a catalog are compiled once, by whatever engine is used for
them.

Main results:

- Definition `Catalog.defects`: all defects of a document, in the order of the document.
- Definitions `Catalog.build`, `Catalog.load`: the catalog of a document without defects.
- Definitions `Catalog.command?` and its like: looking up definitions and compiled rules.
- Definition `Catalog.definition?`: the definition that a kind of block stands for.
-/

namespace ShellComposer

open Json Catalog Pattern

/-! ## Rules -/

/-- A compiled rule about the sequence of operands. -/
structure CompiledSyntaxRule where
  accepts : Matcher
  errorMessage : Option String

/-- A compiled rule about a value. -/
structure CompiledValueRule where
  accepts : Matcher
  errorMessage : String

/-- A catalog: its definitions and their compiled rules.  Of rules entered twice under the same key
the later ones count. -/
structure Catalog where
  definitions : Definitions
  sequenceRules : List (String × List CompiledSyntaxRule)
  operandRules : List ((String × String) × List CompiledValueRule)
  argumentRules : List ((String × String) × List CompiledValueRule)

namespace Catalog

/-- A pattern for a whole sequence of operands, tied to both ends of the text. -/
def wholeSequence (pattern : String) : String :=
  "^(?:" ++ pattern ++ ")$"

/-- Compile a rule about the sequence of operands, if its pattern is valid. -/
def compileSyntaxRule (engine : Engine) (rule : SyntaxRule) : Option CompiledSyntaxRule :=
  (engine (wholeSequence rule.regexPattern)).map fun accepts => ⟨accepts, rule.errorMessage⟩

/-- Compile a rule about a value, if its pattern is valid. -/
def compileValueRule (engine : Engine) (rule : ValueRule) : Option CompiledValueRule :=
  (engine rule.regex).map fun accepts => ⟨accepts, rule.errorMessage⟩

/-! ## Defects -/

/-- The ids that have occurred before, each as often as it occurs again. -/
def repeatedIds (seen : List String) : List String → List String
  | [] => []
  | id :: rest =>
    if seen.contains id then id :: repeatedIds seen rest else repeatedIds (id :: seen) rest

/-- The repeated ids of a list of definitions. -/
def duplicateDefects (space : IdSpace) (ids : List String) : List Fault :=
  (repeatedIds [] ids).map (.duplicateId space)

/-- The rules about sequences whose patterns are not valid. -/
def sequenceDefects (engine : Engine) (command : CommandDef) : List Fault :=
  (command.operandSyntaxRules.filter fun rule => (compileSyntaxRule engine rule).isNone).map
    fun rule => .invalidSyntaxRule rule.regexPattern command.id

/-- The rules about a value whose patterns are not valid. -/
def valueDefects (engine : Engine) (owner : RuleOwner) (rules : List ValueRule) : List Fault :=
  (rules.filter fun rule => (compileValueRule engine rule).isNone).map
    fun rule => .invalidValueRule rule.regex owner

/-- The rules about the argument of an option; without an argument there are none. -/
def argumentRulesOf (option : OptionDef) : List ValueRule :=
  match option.argument with
  | some argument => argument.validations
  | none => []

/-- The defects of the rules of a command: about sequences, operand values and arguments. -/
def commandDefects (engine : Engine) (command : CommandDef) : List Fault :=
  sequenceDefects engine command ++
  (command.operands.flatMap fun operand =>
    valueDefects engine (.operand operand.id command.id) operand.validations) ++
  command.options.flatMap fun option =>
    valueDefects engine (.option option.flag command.id) (argumentRulesOf option)

/-- All defects: repeated ids of commands, controls and operators, then the defects of the rules,
command by command. -/
def defects (engine : Engine) (definitions : Definitions) : List Fault :=
  duplicateDefects .command (definitions.commands.map CommandDef.id) ++
  duplicateDefects .control (definitions.controls.map ControlDef.id) ++
  duplicateDefects .operator (definitions.operators.map OperatorDef.id) ++
  definitions.commands.flatMap (commandDefects engine)

/-! ## Building -/

/-- The compiled rules about values of the operands of a command. -/
def compileOperandRules (engine : Engine) (command : CommandDef) :
    List ((String × String) × List CompiledValueRule) :=
  command.operands.map fun operand =>
    ((command.id, operand.id), operand.validations.filterMap (compileValueRule engine))

/-- The compiled rules about arguments of the options of a command that take one. -/
def compileArgumentRules (engine : Engine) (command : CommandDef) :
    List ((String × String) × List CompiledValueRule) :=
  command.options.filterMap fun option =>
    option.argument.map fun argument =>
      ((command.id, option.flag), argument.validations.filterMap (compileValueRule engine))

/-- The catalog of definitions whose commands all have ids. -/
def compile (engine : Engine) (definitions : Definitions) : Catalog where
  definitions := definitions
  sequenceRules := definitions.commands.map fun command =>
    (command.id, command.operandSyntaxRules.filterMap (compileSyntaxRule engine))
  operandRules := definitions.commands.flatMap (compileOperandRules engine)
  argumentRules := definitions.commands.flatMap (compileArgumentRules engine)

/-- The catalog of some definitions, or all their defects. -/
def build (engine : Engine) (definitions : Definitions) : Except (List Fault) Catalog :=
  let normal := definitions.normalize
  match defects engine normal with
  | [] => .ok (compile engine normal)
  | found => .error found

/-- The definitions in a document, or the fault in it. -/
def parse (text : String) : Except (List Fault) Definitions :=
  match Definitions.ofText text with
  | .ok definitions => .ok definitions
  | .error why => .error [.malformedCatalog why]

/-- The catalog in a document, or all its defects. -/
def load (engine : Engine) (text : String) : Except (List Fault) Catalog := do
  build engine (← parse text)

/-- The heading under which nothing is offered when there is no catalog. -/
def offlineCategory : String := "Offline"

/-- The catalog to work with when there is none. -/
def offline : Catalog where
  definitions := ⟨[], [], [], [⟨offlineCategory, []⟩]⟩
  sequenceRules := []
  operandRules := []
  argumentRules := []

instance : Inhabited Catalog :=
  ⟨offline⟩

/-- The catalog in a document, or the offline one where there is no document. -/
def loadOrOffline (engine : Engine) : Option String → Except (List Fault) Catalog
  | some text => load engine text
  | none => .ok offline

/-! ## Looking up -/

/-- Whether a catalog has no commands to offer. -/
def isOffline (catalog : Catalog) : Bool :=
  catalog.definitions.commands.isEmpty

/-- The command with an id. -/
def command? (catalog : Catalog) (id : String) : Option CommandDef :=
  catalog.definitions.commands.find? fun command => command.id == id

/-- The control with an id. -/
def control? (catalog : Catalog) (id : String) : Option ControlDef :=
  catalog.definitions.controls.find? fun control => control.id == id

/-- The operator with an id. -/
def operator? (catalog : Catalog) (id : String) : Option OperatorDef :=
  catalog.definitions.operators.find? fun operator => operator.id == id

/-- The rules entered last under a key, or none. -/
def rulesUnder {κ α : Type} [BEq κ] (key : κ) (entries : List (κ × List α)) : List α :=
  (entries.reverse.lookup key).getD []

/-- The rules about the sequence of operands of a command. -/
def sequenceRulesOf (catalog : Catalog) (command : String) : List CompiledSyntaxRule :=
  rulesUnder command catalog.sequenceRules

/-- The rules about the values of an operand of a command. -/
def operandRulesOf (catalog : Catalog) (command operand : String) : List CompiledValueRule :=
  rulesUnder (command, operand) catalog.operandRules

/-- The rules about the argument of an option of a command. -/
def argumentRulesFor (catalog : Catalog) (command flag : String) : List CompiledValueRule :=
  rulesUnder (command, flag) catalog.argumentRules

end Catalog

/-! ## Definitions of kinds -/

/-- The definition that a kind of block stands for. -/
inductive Definition where
  | script
  | command (command : CommandDef)
  | option (command : CommandDef)
  | operand (command : CommandDef) (operand : OperandDef)
  | control (control : ControlDef)
  | operator (operator : OperatorDef)
deriving DecidableEq, Repr

/-- The definition of a kind, if the catalog has it. -/
def Catalog.definition? (catalog : Catalog) : BlockKind → Option Definition
  | .script => some .script
  | .command id => (catalog.command? id).map .command
  | .option id => (catalog.command? id).map .option
  | .operand id name => do
    let command ← catalog.command? id
    let operand ← command.operand? name
    return .operand command operand
  | .control id => (catalog.control? id).map .control
  | .operator id => (catalog.operator? id).map .operator

end ShellComposer
