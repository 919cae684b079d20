import ShellComposer.Block.Graph
import ShellComposer.Block.Meaning
import ShellComposer.Catalog.Compiled
import ShellComposer.Rules.Violation
import ShellComposer.Settings

/-!
# Checking blocks

Each block is checked by the definition it stands for.  A command needs enough options and operands
and an accepted sequence of operands, unless its operands are supplied from outside; an operator
needs exactly one block in every slot; a control needs a block in each obligatory slot; values need
to be accepted by their rules.

Main results:

- Structure `Site`: what a check looks at.
- Definitions `Site.checkCommand`, `checkControl`, `checkOperator`, `checkOperand`, `checkOption`.
- Definition `Site.check`: the violations of a block.
- Definition `Site.checkAll`: the ledger after all blocks have been checked.
-/

namespace ShellComposer

open Catalog

/-- What a check looks at. -/
structure Site where
  graph : BlockGraph
  catalog : Catalog
  meanings : Meanings
  settings : Settings

namespace Site

/-! ## Commands -/

/-- The options of a command, in order. -/
def attachedOptions (site : Site) (id : BlockId) : List BlockId :=
  (site.graph.slotChain id optionsSlot).filter (site.graph.hasKind BlockKind.isOption)

/-- The operands of a command, in order. -/
def attachedOperands (site : Site) (id : BlockId) : List BlockId :=
  (site.graph.slotChain id operandsSlot).filter (site.graph.hasKind BlockKind.isOperand)

/-- Whether a command sits in a slot whose operator supplies it with data. -/
def suppliedFromOutside (site : Site) (id : BlockId) : Bool :=
  match site.graph.surroundParent id with
  | none => false
  | some (owner, slot) =>
    match (site.meanings.get? owner).bind Meaning.operatorForm? with
    | some form => form.suppliesData slot
    | none => false

/-- How many are missing of a least number, which may not be set. -/
def missingOf (least : Option UInt32) (count : Nat) : Nat :=
  match least with
  | some least => least.toNat - count
  | none => 0

/-- The violation of too few options. -/
def checkOptionCount (command : CommandDef) (count : Nat) : List Violation :=
  let missing := missingOf command.optionsMin count
  if missing = 0 then []
  else [⟨.minOptions, s!"Missing required options ({missing})."⟩]

/-- The violation of too few operands. -/
def checkOperandCount (command : CommandDef) (count : Nat) : List Violation :=
  let missing := missingOf command.operandsMin count
  if missing = 0 then []
  else [⟨.minOperands, s!"Missing required operands ({missing} at least)."⟩]

/-- The violation of too few operands of one kind among those attached. -/
def checkOperandKind (site : Site) (operands : List BlockId) (operand : OperandDef) :
    Option Violation :=
  let count := operands.countP (site.graph.hasKind (BlockKind.isOperandNamed operand.id))
  let missing := operand.cardinality.min.toNat - count
  if missing = 0 then none
  else some ⟨.missingOperand operand.id,
    s!"Missing operand: {operand.displayLabel} (needs {missing})."⟩

/-- What is put after each operand in a sequence. -/
def delimiter (site : Site) (command : CommandDef) : String :=
  command.operandIdsSequenceDelimiter.getD site.settings.defaultSequenceDelimiter

/-- The sequence of operands as a text: the name of each operand with a delimiter after it. -/
def sequenceText (site : Site) (command : CommandDef) (operands : List BlockId) : String :=
  String.join ((operands.filterMap site.meanings.get?).map fun meaning =>
    meaning.name ++ site.delimiter command)

/-- What is said about a sequence that no rule accepts. -/
def unacceptedSequence : String :=
  "The order or combination of blocks is invalid for this command."

/-- The violation of the rules about sequences.  Without rules every sequence is fine.  Otherwise
the first rule that matches decides: it accepts the sequence, or says what is wrong. -/
def checkSequence (site : Site) (command : CommandDef) (operands : List BlockId) :
    List Violation :=
  match site.catalog.sequenceRulesOf command.id with
  | [] => []
  | rules =>
    match rules.find? fun rule => rule.accepts (site.sequenceText command operands) with
    | none => [⟨.sequence, unacceptedSequence⟩]
    | some rule =>
      match rule.errorMessage with
      | some message => if message.isEmpty then [] else [⟨.sequence, message⟩]
      | none => []

/-- The violations of a command. -/
def checkCommand (site : Site) (id : BlockId) (command : CommandDef) : List Violation :=
  let options := site.attachedOptions id
  let operands := site.attachedOperands id
  checkOptionCount command options.length ++
    if site.suppliedFromOutside id then []
    else
      checkOperandCount command operands.length ++
        command.operands.filterMap (site.checkOperandKind operands) ++
        site.checkSequence command operands

/-! ## Controls and operators -/

/-- What is said about an empty slot. -/
def requiredSlot (slot : SlotDef) : String :=
  s!"The \"{slot.displayLabel}\" slot is required."

/-- The violations of a control: obligatory slots that are empty. -/
def checkControl (site : Site) (id : BlockId) (control : ControlDef) : List Violation :=
  (control.slots.filter fun slot =>
    slot.obligatory && (site.graph.slotHead id slot.name).isNone).map
    fun slot => ⟨.controlMissingSlot slot.name, requiredSlot slot⟩

/-- What is said about a slot with more than one block. -/
def stackedSlot : String :=
  "Operators accept only one command per slot. " ++
    "Use a grouping or subshell block if you need a sequence."

/-- The violation of one slot of an operator: no block, or more than one. -/
def checkOperatorSlot (site : Site) (id : BlockId) (slot : SlotDef) : Option Violation :=
  match site.graph.slotHead id slot.name with
  | none => some ⟨.operatorEmptySlot slot.name, requiredSlot slot⟩
  | some head =>
    if (site.graph.next head).isSome then some ⟨.operatorStackedSlot slot.name, stackedSlot⟩
    else none

/-- The violations of an operator. -/
def checkOperator (site : Site) (id : BlockId) (operator : OperatorDef) : List Violation :=
  operator.slots.filterMap (site.checkOperatorSlot id)

/-! ## Values -/

/-- The violations of rules about a value: one for each rule that does not accept it. -/
def checkValue (rules : List CompiledValueRule) (value : String) (id : Nat → ViolationId) :
    List Violation :=
  (rules.zipIdx.filter fun (rule, _) => !rule.accepts value).map
    fun (rule, position) => ⟨id position, rule.errorMessage⟩

/-- The violations of an operand. -/
def checkOperand (site : Site) (block : Block) (command : CommandDef) (operand : OperandDef) :
    List Violation :=
  checkValue (site.catalog.operandRulesOf command.id operand.id) (block.fieldText valueField)
    .operandRegex

/-- The violations of an option, whose argument is checked by the rules of its flag. -/
def checkOption (site : Site) (block : Block) (command : CommandDef) : List Violation :=
  match block.field? flagField with
  | none => []
  | some flag =>
    checkValue (site.catalog.argumentRulesFor command.id flag) (block.fieldText argumentField)
      .optionArgRegex

/-! ## All blocks -/

/-- The violations of a block. -/
def check (site : Site) (id : BlockId) : List Violation :=
  match site.graph.get? id with
  | none => []
  | some block =>
    match site.catalog.definition? block.kind with
    | some (.command command) => site.checkCommand id command
    | some (.control control) => site.checkControl id control
    | some (.operator operator) => site.checkOperator id operator
    | some (.operand command operand) => site.checkOperand block command operand
    | some (.option command) => site.checkOption block command
    | some .script => []
    | none => []

/-- The ledger after one block has been checked: only blocks of the script keep violations. -/
def checkInto (site : Site) (ledger : Ledger) (id : BlockId) : Ledger :=
  if site.graph.isEnabled id then ledger.replace id (site.check id) else ledger.clear id

/-- The ledger after all blocks have been checked. -/
def checkAll (site : Site) (ledger : Ledger) : Ledger :=
  site.graph.ids.foldl site.checkInto ledger

end Site

end ShellComposer
