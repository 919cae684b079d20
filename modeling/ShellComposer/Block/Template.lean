import ShellComposer.Block.Graph
import ShellComposer.Block.Meaning
import ShellComposer.Catalog.Compiled

/-!
# Templates of new blocks

The definition of a block decides the slots and fields it starts with and the meaning it keeps.

Main results:

- Structure `Template`.
- Definition `Definition.template`: the template of a definition.
-/

namespace ShellComposer

open Catalog

/-- What a new block starts with. -/
structure Template where
  slots : List Slot
  fields : List (String × String)
  meaning : Meaning
deriving DecidableEq, Repr

/-- The meaning of the script block. -/
def scriptMeaning : Meaning :=
  ⟨.script, "script", [⟨"commands", .input, stackSlot⟩], none⟩

/-- The key of the parameter read from a slot of a control or operator. -/
def slotKey (slot : String) : String :=
  Text.lowerLatin slot

namespace Template

/-- The template of the script block. -/
def script : Template :=
  ⟨BlockGraph.scriptSlots, [], scriptMeaning⟩

/-- The template of a command: a slot for options and one for operands. -/
def command (command : CommandDef) : Template where
  slots := [⟨optionsSlot, .option command.id⟩, ⟨operandsSlot, .operand command.id⟩]
  fields := []
  meaning := ⟨.command, command.shellCommand,
    [⟨"options", .input, optionsSlot⟩, ⟨"operands", .input, operandsSlot⟩], none⟩

/-- The argument an option starts with: the default of the first option of the command. -/
def firstArgument (command : CommandDef) : String :=
  match command.options with
  | [] => ""
  | first :: _ => (first.argument.bind (·.defaultValue)).getD ""

/-- The template of an option: the flag of the first option of the command, and a field for an
argument when some option takes one. -/
def option (command : CommandDef) : Template where
  slots := []
  fields :=
    (match command.options with
      | [] => []
      | first :: _ => [(flagField, first.flag)]) ++
    if command.hasOptionArguments then [(argumentField, firstArgument command)] else []
  meaning := ⟨.option, command.shellCommand,
    ⟨"flag", .field, flagField⟩ ::
      (if command.hasOptionArguments then [⟨"argument", .field, argumentField⟩] else []),
    none⟩

/-- The template of an operand: its default value. -/
def operand (operand : OperandDef) : Template where
  slots := []
  fields := [(valueField, operand.defaultValue)]
  meaning := ⟨.operand, operand.id, [⟨"value", .field, valueField⟩], none⟩

/-- The slots of a control or operator, as they are on its block. -/
def slotsOf (slots : List SlotDef) : List Slot :=
  slots.map fun slot => ⟨slot.name, .ofCheck slot.check⟩

/-- The parameters of a control or operator: one for each slot. -/
def bindingsOf (slots : List SlotDef) : List Binding :=
  slots.map fun slot => ⟨slotKey slot.name, .input, slot.name⟩

/-- The form of a control. -/
def controlForm (control : ControlDef) : ControlForm where
  syntaxEnd := control.syntaxEnd
  slots := control.slots.map fun slot =>
    ⟨slot.name, slot.syntaxPrefix, slot.obligatory, slot.breakLineBefore⟩

/-- The form of an operator. -/
def operatorForm (operator : OperatorDef) : OperatorForm where
  slots := operator.slots.map fun slot => ⟨slot.name, slot.symbol, slot.symbolPlacement⟩
  slotsWithImplicitData := operator.slotsWithImplicitData

/-- The template of a control. -/
def control (control : ControlDef) : Template where
  slots := slotsOf control.slots
  fields := []
  meaning := ⟨.control, control.scriptName, bindingsOf control.slots,
    some (.control (controlForm control))⟩

/-- The template of an operator. -/
def operator (operator : OperatorDef) : Template where
  slots := slotsOf operator.slots
  fields := []
  meaning := ⟨.operator, operator.id, bindingsOf operator.slots,
    some (.operator (operatorForm operator))⟩

end Template

/-- The template of a definition. -/
def Definition.template : Definition → Template
  | script => .script
  | command definition => .command definition
  | option definition => .option definition
  | operand _ definition => .operand definition
  | control definition => .control definition
  | operator definition => .operator definition

end ShellComposer
