import ShellComposer.Block.Graph
import ShellComposer.Block.Meaning
import ShellComposer.Rules.Violation

/-!
# Diagnostics

The violations of a block are shown in two ways: as a list of messages, and as one text for a
tooltip.  What is missing comes first, then what is in the wrong order, then the rest.

Main results:

- Definition `ordered`: violations by category, each category in the order given.
- Definition `warningText`: the tooltip.
- Definition `subject`: how a block is called.
- Definition `diagnostics`: the reports of all blocks of the script that have violations.
-/

namespace ShellComposer

/-! ## Violations of one block -/

/-- Violations by category; within a category the order given is kept. -/
def ordered (violations : List Violation) : List Violation :=
  violations.mergeSort fun a b => a.id.category.rank ≤ b.id.category.rank

/-- What the message about a missing operand starts with. -/
def missingOperandLead : String := "Missing operand: "

/-- The heading over the missing operands. -/
def missingOperandsHeading : String := "Missing operands:"

/-- The line between what is missing and everything else. -/
def separator : String := "----------------"

/-- Whether a violation is about a missing operand of a certain kind. -/
def Violation.isMissingOperand (violation : Violation) : Bool :=
  match violation.id with
  | .missingOperand _ => true
  | _ => false

/-- Whether a violation is about an empty slot. -/
def Violation.isEmptySlot (violation : Violation) : Bool :=
  match violation.id with
  | .controlMissingSlot _ => true
  | .operatorEmptySlot _ => true
  | _ => false

/-- A line of the tooltip about something missing. -/
def bullet (violation : Violation) : String :=
  "* " ++ violation.message

/-- The lines about missing operands, under their heading. -/
def missingOperandLines (violations : List Violation) : List String :=
  match violations.filter Violation.isMissingOperand with
  | [] => []
  | missing => missingOperandsHeading ::
    missing.map fun v => "    - " ++ Text.dropBeginning v.message missingOperandLead

/-- The line about the first violation with an id, if there is one. -/
def firstLine (id : ViolationId) (violations : List Violation) : List String :=
  ((violations.find? fun v => v.id == id).map bullet).toList

/-- The lines about everything that is missing. -/
def missingLines (violations : List Violation) : List String :=
  missingOperandLines violations ++ firstLine .minOperands violations ++
    firstLine .minOptions violations ++ (violations.filter Violation.isEmptySlot).map bullet

/-- The lines about everything else. -/
def otherLines (violations : List Violation) : List String :=
  ((ordered violations).filter fun v => v.id.category != .missing).map fun v => "! " ++ v.message

/-- All violations of a block in one text, or nothing when there are none. -/
def warningText (violations : List Violation) : Option String :=
  if violations.isEmpty then none
  else
    let missing := missingLines violations
    let others := otherLines violations
    let middle := if missing.isEmpty || others.isEmpty then [] else [separator]
    some ("\n".intercalate (missing ++ middle ++ others))

/-! ## Reports -/

/-- How a block is called: by the type of its node and by its name, flag or value. -/
def subject (g : BlockGraph) (meanings : Meanings) (id : BlockId) : String :=
  match g.get? id with
  | none => Nat.repr id
  | some block =>
    match meanings.get? id with
    | none => block.kind.inspect
    | some meaning =>
      let named := s!"[{meaning.nodeType.word}] {meaning.name}"
      match meaning.nodeType with
      | .command => named
      | .control => named
      | .operator => named
      | .option =>
        let flag := block.fieldText flagField
        "[option] " ++ if flag.isEmpty then "?" else flag
      | .operand =>
        "[operand: " ++ meaning.name ++ "] \"" ++ block.fieldText valueField ++ "\""
      | .script => "[script]"

/-- The violations of a block as they are shown. -/
structure Diagnostic where
  block : BlockId
  subject : String
  messages : List String
  warningText : String
deriving DecidableEq, Repr

/-- A diagnostic as a JSON object. -/
def Diagnostic.encode (diagnostic : Diagnostic) : Json.Value :=
  .object [("blockId", .natural diagnostic.block), ("subject", .string diagnostic.subject),
    ("messages", Json.Value.ofTexts diagnostic.messages),
    ("warningText", .string diagnostic.warningText)]

/-- The reports of all blocks of the script that have violations, by increasing id. -/
def diagnostics (g : BlockGraph) (meanings : Meanings) (ledger : Ledger) : List Diagnostic :=
  (ledger.listed.filter fun entry => g.isEnabled entry.1).map fun entry =>
    { block := entry.1
      subject := subject g meanings entry.1
      messages := (ordered entry.2).map Violation.message
      warningText := (warningText entry.2).getD "" }

end ShellComposer
