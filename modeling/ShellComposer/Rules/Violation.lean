import ShellComposer.IdMap
import ShellComposer.Json.Writer

/-!
# Violations

A violation is something about a block that the learner has to put right.  It has an id, which says
what is violated, and a message.  A ledger keeps the violations of all blocks, at most one of each
id for a block.

Main results:

- Definition `ViolationId.text`: the id as it is shown.
- Definition `ViolationId.category`: how violations are grouped.
- Structure `Ledger` with `set`, `replace`, `clear`, `get`, `listed`, `total`.
-/

namespace ShellComposer

/-! ## Violations -/

/-- What a violation is about. -/
inductive ViolationId where
  | minOptions
  | minOperands
  | missingOperand (operand : String)
  | sequence
  | controlMissingSlot (slot : String)
  | operatorEmptySlot (slot : String)
  | operatorStackedSlot (slot : String)
  | operandRegex (rule : Nat)
  | optionArgRegex (rule : Nat)
deriving DecidableEq, Repr

/-- The groups of violations, in the order in which they are listed: something required is absent,
the arrangement of blocks is wrong, anything else. -/
inductive ViolationCategory where
  | missing
  | sequence
  | other
deriving DecidableEq, Repr

/-- The place of a category in the listing. -/
def ViolationCategory.rank : ViolationCategory → Nat
  | missing => 0
  | sequence => 1
  | other => 2

/-- The name of a category. -/
def ViolationCategory.name : ViolationCategory → String
  | missing => "Missing"
  | sequence => "Sequence"
  | other => "Other"

namespace ViolationId

/-- The group a violation belongs to. -/
def category : ViolationId → ViolationCategory
  | minOptions => .missing
  | minOperands => .missing
  | missingOperand _ => .missing
  | controlMissingSlot _ => .missing
  | operatorEmptySlot _ => .missing
  | sequence => .sequence
  | operatorStackedSlot _ => .sequence
  | operandRegex _ => .other
  | optionArgRegex _ => .other

/-- The id as it is shown. -/
def text : ViolationId → String
  | minOptions => "CARDINALITY_MIN_OPTIONS"
  | minOperands => "CARDINALITY_MIN_OPERANDS"
  | missingOperand operand => "CARDINALITY_MISSING_OPERAND_" ++ operand
  | sequence => "SYNTAX_ERROR"
  | controlMissingSlot slot => "CONTROL_MISSING_SLOT_" ++ slot
  | operatorEmptySlot slot => "OPERATOR_EMPTY_SLOT_" ++ slot
  | operatorStackedSlot slot => "OPERATOR_STACKED_SLOT_" ++ slot
  | operandRegex rule => "OPERAND_REGEX_" ++ Nat.repr rule
  | optionArgRegex rule => "OPTION_ARG_REGEX_" ++ Nat.repr rule

end ViolationId

/-- Something about a block that has to be put right. -/
structure Violation where
  id : ViolationId
  message : String
deriving DecidableEq, Repr

/-- A violation as a JSON object. -/
def Violation.encode (violation : Violation) : Json.Value :=
  .object [("id", .string violation.id.text), ("message", .string violation.message)]

/-! ## The ledger -/

/-- A record list with one more record, in place of any older record of the same id. -/
def setRecord (violation : Violation) (records : List Violation) : List Violation :=
  records.filter (fun record => record.id != violation.id) ++ [violation]

/-- A list of violations reduced to the last record of each id. -/
def lastRecords (violations : List Violation) : List Violation :=
  violations.foldl (fun records violation => setRecord violation records) []

/-- The open violations of all blocks. -/
structure Ledger where
  records : IdMap (List Violation)

namespace Ledger

/-- The ledger without records. -/
def empty : Ledger :=
  ⟨.empty⟩

instance : Inhabited Ledger :=
  ⟨empty⟩

/-- The records of a block, oldest first. -/
def get (ledger : Ledger) (block : BlockId) : List Violation :=
  (ledger.records.get? block).getD []

/-- Write one record of a block, in place of any older record of the same id. -/
def set (ledger : Ledger) (block : BlockId) (violation : Violation) : Ledger :=
  ⟨ledger.records.insert block (setRecord violation (ledger.get block))⟩

/-- Drop all records of a block. -/
def clear (ledger : Ledger) (block : BlockId) : Ledger :=
  ⟨ledger.records.erase block⟩

/-- Drop the list of a block if it is there and empty. -/
def sweep (ledger : Ledger) (block : BlockId) : Ledger :=
  match ledger.records.get? block with
  | some [] => ledger.clear block
  | _ => ledger

/-- Replace the records of a block; of several with the same id the last one stays.  No empty list
is left behind. -/
def replace (ledger : Ledger) (block : BlockId) (violations : List Violation) : Ledger :=
  (violations.foldl (fun ledger violation => ledger.set block violation)
    (ledger.clear block)).sweep block

/-- The blocks with records, in increasing order, and their records. -/
def listed (ledger : Ledger) : List (BlockId × List Violation) :=
  ledger.records.entries.filter fun entry => !entry.2.isEmpty

/-- Whether no block has records. -/
def isEmpty (ledger : Ledger) : Bool :=
  ledger.records.entries.all fun entry => entry.2.isEmpty

/-- The number of records of all blocks. -/
def total (ledger : Ledger) : Nat :=
  ledger.records.entries.foldl (fun count entry => count + entry.2.length) 0

/-! ### What each operation does to a reading -/

@[simp] theorem get_set_self (ledger : Ledger) (block : BlockId) (violation : Violation) :
    (ledger.set block violation).get block = setRecord violation (ledger.get block) := by
  simp [set, get]

theorem get_set_ne (ledger : Ledger) {block other : BlockId} (h : other ≠ block)
    (violation : Violation) : (ledger.set block violation).get other = ledger.get other := by
  simp [set, get, IdMap.get?_insert_ne _ h]

@[simp] theorem get_clear_self (ledger : Ledger) (block : BlockId) :
    (ledger.clear block).get block = [] := by
  simp [clear, get]

theorem get_clear_ne (ledger : Ledger) {block other : BlockId} (h : other ≠ block) :
    (ledger.clear block).get other = ledger.get other := by
  simp [clear, get, IdMap.get?_erase_ne _ h]

/-- Nothing that is read changes when an empty list is dropped. -/
@[simp] theorem get_sweep (ledger : Ledger) (block other : BlockId) :
    (ledger.sweep block).get other = ledger.get other := by
  rw [sweep]
  split
  · rename_i hempty
    by_cases hsame : other = block
    · rw [hsame, get_clear_self, get, hempty, Option.getD_some]
    · exact get_clear_ne ledger hsame
  · rfl

end Ledger

end ShellComposer
