import ShellComposer.Proofs.Ledger
import ShellComposer.Proofs.Loaded
import ShellComposer.Proofs.Reaction

/-!
# What each check asks for

A check lists violations.  Here each check is matched to the condition under which it has nothing to
list, and a workspace is not blocked exactly when the checks of all its enabled blocks have nothing
to list.

Main results:

- Theorems `checkOptionCount_eq_nil_iff` and its like: the condition that each check asks for.
- Theorem `Faultless.checkSequence_eq_nil_iff`: what the rules about sequences ask for.
- Theorem `Workspace.Consistent.isBlocked_eq_false_iff`: when a workspace is not blocked.
-/

namespace ShellComposer

open BlockGraph Catalog Pattern

/-! ## Commands -/

namespace Site

variable {site : Site} {command : CommandDef} {id : BlockId} {operands : List BlockId}

/-- Nothing is missing when the least number is reached, if there is one. -/
theorem missingOf_eq_zero_iff {least : Option UInt32} {count : Nat} :
    missingOf least count = 0 ↔ ∀ least', least = some least' → least'.toNat ≤ count := by
  cases least with
  | none => simp [missingOf]
  | some least => simp [missingOf, Nat.sub_eq_zero_iff_le]

/-- The number of options is fine when it reaches the least number, if there is one. -/
theorem checkOptionCount_eq_nil_iff {count : Nat} : checkOptionCount command count = [] ↔
    ∀ least, command.optionsMin = some least → least.toNat ≤ count := by
  rw [← missingOf_eq_zero_iff, checkOptionCount]
  split <;> simp_all

/-- The number of operands is fine when it reaches the least number, if there is one. -/
theorem checkOperandCount_eq_nil_iff {count : Nat} : checkOperandCount command count = [] ↔
    ∀ least, command.operandsMin = some least → least.toNat ≤ count := by
  rw [← missingOf_eq_zero_iff, checkOperandCount]
  split <;> simp_all

/-- An operand is not missed when there are as many of its name as it asks for. -/
theorem checkOperandKind_eq_none_iff {operand : OperandDef} :
    site.checkOperandKind operands operand = none ↔ operand.cardinality.min.toNat ≤
      operands.countP (site.graph.hasKind (BlockKind.isOperandNamed operand.id)) := by
  rw [checkOperandKind, ← Nat.sub_eq_zero_iff_le]
  split <;> simp_all

/-- Rules about sequences have nothing to say when there are none, or the first that accepts the
sequence has no message. -/
theorem checkSequence_eq_nil_iff : site.checkSequence command operands = [] ↔
    site.catalog.sequenceRulesOf command.id = [] ∨
      ∃ message, ((site.catalog.sequenceRulesOf command.id).find?
        fun rule => rule.accepts (site.sequenceText command operands)).map
          CompiledSyntaxRule.errorMessage = some message ∧ message.getD "" = "" := by
  rw [checkSequence]
  cases hrules : site.catalog.sequenceRulesOf command.id with
  | nil => simp
  | cons first rest =>
    simp only [reduceCtorEq, false_or]
    cases hfound : (first :: rest).find?
        fun rule => rule.accepts (site.sequenceText command operands) with
    | none => simp
    | some rule =>
      simp only [Option.map_some, Option.some.injEq, exists_eq_left']
      cases hmessage : rule.errorMessage with
      | none => simp
      | some message => simp

/-- A command has nothing to put right when it has enough options and, unless it is supplied from
outside, enough operands, enough of each kind, and an accepted sequence of them. -/
theorem checkCommand_eq_nil_iff : site.checkCommand id command = [] ↔
    checkOptionCount command (site.attachedOptions id).length = [] ∧
      (site.suppliedFromOutside id = false →
        checkOperandCount command (site.attachedOperands id).length = [] ∧
        (∀ operand ∈ command.operands,
          site.checkOperandKind (site.attachedOperands id) operand = none) ∧
        site.checkSequence command (site.attachedOperands id) = []) := by
  rw [checkCommand, List.append_eq_nil_iff]
  cases site.suppliedFromOutside id <;>
    simp [List.append_eq_nil_iff, List.filterMap_eq_nil_iff]

/-! ## Controls, operators and values -/

/-- A control is fine when its obligatory slots hold something. -/
theorem checkControl_eq_nil_iff {control : ControlDef} : site.checkControl id control = [] ↔
    ∀ slot ∈ control.slots, slot.obligatory = true →
      site.graph.slotHead id slot.name ≠ none := by
  rw [checkControl, List.map_eq_nil_iff, List.filter_eq_nil_iff]
  refine forall₂_congr fun slot _ => ?_
  cases slot.obligatory <;> simp

/-- A slot of an operator is fine when it holds one block and nothing follows it. -/
theorem checkOperatorSlot_eq_none_iff {slot : SlotDef} :
    site.checkOperatorSlot id slot = none ↔
      ∃ head, site.graph.slotHead id slot.name = some head ∧ site.graph.next head = none := by
  rw [checkOperatorSlot]
  split
  · rename_i hhead
    simp [hhead]
  · rename_i head hhead
    cases hnext : site.graph.next head <;> simp [hhead, hnext]

/-- An operator is fine when each of its slots holds one block. -/
theorem checkOperator_eq_nil_iff {operator : OperatorDef} :
    site.checkOperator id operator = [] ↔ ∀ slot ∈ operator.slots,
      ∃ head, site.graph.slotHead id slot.name = some head ∧ site.graph.next head = none := by
  rw [checkOperator, List.filterMap_eq_nil_iff]
  exact forall₂_congr fun slot _ => checkOperatorSlot_eq_none_iff

/-- A value is fine when every rule accepts it. -/
theorem checkValue_eq_nil_iff {rules : List CompiledValueRule} {value : String}
    {name : Nat → ViolationId} :
    checkValue rules value name = [] ↔ ∀ rule ∈ rules, rule.accepts value = true := by
  rw [checkValue, List.map_eq_nil_iff, List.filter_eq_nil_iff]
  constructor
  · intro hall rule hmem
    rcases List.getElem?_of_mem hmem with ⟨position, hposition⟩
    have haccepts := hall (rule, position) (List.mem_zipIdx_iff_getElem?.2 hposition)
    simpa using haccepts
  · intro hall entry hentry
    have hmem := List.mem_of_getElem? (List.mem_zipIdx_iff_getElem?.1 hentry)
    simp [hall entry.1 hmem]

end Site

/-! ## The whole workspace -/

/-- There is a record for every id, so there are none only where nothing was written. -/
theorem lastRecords_eq_nil_iff {violations : List Violation} :
    lastRecords violations = [] ↔ violations = [] := by
  have hfold : ∀ (violations records : List Violation), records ≠ [] →
      violations.foldl (fun records violation => setRecord violation records) records ≠ [] := by
    intro violations
    induction violations with
    | nil => exact fun records hsome => hsome
    | cons first rest ih => exact fun records _ => ih _ (by simp [setRecord])
  cases violations with
  | nil => exact iff_of_true rfl rfl
  | cons first rest =>
    exact iff_of_false (hfold rest _ (by simp [setRecord])) (List.cons_ne_nil first rest)

namespace Workspace

variable {w : Workspace}

/-- A workspace is blocked by the violations of its enabled blocks. -/
theorem isBlocked_eq_false_iff_violations : w.isBlocked = false ↔
    ∀ id, w.graph.isEnabled id = true → w.violations id = [] := by
  rw [isBlocked, List.any_eq_false]
  constructor
  · intro hnone id henabled
    by_contra hsome
    exact hnone (id, w.violations id) (Ledger.mem_listed_iff.2 ⟨hsome, rfl⟩) henabled
  · intro hnone entry hentry henabled
    rcases Ledger.mem_listed_iff.1 hentry with ⟨hsome, hrecords⟩
    exact hsome (hrecords.symm.trans (hnone entry.1 henabled))

/-- A workspace is not blocked exactly when no enabled block has anything to put right. -/
theorem Consistent.isBlocked_eq_false_iff (h : w.Consistent) : w.isBlocked = false ↔
    ∀ id, w.graph.isEnabled id = true → w.site.check id = [] := by
  rw [isBlocked_eq_false_iff_violations]
  refine forall₂_congr fun id henabled => ?_
  have hread : w.site.graph.isEnabled id = true := henabled
  rw [h.violations_eq, Site.verdict, if_pos hread, lastRecords_eq_nil_iff]

end Workspace

end ShellComposer
