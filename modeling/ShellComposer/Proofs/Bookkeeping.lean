import Mathlib.Algebra.BigOperators.Finprod
import ShellComposer.Proofs.Ledger

/-!
# How a ledger is kept

A ledger is written to by three calls: one record of a block is set, all its records are replaced,
or all of them are cleared.  Beside the ledger stands a plain history, in which nothing is ever
struck out: all that was written of a block since its records were last replaced or cleared.
Whatever calls are made, the ledger has of each block what its history has, reduced to the last
record of each id; and what it lists and counts is what it has of its blocks.

Main results:

- Definition `lastOfEach` and theorem `lastRecords_eq_lastOfEach`: writing records one by one, each
  in place of an older one of its id, leaves the last of each id.
- Inductive type `LedgerCall` with `LedgerCall.apply` and `LedgerCall.writtenAfter`: what a call
  makes of a ledger and of the history of a block.
- Structure `Ledger.WellKept` and theorem `Ledger.afterCalls_wellKept`: after any run of calls a
  ledger keeps to the histories.
-/

namespace ShellComposer

/-! ## The last record of each id -/

section LastOfEach

variable {violation first : Violation} {written rest : List Violation}

/-- The records that no later record of the same id follows, in the order given. -/
def lastOfEach : List Violation → List Violation
  | [] => []
  | first :: rest =>
    if first.id ∈ rest.map Violation.id then lastOfEach rest else first :: lastOfEach rest

/-- A record whose id comes again is not the last of its id. -/
theorem lastOfEach_cons_of_mem (h : first.id ∈ rest.map Violation.id) :
    lastOfEach (first :: rest) = lastOfEach rest :=
  if_pos h

/-- A record whose id does not come again is the last of its id. -/
theorem lastOfEach_cons_of_not_mem (h : first.id ∉ rest.map Violation.id) :
    lastOfEach (first :: rest) = first :: lastOfEach rest :=
  if_neg h

/-- The last records of each id stand in the order in which they were written. -/
theorem lastOfEach_sublist (written : List Violation) : (lastOfEach written).Sublist written := by
  induction written with
  | nil => exact List.Sublist.slnil
  | cons first rest ih =>
    by_cases hlater : first.id ∈ rest.map Violation.id
    · rw [lastOfEach_cons_of_mem hlater]
      exact ih.cons first
    · rw [lastOfEach_cons_of_not_mem hlater]
      exact ih.cons_cons first

/-- No id is left twice. -/
theorem nodup_ids_lastOfEach (written : List Violation) :
    ((lastOfEach written).map Violation.id).Nodup := by
  induction written with
  | nil => exact List.nodup_nil
  | cons first rest ih =>
    by_cases hlater : first.id ∈ rest.map Violation.id
    · rwa [lastOfEach_cons_of_mem hlater]
    · rw [lastOfEach_cons_of_not_mem hlater, List.map_cons, List.nodup_cons]
      exact ⟨fun hmem => hlater (((lastOfEach_sublist rest).map _).subset hmem), ih⟩

/-- Writing a record drops an older one of the same id. -/
theorem setRecord_cons_of_eq (h : first.id = violation.id) (records : List Violation) :
    setRecord violation (first :: records) = setRecord violation records := by
  simp [setRecord, h]

/-- Writing a record leaves those of other ids in place. -/
theorem setRecord_cons_of_ne (h : first.id ≠ violation.id) (records : List Violation) :
    setRecord violation (first :: records) = first :: setRecord violation records := by
  simp [setRecord, h]

/-- One more record is written: behind all others, and in place of the older one of its id. -/
theorem setRecord_lastOfEach (violation : Violation) (written : List Violation) :
    setRecord violation (lastOfEach written) = lastOfEach (written ++ [violation]) := by
  induction written with
  | nil => rfl
  | cons first rest ih =>
    have hids : first.id ∈ (rest ++ [violation]).map Violation.id ↔
        first.id ∈ rest.map Violation.id ∨ first.id = violation.id := by
      rw [List.map_append, List.mem_append, List.map_singleton, List.mem_singleton]
    rw [List.cons_append]
    by_cases hlater : first.id ∈ rest.map Violation.id
    · rw [lastOfEach_cons_of_mem hlater, lastOfEach_cons_of_mem (hids.2 (.inl hlater)), ih]
    · rw [lastOfEach_cons_of_not_mem hlater]
      by_cases hsame : first.id = violation.id
      · rw [setRecord_cons_of_eq hsame, lastOfEach_cons_of_mem (hids.2 (.inr hsame)), ih]
      · rw [setRecord_cons_of_ne hsame, ih, lastOfEach_cons_of_not_mem]
        exact fun hmem => (hids.1 hmem).elim hlater hsame

/-- Writing records one by one leaves the last of each id, also behind others. -/
theorem foldl_setRecord_lastOfEach (violations written : List Violation) :
    violations.foldl (fun records violation => setRecord violation records) (lastOfEach written) =
      lastOfEach (written ++ violations) := by
  induction violations generalizing written with
  | nil => rw [List.foldl_nil, List.append_nil]
  | cons first rest ih =>
    rw [List.foldl_cons, setRecord_lastOfEach, ih, List.append_assoc, List.singleton_append]

/-- So records that are written one by one leave the last of each id. -/
theorem lastRecords_eq_lastOfEach (violations : List Violation) :
    lastRecords violations = lastOfEach violations :=
  foldl_setRecord_lastOfEach violations []

end LastOfEach

/-! ## Calls -/

/-- A call that writes to a ledger. -/
inductive LedgerCall where
  | set (block : BlockId) (violation : Violation)
  | replace (block : BlockId) (violations : List Violation)
  | clear (block : BlockId)

namespace LedgerCall

/-- The block that a call is about. -/
def block : LedgerCall → BlockId
  | set block _ => block
  | replace block _ => block
  | clear block => block

/-- The ledger after a call. -/
def apply (ledger : Ledger) : LedgerCall → Ledger
  | set block violation => ledger.set block violation
  | replace block violations => ledger.replace block violations
  | clear block => ledger.clear block

/-- The history of the block that a call is about, after the call: a record that is set comes behind
what was written before, and with a replacement or a clearing the history begins anew. -/
def extend (written : List Violation) : LedgerCall → List Violation
  | set _ violation => written ++ [violation]
  | replace _ violations => violations
  | clear _ => []

/-- The history of any block after a call. -/
def writtenAfter (id : BlockId) (written : List Violation) (call : LedgerCall) : List Violation :=
  if call.block = id then call.extend written else written

variable {ledger : Ledger} {written : List Violation} {id : BlockId}

/-- A call takes the records of the block that it is about as far as it takes its history. -/
theorem get_apply_self (call : LedgerCall) (h : ledger.get call.block = lastOfEach written) :
    (call.apply ledger).get call.block = lastOfEach (call.extend written) := by
  cases call with
  | set block violation =>
    have hread : ledger.get block = lastOfEach written := h
    calc (ledger.set block violation).get block
        = setRecord violation (ledger.get block) := ledger.get_set_self block violation
      _ = setRecord violation (lastOfEach written) := by rw [hread]
      _ = lastOfEach (written ++ [violation]) := setRecord_lastOfEach violation written
  | replace block violations =>
    exact (ledger.get_replace_self block violations).trans (lastRecords_eq_lastOfEach violations)
  | clear block => exact ledger.get_clear_self block

/-- A call leaves the records of other blocks alone. -/
theorem get_apply_ne (call : LedgerCall) (h : id ≠ call.block) :
    (call.apply ledger).get id = ledger.get id := by
  cases call with
  | set block violation => exact Ledger.get_set_ne ledger h violation
  | replace block violations => exact Ledger.get_replace_ne ledger h violations
  | clear block => exact Ledger.get_clear_ne ledger h

/-- So a call takes the records of every block as far as it takes its history. -/
theorem get_apply (call : LedgerCall) (h : ledger.get id = lastOfEach written) :
    (call.apply ledger).get id = lastOfEach (call.writtenAfter id written) := by
  by_cases hsame : call.block = id
  · subst hsame
    rw [writtenAfter, if_pos rfl]
    exact call.get_apply_self h
  · rw [writtenAfter, if_neg hsame, call.get_apply_ne (Ne.symm hsame)]
    exact h

end LedgerCall

/-- What was written of a block in a run of calls since its records were last replaced or cleared,
oldest first. -/
def writtenOf (id : BlockId) (calls : List LedgerCall) : List Violation :=
  calls.foldl (LedgerCall.writtenAfter id) []

namespace Ledger

/-- The ledger after a run of calls, starting without records. -/
def afterCalls (calls : List LedgerCall) : Ledger :=
  calls.foldl LedgerCall.apply .empty

/-- Calls keep the ledger to the history, from any point at which it keeps to it. -/
theorem get_foldl_apply {ledger : Ledger} {written : List Violation} {id : BlockId}
    (h : ledger.get id = lastOfEach written) (calls : List LedgerCall) :
    (calls.foldl LedgerCall.apply ledger).get id =
      lastOfEach (calls.foldl (LedgerCall.writtenAfter id) written) := by
  induction calls generalizing ledger written with
  | nil => exact h
  | cons call rest ih => exact ih (call.get_apply h)

/-- After any run of calls the records of a block are the last of each id in its history. -/
theorem get_afterCalls (calls : List LedgerCall) (id : BlockId) :
    (afterCalls calls).get id = lastOfEach (writtenOf id calls) :=
  get_foldl_apply rfl calls

/-- No call leaves an empty list behind, so after a replacement there is none to sweep up. -/
theorem tidy_afterCalls (calls : List LedgerCall) : (afterCalls calls).Tidy := by
  have hstart : empty.Tidy := fun id => (Option.some_ne_none []).symm
  rw [afterCalls]
  generalize empty = ledger at hstart
  induction calls generalizing ledger with
  | nil => exact hstart
  | cons call rest ih =>
    refine ih _ ?_
    cases call with
    | set block violation => exact hstart.set block violation
    | replace block violations => exact hstart.replace block violations
    | clear block => exact hstart.clear block

/-! ## What a ledger tells of all its blocks -/

/-- The total is the sum of the lengths of all lists. -/
theorem total_eq_sum_entries (ledger : Ledger) :
    ledger.total = (ledger.records.entries.map fun entry => entry.2.length).sum := by
  rw [total, List.sum_eq_foldl, List.foldl_map]

/-- The records are counted block by block. -/
theorem total_eq_finsum (ledger : Ledger) :
    ledger.total = ∑ᶠ id, (ledger.get id).length := by
  -- A block without an entry adds nothing.
  have hsupport : Function.support (fun id => (ledger.get id).length) ⊆
      ledger.records.keys.toFinset := by
    intro id hid
    rw [Finset.mem_coe, List.mem_toFinset, IdMap.mem_keys_iff, IdMap.contains_iff]
    cases hread : ledger.records.get? id with
    | none =>
      have hnothing : ledger.get id = [] := by rw [get, hread, Option.getD_none]
      exact absurd (congrArg List.length hnothing) hid
    | some records => exact ⟨records, rfl⟩
  have hget : ∀ entry ∈ ledger.records.entries, (ledger.get entry.1).length = entry.2.length := by
    intro entry hentry
    rw [get, (ledger.records.mem_entries_iff _ _).1 hentry, Option.getD_some]
  rw [finsum_eq_sum_of_support_subset _ hsupport, List.sum_toFinset _ (IdMap.nodup_keys _),
    IdMap.keys, List.map_map, total_eq_sum_entries]
  exact congrArg List.sum (List.map_congr_left fun entry hentry => (hget entry hentry).symm)

/-- A ledger is empty when it counts no records. -/
theorem isEmpty_iff_total (ledger : Ledger) : ledger.isEmpty = true ↔ ledger.total = 0 := by
  rw [isEmpty, List.all_eq_true, total_eq_sum_entries, List.sum_eq_zero_iff]
  simp only [List.isEmpty_iff, List.mem_map, forall_exists_index, and_imp,
    forall_apply_eq_imp_iff₂, List.length_eq_zero_iff]

/-! ## Ledgers that keep to a history -/

/-- A ledger keeps to the histories of its blocks: it has the last record of each id, in the order
in which these were written, and what it lists and counts is what it has. -/
structure WellKept (ledger : Ledger) (written : BlockId → List Violation) : Prop where
  get_eq : ∀ id, ledger.get id = lastOfEach (written id)
  /-- No two records of a block have the same id. -/
  nodup_ids : ∀ id, ((ledger.get id).map Violation.id).Nodup
  tidy : ledger.Tidy
  /-- The blocks with records are listed, with their records. -/
  mem_listed_iff : ∀ id records,
    (id, records) ∈ ledger.listed ↔ records ≠ [] ∧ ledger.get id = records
  /-- They are listed once each, in increasing order. -/
  increasing : (ledger.listed.map Prod.fst).Pairwise (· < ·)
  total_eq : ledger.total = ∑ᶠ id, (ledger.get id).length
  isEmpty_iff : ledger.isEmpty = true ↔ ledger.total = 0

/-- A ledger without empty lists that keeps to the histories is well kept. -/
theorem Tidy.wellKept {ledger : Ledger} {written : BlockId → List Violation} (htidy : ledger.Tidy)
    (h : ∀ id, ledger.get id = lastOfEach (written id)) : ledger.WellKept written where
  get_eq := h
  nodup_ids := fun id => h id ▸ nodup_ids_lastOfEach (written id)
  tidy := htidy
  mem_listed_iff := fun _ _ => mem_listed_iff
  increasing := (ledger.records.sorted.filter _).map _ fun _ _ hlt => hlt
  total_eq := ledger.total_eq_finsum
  isEmpty_iff := ledger.isEmpty_iff_total

/-- After any run of calls a ledger keeps to the histories of its blocks.  One more call changes the
records of no other block, and a replacement leaves the last of each id of what it was given. -/
theorem afterCalls_wellKept (calls : List LedgerCall) :
    (afterCalls calls).WellKept (fun id => writtenOf id calls) ∧
      (∀ (call : LedgerCall) (id : BlockId), id ≠ call.block →
        (call.apply (afterCalls calls)).get id = (afterCalls calls).get id) ∧
      ∀ (id : BlockId) (violations : List Violation),
        ((afterCalls calls).replace id violations).get id = lastOfEach violations := by
  refine ⟨(tidy_afterCalls calls).wellKept (get_afterCalls calls),
    fun call id hid => call.get_apply_ne hid, ?_⟩
  intro id violations
  rw [get_replace_self, lastRecords_eq_lastOfEach]

/-- Calls about three blocks.  An id of the third block is written a second time, the first block is
given one id twice, and the second block is cleared. -/
def rewriting : List LedgerCall :=
  [.set 3 ⟨.minOptions, "None yet."⟩, .set 3 ⟨.sequence, "Bad order."⟩,
    .set 2 ⟨.minOperands, "Too few."⟩,
    .replace 1 [⟨.minOperands, "One more."⟩, ⟨.operandRegex 0, "Digits only."⟩,
      ⟨.minOperands, "Two more."⟩],
    .set 3 ⟨.minOptions, "One more."⟩, .clear 2]

/-- The last record of each id is left, behind the records written before it, and clearing the first
block as well leaves the third block as it is. -/
theorem rewriting_wellKept :
    (afterCalls rewriting).get 1 =
        [⟨.operandRegex 0, "Digits only."⟩, ⟨.minOperands, "Two more."⟩] ∧
      (afterCalls rewriting).get 2 = [] ∧
      (3 ≠ (LedgerCall.clear 1).block ∧
        ((LedgerCall.clear 1).apply (afterCalls rewriting)).get 3 =
          [⟨.sequence, "Bad order."⟩, ⟨.minOptions, "One more."⟩]) := by
  rcases afterCalls_wellKept rewriting with ⟨hkept, hothers, -⟩
  have hother : 3 ≠ (LedgerCall.clear 1).block := by decide
  refine ⟨?_, ?_, hother, ?_⟩
  · rw [hkept.get_eq]
    decide
  · rw [hkept.get_eq]
    decide
  · rw [hothers _ 3 hother, hkept.get_eq]
    decide

end Ledger

end ShellComposer
