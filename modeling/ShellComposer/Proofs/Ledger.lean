import Mathlib.Data.List.Sort
import ShellComposer.Proofs.Reaction

/-!
# Ledgers are known by what is read from them

The entries of a map are sorted by id, so a map is known by what is read under each id.  A ledger is
such a map, and all that is shown of it are the blocks with records; so what it shows is known by
the records of each block.  A ledger that keeps no empty lists is itself known by them, and ledgers
never come to keep one.

Main results:

- Theorem `IdMap.eq_of_get?`: a map is known by what is read from it.
- Theorem `Ledger.listed_eq_of_get`: what a ledger lists is known by the records of each block.
- Definition `Ledger.Tidy` and theorem `Ledger.Tidy.eq_of_get`: so is a ledger without empty lists.
- Theorem `Site.tidy_checkAll`: checking keeps no empty lists.
-/

namespace ShellComposer

section Entries

variable {α : Type}

/-- Entries are known by what is among them. -/
theorem EntriesSorted.eq_of_mem_iff {entries entries' : List (BlockId × α)}
    (h : EntriesSorted entries) (h' : EntriesSorted entries')
    (hmem : ∀ entry, entry ∈ entries ↔ entry ∈ entries') : entries = entries' := by
  have : Std.Irrefl fun a b : BlockId × α => a.1 < b.1 := ⟨fun a => Nat.lt_irrefl a.1⟩
  have : Std.Antisymm fun a b : BlockId × α => a.1 < b.1 :=
    ⟨fun _ _ hab hba => absurd hba (Nat.lt_asymm hab)⟩
  exact List.Pairwise.eq_of_mem_iff h h' hmem

/-- A map is known by what is read from it. -/
theorem IdMap.eq_of_get? {m m' : IdMap α} (hread : ∀ id, m.get? id = m'.get? id) : m = m' := by
  have hentries : m.entries = m'.entries := by
    refine EntriesSorted.eq_of_mem_iff m.sorted m'.sorted fun ⟨id, value⟩ => ?_
    rw [m.mem_entries_iff, m'.mem_entries_iff, hread]
  rcases m with ⟨entries, sorted⟩
  obtain rfl : entries = m'.entries := hentries
  rfl

end Entries

namespace Ledger

variable {ledger ledger' : Ledger} {id block : BlockId} {records violations : List Violation}

/-- A ledger lists the blocks with records. -/
theorem mem_listed_iff : (id, records) ∈ ledger.listed ↔ records ≠ [] ∧ ledger.get id = records := by
  rw [listed, List.mem_filter, IdMap.mem_entries_iff, get]
  cases hread : ledger.records.get? id with
  | none => exact iff_of_false (by simp) fun hboth => hboth.1 hboth.2.symm
  | some found =>
    simp only [Option.some.injEq, Option.getD_some, Bool.not_eq_eq_eq_not, Bool.not_true,
      List.isEmpty_eq_false_iff, ne_eq]
    exact and_comm

/-- What a ledger lists is known by the records of each block. -/
theorem listed_eq_of_get (hread : ∀ id, ledger.get id = ledger'.get id) :
    ledger.listed = ledger'.listed := by
  refine EntriesSorted.eq_of_mem_iff (ledger.records.sorted.filter _)
    (ledger'.records.sorted.filter _) fun ⟨id, records⟩ => ?_
  rw [mem_listed_iff, mem_listed_iff, hread]

/-- No empty lists are kept. -/
def Tidy (ledger : Ledger) : Prop :=
  ∀ id, ledger.records.get? id ≠ some []

namespace Tidy

/-- In a ledger without empty lists a block has a list if it has records. -/
theorem get?_eq (h : ledger.Tidy) (id : BlockId) :
    ledger.records.get? id = if ledger.get id = [] then none else some (ledger.get id) := by
  have hsome := h id
  rw [get]
  cases hread : ledger.records.get? id with
  | none => rfl
  | some records =>
    have hne : records ≠ [] := fun hempty => hsome (hempty ▸ hread)
    rw [Option.getD_some, if_neg hne]

/-- A ledger without empty lists is known by the records of each block. -/
theorem eq_of_get (h : ledger.Tidy) (h' : ledger'.Tidy)
    (hread : ∀ id, ledger.get id = ledger'.get id) : ledger = ledger' := by
  have hrecords : ledger.records = ledger'.records := by
    refine IdMap.eq_of_get? fun id => ?_
    rw [h.get?_eq, h'.get?_eq, hread]
  rcases ledger with ⟨records⟩
  rcases ledger' with ⟨records'⟩
  exact congrArg Ledger.mk hrecords

/-- Clearing leaves no empty list behind. -/
theorem clear (h : ledger.Tidy) (block : BlockId) : (ledger.clear block).Tidy := by
  intro id
  by_cases hsame : id = block
  · subst hsame
    rw [Ledger.clear, IdMap.get?_erase_self]
    exact (Option.some_ne_none []).symm
  · rw [Ledger.clear, IdMap.get?_erase_ne _ hsame]
    exact h id

/-- Nor does clearing several blocks. -/
theorem foldl_clear (h : ledger.Tidy) (doomed : List BlockId) :
    (doomed.foldl Ledger.clear ledger).Tidy := by
  induction doomed generalizing ledger with
  | nil => exact h
  | cons first rest ih => exact ih (h.clear first)

/-- Nor does writing a record. -/
theorem set (h : ledger.Tidy) (block : BlockId) (violation : Violation) :
    (ledger.set block violation).Tidy := by
  intro id
  by_cases hsame : id = block
  · subst hsame
    rw [Ledger.set, IdMap.get?_insert_self]
    simp [setRecord]
  · rw [Ledger.set, IdMap.get?_insert_ne _ hsame]
    exact h id

/-- Nor does writing several. -/
theorem foldl_set (h : ledger.Tidy) (block : BlockId) (violations : List Violation) :
    (violations.foldl (fun ledger violation => ledger.set block violation) ledger).Tidy := by
  induction violations generalizing ledger with
  | nil => exact h
  | cons first rest ih => exact ih (h.set block first)

/-- In a ledger without empty lists there is nothing to sweep up. -/
theorem sweep_eq (h : ledger.Tidy) (block : BlockId) : ledger.sweep block = ledger := by
  rw [sweep]
  split
  · rename_i hempty
    exact (h block hempty).elim
  · rfl

/-- Replaced records leave no empty list behind, and the sweep finds none. -/
theorem replace (h : ledger.Tidy) (block : BlockId) (violations : List Violation) :
    (ledger.replace block violations).Tidy := by
  have hwritten := (h.clear block).foldl_set block violations
  rw [Ledger.replace, hwritten.sweep_eq]
  exact hwritten

end Tidy

end Ledger

/-- Checking keeps no empty lists. -/
theorem Site.tidy_checkAll (site : Site) {ledger : Ledger} (h : ledger.Tidy) :
    (site.checkAll ledger).Tidy := by
  rw [checkAll]
  induction site.graph.ids generalizing ledger with
  | nil => exact h
  | cons first rest ih =>
    refine ih ?_
    rw [checkInto]
    split
    · exact h.replace first (site.check first)
    · exact h.clear first

end ShellComposer
