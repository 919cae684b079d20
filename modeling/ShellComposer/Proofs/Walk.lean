import ShellComposer.Block.Graph
import Mathlib.Logic.Relation

/-!
# Walks and searches

A walk follows one step after another, a search follows all steps at once, row by row.  Both are
stopped after a number of steps that is given beforehand.  Where no steps lead in a circle and all
of them stay among finitely many blocks, the number of these blocks is enough: the walk ends where
no step leads any further, and the search misses nothing.

Main results:

- Inductive relation `Orbit`: the blocks passed from a start until no step leads any further.
- Theorem `walk_orbit`: a walk without circles passes its whole orbit.
- Theorem `Orbit.mem_iff`: an orbit holds what its start leads to.
- Theorems `mem_rows_leads` and `mem_rows_succ`: what a search finds.
-/

namespace ShellComposer

namespace BlockGraph

open Relation

variable {step : BlockId → Option BlockId} {lead : BlockId → List BlockId}
variable {a b c : BlockId} {xs row ids : List BlockId} {n : Nat}

/-! ## Orbits -/

/-- One step of a walk. -/
def Steps (step : BlockId → Option BlockId) (a b : BlockId) : Prop :=
  step a = some b

/-- The blocks passed from a start, in order, until no step leads any further. -/
inductive Orbit (step : BlockId → Option BlockId) : BlockId → List BlockId → Prop where
  | last {a : BlockId} (stop : step a = none) : Orbit step a [a]
  | more {a b : BlockId} {rest : List BlockId} (go : step a = some b) (onward : Orbit step b rest) :
      Orbit step a (a :: rest)

namespace Orbit

/-- An orbit starts with its start. -/
theorem exists_cons (h : Orbit step a xs) : ∃ rest, xs = a :: rest := by
  cases h with
  | last _ => exact ⟨[], rfl⟩
  | more _ _ => exact ⟨_, rfl⟩

/-- There is only one orbit from a start. -/
theorem unique {ys : List BlockId} (h : Orbit step a xs) (h' : Orbit step a ys) : xs = ys := by
  induction h generalizing ys with
  | last stop =>
    cases h' with
    | last _ => rfl
    | more go _ => simp [stop] at go
  | more go _ ih =>
    cases h' with
    | last stop => simp [stop] at go
    | more go' onward' =>
      obtain rfl : _ = _ := Option.some.inj (go.symm.trans go')
      rw [ih onward']

/-- An orbit holds exactly the blocks that its start leads to. -/
theorem mem_iff (h : Orbit step a xs) : b ∈ xs ↔ ReflTransGen (Steps step) a b := by
  induction h with
  | last stop =>
    rw [List.mem_singleton]
    constructor
    · rintro rfl
      exact .refl
    · intro hpath
      cases hpath.cases_head with
      | inl same => exact same.symm
      | inr first =>
        rcases first with ⟨_, go, _⟩
        simp [Steps, stop] at go
  | more go _ ih =>
    rw [List.mem_cons, ih]
    constructor
    · rintro (rfl | hpath)
      · exact .refl
      · exact .head go hpath
    · intro hpath
      cases hpath.cases_head with
      | inl same => exact .inl same.symm
      | inr first =>
        rcases first with ⟨_, go', hrest⟩
        obtain rfl : _ = _ := Option.some.inj (go.symm.trans go')
        exact .inr hrest

/-- The last block of an orbit is where no step leads any further. -/
theorem exists_getLast (h : Orbit step a xs) :
    ∃ top, xs.getLast? = some top ∧ step top = none ∧ ReflTransGen (Steps step) a top := by
  induction h with
  | last stop => exact ⟨_, rfl, stop, .refl⟩
  | more go onward ih =>
    rcases ih with ⟨top, hlast, stop, hpath⟩
    rcases onward.exists_cons with ⟨rest, rfl⟩
    exact ⟨top, by rw [List.getLast?_cons_cons, hlast], stop, .head go hpath⟩

/-- A walk that may take enough steps passes the whole orbit. -/
theorem walk_eq (h : Orbit step a xs) (hn : xs.length ≤ n) : walk step n a = xs := by
  induction h generalizing n with
  | last stop =>
    cases n with
    | zero => simp at hn
    | succ n => simp [walk, stop]
  | more go _ ih =>
    cases n with
    | zero => simp at hn
    | succ n => simp [walk, go, ih (Nat.le_of_succ_le_succ hn)]

end Orbit

/-! ## Walks without circles -/

/-- A walk passes only blocks that its start leads to. -/
theorem mem_walk (h : b ∈ walk step n a) : ReflTransGen (Steps step) a b := by
  induction n generalizing a with
  | zero => simp [walk] at h
  | succ n ih =>
    rw [walk, List.mem_cons] at h
    rcases h with rfl | h
    · exact .refl
    · cases go : step a with
      | none => simp [go] at h
      | some next =>
        rw [go] at h
        exact .head go (ih h)

/-- A walk that ends before it has to passes a whole orbit. -/
theorem orbit_of_length_lt (h : (walk step n a).length < n) : Orbit step a (walk step n a) := by
  induction n generalizing a with
  | zero => simp at h
  | succ n ih =>
    cases go : step a with
    | none =>
      simp only [walk, go]
      exact .last go
    | some next =>
      simp only [walk, go, List.length_cons, Nat.add_lt_add_iff_right] at h ⊢
      exact .more go (ih h)

/-- Without circles a walk passes no block twice. -/
theorem walk_nodup (hacyclic : ∀ id, ¬ TransGen (Steps step) id id) :
    (walk step n a).Nodup := by
  induction n generalizing a with
  | zero => exact List.nodup_nil
  | succ n ih =>
    rw [walk]
    cases go : step a with
    | none => exact List.pairwise_singleton _ a
    | some next =>
      refine List.nodup_cons.2 ⟨fun hmem => ?_, ih⟩
      exact hacyclic a (.head' go (mem_walk hmem))

/-- Steps among some blocks do not leave them. -/
theorem walk_subset (hclosed : ∀ x y, step x = some y → y ∈ ids) (ha : a ∈ ids) :
    walk step n a ⊆ ids := by
  intro x hx
  cases (mem_walk hx).cases_tail with
  | inl same => exact same ▸ ha
  | inr final =>
    rcases final with ⟨y, _, go⟩
    exact hclosed y x go

/-- A walk without circles among some blocks passes its whole orbit in as many steps. -/
theorem walk_orbit (hacyclic : ∀ id, ¬ TransGen (Steps step) id id)
    (hclosed : ∀ x y, step x = some y → y ∈ ids) (ha : a ∈ ids) :
    Orbit step a (walk step ids.length a) := by
  have hlength : ∀ n, (walk step n a).length ≤ ids.length := fun n =>
    List.Nodup.length_le_of_subset (walk_nodup hacyclic) (walk_subset hclosed ha)
  have horbit := orbit_of_length_lt (Nat.lt_succ_of_le (hlength (ids.length + 1)))
  rw [horbit.walk_eq (hlength _)]
  exact horbit

/-! ## Searches -/

/-- What a search finds is led to from its first row. -/
theorem mem_rows_leads (h : b ∈ rows lead n row) :
    ∃ a ∈ row, ReflTransGen (fun x y => y ∈ lead x) a b := by
  induction n generalizing row with
  | zero => exact ⟨b, h, .refl⟩
  | succ n ih =>
    rw [rows] at h
    split at h
    · simp at h
    · rcases List.mem_append.1 h with h | h
      · exact ⟨b, h, .refl⟩
      · rcases ih h with ⟨y, hy, hpath⟩
        rcases List.mem_flatMap.1 hy with ⟨x, hx, hlead⟩
        exact ⟨x, hx, .head hlead hpath⟩

/-- A search finds its first row. -/
theorem mem_rows_of_mem (h : a ∈ row) : a ∈ rows lead n row := by
  cases n with
  | zero => exact h
  | succ n =>
    rw [rows, if_neg (by cases row <;> simp_all)]
    exact List.mem_append_left _ h

/-- One row further a search finds what the blocks found so far lead to. -/
theorem mem_rows_succ (hb : b ∈ rows lead n row) (hc : c ∈ lead b) :
    c ∈ rows lead (n + 1) row := by
  induction n generalizing row with
  | zero =>
    have hrow : b ∈ row := hb
    rw [rows, if_neg (by cases row <;> simp_all)]
    exact List.mem_append_right _ (List.mem_flatMap.2 ⟨b, hrow, hc⟩)
  | succ n ih =>
    rw [rows] at hb
    split at hb
    · simp at hb
    · rename_i hrow
      rw [rows, if_neg hrow]
      refine List.mem_append_right _ ?_
      rcases List.mem_append.1 hb with hb | hb
      · exact mem_rows_of_mem (List.mem_flatMap.2 ⟨b, hb, hc⟩)
      · exact ih hb

end BlockGraph

end ShellComposer
