import Mathlib.Data.List.Nodup
import Mathlib.Logic.Function.Basic
import ShellComposer.Catalog.Definition

/-!
# Rations

Items come in some order, each with a key, and of the items with one key only so many are kept, the
first of them.  What is kept does not depend on the items that are not: they can be taken away one
by one, in any order, before anything else is done.  The options and the operands that a command may
keep are rationed in this way.

Main results:

- Definition `ration`: the items that are kept.
- Theorem `filter_ration`: of the items with a key, the first are kept, as many as allowed.
- Theorem `ration_filter`: taking away items that are not kept changes nothing.
- Theorem `ration_filter_unbounded`: items of keys without a bound can be taken away before or
  after.
- Theorem `ration_eq_self`: where there are no more items than allowed, all are kept.
- Definitions `keptOptions` and `keptOperands`: the options and operands that a command may keep.
- Theorems `keptOptions_of_repeated` and `keptOptions_of_group`: options that may be taken away
  beforehand.
- Theorems `keptOptions_eq_self` and `keptOperands_eq_self`: where nothing is to be taken away.
-/

namespace ShellComposer

open Catalog

variable {α κ : Type} [DecidableEq κ] {key : α → κ} {most : κ → Option Nat} {x y : α} {xs : List α}
variable {p : α → Bool}

/-- The items that are kept: of those with a key the first ones, as many as allowed, or all of them
where the key has no bound. -/
def ration (key : α → κ) (most : κ → Option Nat) : List α → List α
  | [] => []
  | x :: rest =>
    match most (key x) with
    | none => x :: ration key most rest
    | some 0 => ration key most rest
    | some (left + 1) => x :: ration key (Function.update most (key x) (some left)) rest

/-- Without a bound for its key an item is kept. -/
theorem ration_cons_unbounded (h : most (key x) = none) :
    ration key most (x :: xs) = x :: ration key most xs := by
  rw [ration, h]

/-- When nothing is left for its key an item is dropped. -/
theorem ration_cons_zero (h : most (key x) = some 0) :
    ration key most (x :: xs) = ration key most xs := by
  rw [ration, h]

/-- Otherwise it is kept, and one less is left for its key. -/
theorem ration_cons_succ {left : Nat} (h : most (key x) = some (left + 1)) :
    ration key most (x :: xs) = x :: ration key (Function.update most (key x) (some left)) xs := by
  rw [ration, h]

/-- What is kept is in the order it was in. -/
theorem ration_sublist (key : α → κ) (most : κ → Option Nat) (xs : List α) :
    (ration key most xs).Sublist xs := by
  induction xs generalizing most with
  | nil => exact .slnil
  | cons x rest ih =>
    rcases hmost : most (key x) with _ | _ | left
    · rw [ration_cons_unbounded hmost]
      exact (ih most).cons_cons x
    · rw [ration_cons_zero hmost]
      exact (ih most).cons x
    · rw [ration_cons_succ hmost]
      exact (ih _).cons_cons x

/-- The first of some items, as many as allowed. -/
def takeAllowed : Option Nat → List α → List α
  | none, xs => xs
  | some count, xs => xs.take count

/-- Of the items with a key, the first are kept, as many as allowed. -/
theorem filter_ration (key : α → κ) (most : κ → Option Nat) (xs : List α) (k : κ) :
    (ration key most xs).filter (key · = k) = takeAllowed (most k) (xs.filter (key · = k)) := by
  induction xs generalizing most with
  | nil => cases most k <;> simp [ration, takeAllowed]
  | cons x rest ih =>
    by_cases hkey : key x = k
    · subst hkey
      rw [List.filter_cons_of_pos (by simp)]
      rcases hmost : most (key x) with _ | _ | left
      · rw [ration_cons_unbounded hmost, List.filter_cons_of_pos (by simp), ih, hmost]
        rfl
      · rw [ration_cons_zero hmost, ih, hmost]
        rfl
      · rw [ration_cons_succ hmost, List.filter_cons_of_pos (by simp), ih, Function.update_self]
        rfl
    · have hother : ∀ ys : List α, (x :: ys).filter (key · = k) = ys.filter (key · = k) :=
        fun ys => List.filter_cons_of_neg (by simpa using hkey)
      rw [hother, ← ih most]
      rcases hmost : most (key x) with _ | _ | left
      · rw [ration_cons_unbounded hmost, hother]
      · rw [ration_cons_zero hmost]
      · rw [ration_cons_succ hmost, hother, ih, ih, Function.update_of_ne (Ne.symm hkey)]

/-- Taking away items that are not kept changes nothing. -/
theorem ration_filter (hp : ∀ x ∈ ration key most xs, p x = true) :
    ration key most (xs.filter p) = ration key most xs := by
  induction xs generalizing most with
  | nil => rfl
  | cons x rest ih =>
    rcases hmost : most (key x) with _ | _ | left
    · rw [ration_cons_unbounded hmost] at hp ⊢
      have hx := hp x List.mem_cons_self
      have hrest := ih fun y hy => hp y (List.mem_cons_of_mem x hy)
      rw [List.filter_cons_of_pos hx, ration_cons_unbounded hmost, hrest]
    · rw [ration_cons_zero hmost] at hp ⊢
      by_cases hx : p x = true
      · rw [List.filter_cons_of_pos hx, ration_cons_zero hmost, ih hp]
      · rw [List.filter_cons_of_neg hx, ih hp]
    · rw [ration_cons_succ hmost] at hp ⊢
      have hx := hp x List.mem_cons_self
      have hrest := ih fun y hy => hp y (List.mem_cons_of_mem x hy)
      rw [List.filter_cons_of_pos hx, ration_cons_succ hmost, hrest]

/-- Items of keys without a bound can be taken away before or after. -/
theorem ration_filter_unbounded (hp : ∀ x ∈ xs, p x = false → most (key x) = none) :
    ration key most (xs.filter p) = (ration key most xs).filter p := by
  induction xs generalizing most with
  | nil => rfl
  | cons x rest ih =>
    have hrest : ∀ y ∈ rest, p y = false → most (key y) = none :=
      fun y hy => hp y (List.mem_cons_of_mem x hy)
    by_cases hx : p x = true
    · rw [List.filter_cons_of_pos hx]
      rcases hmost : most (key x) with _ | _ | left
      · rw [ration_cons_unbounded hmost, ration_cons_unbounded hmost, ih hrest,
          List.filter_cons_of_pos hx]
      · rw [ration_cons_zero hmost, ration_cons_zero hmost, ih hrest]
      · have hless : ∀ y ∈ rest, p y = false →
            Function.update most (key x) (some left) (key y) = none := by
          intro y hy hpy
          have hnone := hrest y hy hpy
          have hne : key y ≠ key x := by
            intro hsame
            rw [hsame, hmost] at hnone
            exact absurd hnone (by simp)
          rw [Function.update_of_ne hne, hnone]
        rw [ration_cons_succ hmost, ration_cons_succ hmost, ih hless, List.filter_cons_of_pos hx]
    · rw [Bool.not_eq_true] at hx
      have hmost := hp x List.mem_cons_self hx
      have hleft : ¬ p x = true := by rw [hx]; exact Bool.false_ne_true
      rw [List.filter_cons_of_neg hleft, ration_cons_unbounded hmost,
        List.filter_cons_of_neg hleft, ih hrest]

/-- Where there are no more items than allowed, all are kept. -/
theorem ration_eq_self
    (hfew : ∀ k count, most k = some count → (xs.filter (key · = k)).length ≤ count) :
    ration key most xs = xs := by
  induction xs generalizing most with
  | nil => rfl
  | cons x rest ih =>
    have hself : ∀ count, most (key x) = some count →
        (rest.filter (key · = key x)).length + 1 ≤ count := by
      intro count hmost
      have hbound := hfew (key x) count hmost
      rwa [List.filter_cons_of_pos (by simp), List.length_cons] at hbound
    have hother : ∀ k count, k ≠ key x → most k = some count →
        (rest.filter (key · = k)).length ≤ count := by
      intro k count hne hmost
      have hbound := hfew k count hmost
      rwa [List.filter_cons_of_neg (by simpa using Ne.symm hne)] at hbound
    rcases hmost : most (key x) with _ | _ | left
    · rw [ration_cons_unbounded hmost, ih]
      intro k count hk
      have hne : k ≠ key x := by
        rintro rfl
        simp [hmost] at hk
      exact hother k count hne hk
    · have hnone := hself 0 hmost
      omega
    · rw [ration_cons_succ hmost, ih]
      intro k count hk
      by_cases hsame : k = key x
      · subst hsame
        rw [Function.update_self, Option.some.injEq] at hk
        have hbound := hself (left + 1) hmost
        omega
      · rw [Function.update_of_ne hsame] at hk
        exact hother k count hsame hk

/-- An item is not kept when it comes after another one and only one of their key is allowed. -/
theorem not_mem_ration_of_later (hnodup : xs.Nodup) (hlater : [x, y].Sublist xs)
    (hkey : key x = key y) (hmost : most (key y) = some 1) : y ∉ ration key most xs := by
  intro hmem
  have hsame : y ∈ (ration key most xs).filter (key · = key y) :=
    List.mem_filter.2 ⟨hmem, by simp⟩
  rw [filter_ration, hmost] at hsame
  have hpair : [x, y].Sublist (xs.filter (key · = key y)) := by
    have hfilter := hlater.filter (key · = key y)
    simpa [hkey] using hfilter
  have hnodup' : (xs.filter (key · = key y)).Nodup := hnodup.filter _
  generalize xs.filter (key · = key y) = members at hsame hpair hnodup'
  cases members with
  | nil => simp at hpair
  | cons first rest =>
    obtain rfl : y = first := by simpa [takeAllowed] using hsame
    have hfresh := (List.nodup_cons.1 hnodup').1
    cases hpair with
    | cons _ hrest => exact hfresh (hrest.subset (by simp))
    | cons_cons _ hrest => exact hfresh (hrest.subset (by simp))

/-! ## Options -/

variable {flag : α → String} {group : List String} {groups : List (List String)}

/-- Of the options whose flags are in a group the first is kept, and so are all other options. -/
def leaveOne (flag : α → String) (options : List α) (group : List String) : List α :=
  ration (fun x => group.contains (flag x)) (fun member => if member then some 1 else none) options

/-- The options that a command may keep: group by group one of those that exclude each other, and
then one of each flag. -/
def keptOptions (groups : List (List String)) (flag : α → String) (options : List α) : List α :=
  ration flag (fun _ => some 1) (groups.foldl (leaveOne flag) options)

/-- Leaving one of a group drops items and changes nothing else. -/
theorem leaveOne_sublist (flag : α → String) (xs : List α) (group : List String) :
    (leaveOne flag xs group).Sublist xs :=
  ration_sublist _ _ xs

/-- So does leaving one of each group. -/
theorem foldl_leaveOne_sublist (flag : α → String) (xs : List α) (groups : List (List String)) :
    (groups.foldl (leaveOne flag) xs).Sublist xs := by
  induction groups generalizing xs with
  | nil => exact List.Sublist.refl xs
  | cons first rest ih => exact (ih (leaveOne flag xs first)).trans (leaveOne_sublist flag xs first)

/-- Of a group with one item at most nothing is dropped. -/
theorem leaveOne_eq_self (hfew : (xs.filter fun x => group.contains (flag x)).length ≤ 1) :
    leaveOne flag xs group = xs := by
  refine ration_eq_self fun member count hmost => ?_
  cases member with
  | false => simp at hmost
  | true =>
    obtain rfl : 1 = count := by simpa using hmost
    simpa using hfew

/-- Where every group has one item at most, nothing is dropped at all. -/
theorem foldl_leaveOne_eq_self
    (hfew : ∀ group ∈ groups, (xs.filter fun x => group.contains (flag x)).length ≤ 1) :
    groups.foldl (leaveOne flag) xs = xs := by
  induction groups with
  | nil => rfl
  | cons first rest ih =>
    rw [List.foldl_cons, leaveOne_eq_self (hfew first List.mem_cons_self)]
    exact ih fun group hgroup => hfew group (List.mem_cons_of_mem first hgroup)

/-- Where flags differ and no group has two members, all options are kept. -/
theorem keptOptions_eq_self (hflags : (xs.map flag).Nodup)
    (hfew : ∀ group ∈ groups, (xs.filter fun x => group.contains (flag x)).length ≤ 1) :
    keptOptions groups flag xs = xs := by
  unfold keptOptions
  rw [foldl_leaveOne_eq_self hfew]
  refine ration_eq_self fun k count hmost => ?_
  obtain rfl : 1 = count := by simpa using hmost
  have hcount := List.nodup_iff_count_le_one.1 hflags k
  rw [List.count_eq_countP, List.countP_map, List.countP_eq_length_filter] at hcount
  exact hcount

/-- The second of two options in a group is not kept. -/
theorem not_mem_leaveOne (hnodup : xs.Nodup) (hlater : [x, y].Sublist xs)
    (hx : group.contains (flag x) = true) (hy : group.contains (flag y) = true) :
    y ∉ leaveOne flag xs group :=
  not_mem_ration_of_later hnodup hlater (hx.trans hy.symm) (if_pos hy)

section TakingAway

variable [DecidableEq α]

/-- Items that are not there cannot be taken away. -/
theorem filter_ne_of_not_mem (hy : y ∉ xs) : xs.filter (· ≠ y) = xs := by
  rw [List.filter_eq_self]
  intro x hx
  simp only [ne_eq, decide_not, Bool.not_eq_true', decide_eq_false_iff_not]
  rintro rfl
  exact hy hx

/-- An option behind another one with the same flag can be taken away before or after a group is
dealt with, and if it is still there afterwards, so is the other one. -/
theorem leaveOne_of_repeated (hnodup : xs.Nodup) (hlater : y ∈ xs → [x, y].Sublist xs)
    (hflag : flag x = flag y) (group : List String) :
    leaveOne flag (xs.filter (· ≠ y)) group = (leaveOne flag xs group).filter (· ≠ y) ∧
      (y ∈ leaveOne flag xs group → [x, y].Sublist (leaveOne flag xs group)) := by
  by_cases hmember : group.contains (flag y) = true
  · have hnot : y ∉ leaveOne flag xs group := by
      intro hy
      have hpair := hlater ((leaveOne_sublist flag xs group).subset hy)
      exact not_mem_leaveOne hnodup hpair (hflag ▸ hmember) hmember hy
    refine ⟨?_, fun hy => absurd hy hnot⟩
    rw [filter_ne_of_not_mem hnot]
    refine ration_filter fun z hz => ?_
    have hne : z ≠ y := fun hsame => hnot (hsame ▸ hz)
    simpa using hne
  · constructor
    · refine ration_filter_unbounded fun z _ hz => ?_
      obtain rfl : z = y := by simpa using hz
      simpa using hmember
    · intro hy
      have hpair := hlater ((leaveOne_sublist flag xs group).subset hy)
      -- neither is in the group, and of those that are not all are kept
      have hothers := filter_ration (fun x => group.contains (flag x))
        (fun member => if member then some 1 else none) xs false
      have hkept : [x, y].Sublist
          ((leaveOne flag xs group).filter fun x => group.contains (flag x) = false) := by
        unfold leaveOne
        rw [hothers]
        have hfilter := hpair.filter fun x => group.contains (flag x) = false
        have hneither : flag y ∉ group := by simpa using hmember
        simpa [takeAllowed, hflag, hneither] using hfilter
      exact hkept.trans List.filter_sublist

/-- An option behind another one with the same flag is not kept, and it can be taken away
beforehand. -/
theorem keptOptions_of_repeated (hnodup : xs.Nodup) (hlater : [x, y].Sublist xs)
    (hflag : flag x = flag y) (groups : List (List String)) :
    y ∉ keptOptions groups flag xs ∧
      keptOptions groups flag (xs.filter (· ≠ y)) = keptOptions groups flag xs := by
  have hgroups : ∀ xs : List α, xs.Nodup → (y ∈ xs → [x, y].Sublist xs) →
      groups.foldl (leaveOne flag) (xs.filter (· ≠ y)) =
          (groups.foldl (leaveOne flag) xs).filter (· ≠ y) ∧
        (y ∈ groups.foldl (leaveOne flag) xs →
          [x, y].Sublist (groups.foldl (leaveOne flag) xs)) := by
    induction groups with
    | nil => exact fun xs _ hpair => ⟨rfl, hpair⟩
    | cons first rest ih =>
      intro xs hnodup hpair
      rcases leaveOne_of_repeated hnodup hpair hflag first with ⟨hfilter, hpair'⟩
      rw [List.foldl_cons, List.foldl_cons, hfilter]
      exact ih _ (hnodup.sublist (leaveOne_sublist flag xs first)) hpair'
  rcases hgroups xs hnodup fun _ => hlater with ⟨hfilter, hpair⟩
  have hnot : y ∉ keptOptions groups flag xs := by
    intro hy
    have hpair' := hpair ((ration_sublist _ _ _).subset hy)
    have hnodup' := hnodup.sublist (foldl_leaveOne_sublist flag xs groups)
    exact not_mem_ration_of_later hnodup' hpair' hflag rfl hy
  refine ⟨hnot, ?_⟩
  unfold keptOptions at hnot ⊢
  rw [hfilter]
  refine ration_filter fun z hz => ?_
  have hne : z ≠ y := fun hsame => hnot (hsame ▸ hz)
  simpa using hne

/-- The second of two options in a group is not kept, and it can be taken away beforehand when no
group before has two members. -/
theorem keptOptions_of_group {before after : List (List String)} (hnodup : xs.Nodup)
    (hgroups : groups = before ++ group :: after) (hlater : [x, y].Sublist xs)
    (hx : group.contains (flag x) = true) (hy : group.contains (flag y) = true)
    (hfew : ∀ earlier ∈ before, (xs.filter fun x => earlier.contains (flag x)).length ≤ 1) :
    y ∉ keptOptions groups flag xs ∧
      keptOptions groups flag (xs.filter (· ≠ y)) = keptOptions groups flag xs := by
  have hnot : y ∉ leaveOne flag xs group := not_mem_leaveOne hnodup hlater hx hy
  have hfew' : ∀ earlier ∈ before,
      ((xs.filter (· ≠ y)).filter fun x => earlier.contains (flag x)).length ≤ 1 := by
    intro earlier hmem
    have hless := (List.filter_sublist (p := fun x => decide (x ≠ y)) (l := xs)).filter
      fun x => earlier.contains (flag x)
    exact Nat.le_trans hless.length_le (hfew earlier hmem)
  have hfilter : leaveOne flag (xs.filter (· ≠ y)) group = leaveOne flag xs group := by
    refine ration_filter fun z hz => ?_
    have hne : z ≠ y := fun hsame => hnot (hsame ▸ hz)
    simpa using hne
  unfold keptOptions
  simp only [hgroups, List.foldl_append, List.foldl_cons]
  rw [foldl_leaveOne_eq_self hfew, foldl_leaveOne_eq_self hfew', hfilter]
  refine ⟨fun hmem => hnot ?_, rfl⟩
  have hgroups := (ration_sublist _ _ _).subset hmem
  exact (foldl_leaveOne_sublist flag _ after).subset hgroups

end TakingAway

/-! ## Operands -/

variable {name : α → Option String} {operands : List OperandDef}

/-- The most operands that a command may keep with an id: the smallest of the limits for it. -/
def mostOperands (operands : List OperandDef) (id : Option String) : Option Nat :=
  (operands.filterMap fun operand =>
    if some operand.id = id then operand.cardinality.max.limit.map UInt32.toNat else none).min?

/-- The operands that a command may keep: the first ones with each id, as many as allowed. -/
def keptOperands (operands : List OperandDef) (name : α → Option String) (xs : List α) : List α :=
  ration name (mostOperands operands) xs

/-- The most operands of a name that may stay is the least of the bounds that are set for it. -/
theorem mostOperands_eq_some_iff {id : Option String} {count : Nat} :
    mostOperands operands id = some count ↔
      (∃ operand ∈ operands, some operand.id = id ∧
        operand.cardinality.max.limit.map UInt32.toNat = some count) ∧
      ∀ operand ∈ operands, some operand.id = id → ∀ other,
        operand.cardinality.max.limit.map UInt32.toNat = some other → count ≤ other := by
  unfold mostOperands
  rw [List.min?_eq_some_iff]
  simp only [List.mem_filterMap, Option.ite_none_right_eq_some]
  refine and_congr_right fun _ => ?_
  constructor
  · intro hleast operand hmem hid other hlimit
    exact hleast other ⟨operand, hmem, hid, hlimit⟩
  · rintro hleast other ⟨operand, hmem, hid, hlimit⟩
    exact hleast operand hmem hid other hlimit

/-- Where an operand has a limit, as many operands or less are allowed with its id. -/
theorem exists_mostOperands {operand : OperandDef} {most : UInt32} (hmem : operand ∈ operands)
    (hmost : operand.cardinality.max.limit = some most) :
    ∃ count, mostOperands operands (some operand.id) = some count ∧ count ≤ most.toNat := by
  have hlimit : operand.cardinality.max.limit.map UInt32.toNat = some most.toNat := by
    rw [hmost, Option.map_some]
  cases hcount : mostOperands operands (some operand.id) with
  | none =>
    unfold mostOperands at hcount
    rw [List.min?_eq_none_iff, List.filterMap_eq_nil_iff] at hcount
    have hnone := hcount operand hmem
    rw [if_pos rfl, hlimit] at hnone
    exact absurd hnone (by simp)
  | some count =>
    exact ⟨count, rfl, (mostOperands_eq_some_iff.1 hcount).2 operand hmem rfl _ hlimit⟩

/-- An operand beyond a limit is not kept. -/
theorem not_mem_keptOperands {operand : OperandDef} {most : UInt32} (hnodup : xs.Nodup)
    (hmem : operand ∈ operands) (hmost : operand.cardinality.max.limit = some most)
    (hbeyond : y ∈ (xs.filter (name · = some operand.id)).drop most.toNat) :
    y ∉ keptOperands operands name xs := by
  intro hkept
  rcases exists_mostOperands hmem hmost with ⟨count, hcount, hle⟩
  have hname : name y = some operand.id := by
    have hnamed := List.mem_of_mem_drop hbeyond
    simpa using (List.mem_filter.1 hnamed).2
  have hfirst : y ∈ (xs.filter (name · = some operand.id)).take count := by
    have hration := filter_ration name (mostOperands operands) xs (some operand.id)
    rw [hcount] at hration
    have hnamed : y ∈ (ration name (mostOperands operands) xs).filter (name · = some operand.id) :=
      List.mem_filter.2 ⟨hkept, by simpa using hname⟩
    rw [hration] at hnamed
    exact hnamed
  have hdisjoint := List.disjoint_take_drop (hnodup.filter (name · = some operand.id)) hle
  exact hdisjoint hfirst hbeyond

/-- Where no operand is given more often than allowed, all are kept. -/
theorem keptOperands_eq_self (hfew : ∀ operand ∈ operands, ∀ most,
    operand.cardinality.max.limit = some most →
      (xs.filter (name · = some operand.id)).length ≤ most.toNat) :
    keptOperands operands name xs = xs := by
  refine ration_eq_self fun k count hcount => ?_
  rcases (mostOperands_eq_some_iff.1 hcount).1 with ⟨operand, hmem, rfl, hlimit⟩
  rcases Option.map_eq_some_iff.1 hlimit with ⟨most, hmost, rfl⟩
  exact hfew operand hmem most hmost

end ShellComposer
