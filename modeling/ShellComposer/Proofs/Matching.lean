import Mathlib.Data.Nat.Bitwise
import ShellComposer.Pattern.Expr

/-!
# Searching finds all matches

Where matches can end is computed for a whole set of starts at once, with repetitions run until
nothing new is reached.  The ends found in this way are those that the relation of matching has.

Main results:

- Definition `Expr.Ordered`: no repetition asks for more rounds than it allows.
- Theorem `Expr.testBit_ends`: the ends computed are those of matches.
- Theorem `Expr.occursIn_iff`: an expression is found in a text exactly when it matches somewhere.
-/

namespace ShellComposer.Pattern

open Unicode

variable {text : Array Char} {body : Expr} {i j k n : Nat}

/-! ## Rounds -/

/-- No rounds match the empty stretches. -/
theorem rounds_zero_iff : Rounds text body 0 i j ↔ i = j ∧ i ≤ text.size := by
  constructor
  · intro h
    cases h with
    | done inside => exact ⟨rfl, inside⟩
  · rintro ⟨rfl, inside⟩
    exact .done inside

/-- One round more is a match and the other rounds behind it. -/
theorem rounds_succ_iff :
    Rounds text body (n + 1) i k ↔ ∃ j, Matches text body i j ∧ Rounds text body n j k := by
  constructor
  · intro h
    cases h with
    | again once rest => exact ⟨_, once, rest⟩
  · rintro ⟨j, once, rest⟩
    exact .again once rest

/-- A match runs forward within the text. -/
theorem Matches.bounds {expr : Expr} (h : Matches text expr i j) : i ≤ j ∧ j ≤ text.size := by
  induction expr generalizing i j with
  | empty => cases h with | empty inside => exact ⟨le_rfl, inside⟩
  | set members => cases h with | set inside _ => exact ⟨by omega, inside⟩
  | look condition => cases h with | look inside _ => exact ⟨le_rfl, inside⟩
  | concat first second ihfirst ihsecond =>
    cases h with
    | concat left right => exact ⟨(ihfirst left).1.trans (ihsecond right).1, (ihsecond right).2⟩
  | either first second ihfirst ihsecond =>
    cases h with
    | left h => exact ihfirst h
    | right h => exact ihsecond h
  | repetition min max body ih =>
    cases h with
    | @repetition _ _ _ count _ _ _ _ rounds =>
      clear * - ih rounds
      induction count generalizing i with
      | zero =>
        obtain ⟨rfl, inside⟩ := rounds_zero_iff.1 rounds
        exact ⟨le_rfl, inside⟩
      | succ count ihcount =>
        obtain ⟨m, once, rest⟩ := rounds_succ_iff.1 rounds
        exact ⟨(ih once).1.trans (ihcount rest).1, (ihcount rest).2⟩

/-- Rounds match stretches of the text. -/
theorem Rounds.bounds (h : Rounds text body n i j) : i ≤ j ∧ j ≤ text.size :=
  Matches.bounds (.repetition le_rfl (fun _ hmost => le_of_eq (Option.some.inj hmost)) h)

/-- Rounds that follow each other. -/
theorem rounds_add_iff {m : Nat} :
    Rounds text body (m + n) i k ↔ ∃ j, Rounds text body m i j ∧ Rounds text body n j k := by
  induction m generalizing i with
  | zero =>
    rw [Nat.zero_add]
    constructor
    · intro h
      exact ⟨i, rounds_zero_iff.2 ⟨rfl, h.bounds.1.trans h.bounds.2⟩, h⟩
    · rintro ⟨j, hnone, h⟩
      obtain ⟨rfl, -⟩ := rounds_zero_iff.1 hnone
      exact h
  | succ m ih =>
    rw [Nat.succ_add, rounds_succ_iff]
    simp only [ih, rounds_succ_iff]
    constructor
    · rintro ⟨a, honce, b, hfirst, hrest⟩
      exact ⟨b, ⟨a, honce, hfirst⟩, hrest⟩
    · rintro ⟨b, ⟨a, honce, hfirst⟩, hrest⟩
      exact ⟨a, honce, b, hfirst, hrest⟩

/-- Rounds that do not go forward can be left out. -/
theorem Rounds.shorten (h : Rounds text body n i k) : ∃ m ≤ k - i, Rounds text body m i k := by
  induction n generalizing i with
  | zero =>
    obtain ⟨rfl, inside⟩ := rounds_zero_iff.1 h
    exact ⟨0, Nat.zero_le _, .done inside⟩
  | succ n ih =>
    obtain ⟨j, once, rest⟩ := rounds_succ_iff.1 h
    obtain ⟨m, hm, hrounds⟩ := ih rest
    by_cases hsame : i = j
    · subst hsame
      exact ⟨m, hm, hrounds⟩
    · have hforward := once.bounds
      have hrest := rest.bounds
      exact ⟨m + 1, by omega, .again once hrounds⟩

/-! ## Sets of positions -/

/-- All positions of a set are in the text. -/
def Within (text : Array Char) (start : Positions) : Prop :=
  ∀ i, start.testBit i = true → i ≤ text.size

/-- A position is in the set when it is one of the text and the condition holds there. -/
theorem testBit_positionsWhere (text : Array Char) (holds : Nat → Bool) (i : Nat) :
    (positionsWhere text holds).testBit i = (decide (i ≤ text.size) && holds i) := by
  have hfold : ∀ (positions : List Nat) (set : Positions),
      (positions.foldl (fun set position =>
        if holds position then set ||| 1 <<< position else set) set).testBit i =
      (set.testBit i || (decide (i ∈ positions) && holds i)) := by
    intro positions
    induction positions with
    | nil => intro set; simp
    | cons first rest ih =>
      intro set
      rw [List.foldl_cons, ih]
      by_cases hfirst : holds first
      · by_cases hsame : i = first
        · subst hsame
          simp [hfirst, Nat.testBit_or, Nat.testBit_shiftLeft]
        · have hbit : (1 <<< first).testBit i = false := by
            rw [Nat.one_shiftLeft, Nat.testBit_two_pow_of_ne (Ne.symm hsame)]
          simp [hfirst, hsame, Nat.testBit_or, hbit]
      · by_cases hsame : i = first
        · subst hsame
          simp [hfirst]
        · simp [hfirst, hsame]
  rw [positionsWhere, hfold, Nat.zero_testBit, Bool.false_or]
  congr 1
  rw [decide_eq_decide, List.mem_range]
  omega

/-- A step from sets to sets of positions goes wherever matches go. -/
def Follows (text : Array Char) (body : Expr) (step : Positions → Positions) : Prop :=
  ∀ start, Within text start → ∀ j, (step start).testBit j = true ↔
    ∃ i, start.testBit i = true ∧ Matches text body i j

section Steps

variable {step : Positions → Positions} {start : Positions}

/-- A step leads to positions of the text. -/
theorem Follows.within (h : Follows text body step) (hstart : Within text start) :
    Within text (step start) := by
  intro j hj
  obtain ⟨i, -, hmatches⟩ := (h start hstart j).1 hj
  exact hmatches.bounds.2

/-- Where a step changes nothing, no number of rounds does. -/
theorem Follows.fixed (h : Follows text body step) (hstart : Within text start)
    (hfixed : step start = start) (n j : Nat) :
    start.testBit j = true ↔ ∃ i, start.testBit i = true ∧ Rounds text body n i j := by
  induction n with
  | zero =>
    constructor
    · intro hj
      exact ⟨j, hj, .done (hstart j hj)⟩
    · rintro ⟨i, hi, hrounds⟩
      obtain ⟨rfl, -⟩ := rounds_zero_iff.1 hrounds
      exact hi
  | succ n ih =>
    rw [ih]
    have hstep := h start hstart
    rw [hfixed] at hstep
    simp only [rounds_succ_iff]
    constructor
    · rintro ⟨m, hm, hrounds⟩
      obtain ⟨i, hi, honce⟩ := (hstep m).1 hm
      exact ⟨i, hi, m, honce, hrounds⟩
    · rintro ⟨i, hi, m, honce, hrounds⟩
      exact ⟨m, (hstep m).2 ⟨i, hi, honce⟩, hrounds⟩

/-- Repeating a step leads where so many rounds end. -/
theorem Follows.testBit_iterate (h : Follows text body step) (hstart : Within text start)
    (n j : Nat) : (iterate step n start).testBit j = true ↔
      ∃ i, start.testBit i = true ∧ Rounds text body n i j := by
  induction n generalizing start with
  | zero =>
    rw [iterate]
    constructor
    · intro hj
      exact ⟨j, hj, .done (hstart j hj)⟩
    · rintro ⟨i, hi, hrounds⟩
      obtain ⟨rfl, -⟩ := rounds_zero_iff.1 hrounds
      exact hi
  | succ n ih =>
    rw [iterate]
    by_cases hfixed : step start = start
    · simp only [hfixed, if_true]
      exact h.fixed hstart hfixed (n + 1) j
    · simp only [hfixed, if_false]
      rw [ih (h.within hstart)]
      simp only [rounds_succ_iff, h start hstart]
      constructor
      · rintro ⟨m, ⟨i, hi, honce⟩, hrounds⟩
        exact ⟨i, hi, m, honce, hrounds⟩
      · rintro ⟨i, hi, m, honce, hrounds⟩
        exact ⟨m, ⟨i, hi, honce⟩, hrounds⟩

/-- Adding what a step leads to stays within the text. -/
theorem Follows.within_or (h : Follows text body step) (hstart : Within text start) :
    Within text (start ||| step start) := by
  intro j hj
  rw [Nat.testBit_or, Bool.or_eq_true] at hj
  rcases hj with hj | hj
  · exact hstart j hj
  · exact h.within hstart j hj

/-- Where a step leads to nothing new, no number of rounds does. -/
theorem Follows.closed (h : Follows text body step) (hstart : Within text start)
    (hclosed : start ||| step start = start) (hrounds : Rounds text body n i j)
    (hi : start.testBit i = true) : start.testBit j = true := by
  induction n generalizing i with
  | zero =>
    obtain ⟨rfl, -⟩ := rounds_zero_iff.1 hrounds
    exact hi
  | succ n ih =>
    obtain ⟨m, honce, hrest⟩ := rounds_succ_iff.1 hrounds
    refine ih hrest ?_
    rw [← hclosed, Nat.testBit_or, (h start hstart m).2 ⟨i, hi, honce⟩, Bool.or_true]

/-- Gathering steps leads where at most so many rounds end. -/
theorem Follows.testBit_saturate (h : Follows text body step) (hstart : Within text start)
    (n j : Nat) : (saturate step n start).testBit j = true ↔
      ∃ m ≤ n, ∃ i, start.testBit i = true ∧ Rounds text body m i j := by
  induction n generalizing start with
  | zero =>
    rw [saturate]
    constructor
    · intro hj
      exact ⟨0, le_rfl, j, hj, .done (hstart j hj)⟩
    · rintro ⟨m, hm, i, hi, hrounds⟩
      obtain rfl : m = 0 := by omega
      obtain ⟨rfl, -⟩ := rounds_zero_iff.1 hrounds
      exact hi
  | succ n ih =>
    rw [saturate]
    by_cases hclosed : start ||| step start = start
    · simp only [hclosed, if_true]
      constructor
      · intro hj
        exact ⟨0, Nat.zero_le _, j, hj, .done (hstart j hj)⟩
      · rintro ⟨m, -, i, hi, hrounds⟩
        exact h.closed hstart hclosed hrounds hi
    · simp only [hclosed, if_false]
      rw [ih (h.within_or hstart)]
      simp only [Nat.testBit_or, Bool.or_eq_true, h start hstart]
      constructor
      · rintro ⟨m, hm, i, hi | ⟨a, ha, honce⟩, hrounds⟩
        · exact ⟨m, by omega, i, hi, hrounds⟩
        · exact ⟨m + 1, by omega, a, ha, .again honce hrounds⟩
      · rintro ⟨m, hm, i, hi, hrounds⟩
        cases m with
        | zero => exact ⟨0, Nat.zero_le _, i, .inl hi, hrounds⟩
        | succ m =>
          obtain ⟨a, honce, hrest⟩ := rounds_succ_iff.1 hrounds
          exact ⟨m, by omega, a, .inr ⟨i, hi, honce⟩, hrest⟩

end Steps

/-! ## Ends of matches -/

namespace Expr

/-- No repetition asks for more rounds than it allows. -/
def Ordered : Expr → Prop
  | concat first second => first.Ordered ∧ second.Ordered
  | either first second => first.Ordered ∧ second.Ordered
  | repetition min max body => (∀ most ∈ max, min ≤ most) ∧ body.Ordered
  | _ => True

/-- Behind a character of a set ends a match of the set. -/
theorem testBit_ends_set (members : CharSet) (start : Positions) (j : Nat) :
    ((set members).ends text start).testBit j = true ↔
      ∃ i, start.testBit i = true ∧ Matches text (.set members) i j := by
  rw [ends, Nat.testBit_shiftLeft, Nat.testBit_and, testBit_positionsWhere]
  constructor
  · intro hj
    simp only [Bool.and_eq_true, decide_eq_true_eq] at hj
    obtain ⟨hpositive, hbit, -, hmember⟩ := hj
    obtain ⟨k, rfl⟩ : ∃ k, j = k + 1 := ⟨j - 1, by omega⟩
    rw [Nat.add_sub_cancel] at hbit hmember
    rw [isAfter] at hmember
    cases hat : text[k]? with
    | none => simp [hat] at hmember
    | some c =>
      obtain ⟨inside, hc⟩ := Array.getElem?_eq_some_iff.1 hat
      rw [hat] at hmember
      exact ⟨k, hbit, .set inside (hc ▸ hmember)⟩
  · rintro ⟨i, hi, hmatches⟩
    cases hmatches with
    | set inside member =>
      simp [hi, isAfter, inside, member, inside.le]

/-- Where a condition holds, it ends as it starts. -/
theorem testBit_ends_look (condition : Look) (start : Positions) (j : Nat) :
    ((look condition).ends text start).testBit j = true ↔
      ∃ i, start.testBit i = true ∧ Matches text (.look condition) i j := by
  rw [ends, Nat.testBit_and, testBit_positionsWhere]
  constructor
  · intro hj
    simp only [Bool.and_eq_true, decide_eq_true_eq] at hj
    exact ⟨j, hj.1, .look hj.2.1 hj.2.2⟩
  · rintro ⟨i, hi, hmatches⟩
    cases hmatches with
    | look inside holds => simp [hi, inside, holds]

/-- A repetition goes through the rounds that it needs, and then on to whatever is reached in the
rounds that it may have. -/
theorem testBit_ends_repetition {min : Nat} {max : Option Nat} {start : Positions}
    (hfollows : Follows text body (body.ends text)) (hordered : ∀ most ∈ max, min ≤ most)
    (hstart : Within text start) (j : Nat) :
    ((repetition min max body).ends text start).testBit j = true ↔
      ∃ i, start.testBit i = true ∧ Matches text (.repetition min max body) i j := by
  have hneeded : Within text (iterate (body.ends text) min start) := by
    intro k hk
    obtain ⟨i, -, hrounds⟩ := (hfollows.testBit_iterate hstart min k).1 hk
    exact hrounds.bounds.2
  rw [ends.eq_def]
  simp only [hfollows.testBit_saturate hneeded, hfollows.testBit_iterate hstart]
  constructor
  · rintro ⟨extra, hextra, k, ⟨i, hi, hfirst⟩, hrest⟩
    refine ⟨i, hi, .repetition (Nat.le_add_right min extra) ?_
      (rounds_add_iff.2 ⟨k, hfirst, hrest⟩)⟩
    intro most hmost
    obtain rfl := Option.mem_def.1 hmost
    have hle := hordered most rfl
    simp only at hextra
    omega
  · rintro ⟨i, hi, hmatches⟩
    cases hmatches with
    | @repetition _ _ _ count _ _ atLeast atMost rounds =>
      obtain ⟨extra, rfl⟩ := Nat.exists_eq_add_of_le atLeast
      obtain ⟨k, hfirst, hrest⟩ := rounds_add_iff.1 rounds
      cases max with
      | none =>
        obtain ⟨fewer, hfewer, hshort⟩ := hrest.shorten
        have hbounds := hrest.bounds
        exact ⟨fewer, by simp only; omega, k, ⟨i, hi, hfirst⟩, hshort⟩
      | some most =>
        have hle := atMost most rfl
        exact ⟨extra, by simp only; omega, k, ⟨i, hi, hfirst⟩, hrest⟩

/-- The ends computed from a set of positions are those of matches that start there. -/
theorem testBit_ends {expr : Expr} (h : expr.Ordered) {start : Positions}
    (hstart : Within text start) (j : Nat) : (expr.ends text start).testBit j = true ↔
      ∃ i, start.testBit i = true ∧ Matches text expr i j := by
  induction expr generalizing start j with
  | empty =>
    rw [ends]
    constructor
    · intro hj
      exact ⟨j, hj, .empty (hstart j hj)⟩
    · rintro ⟨i, hi, hmatches⟩
      cases hmatches
      exact hi
  | set members => exact testBit_ends_set members start j
  | look condition => exact testBit_ends_look condition start j
  | concat first second ihfirst ihsecond =>
    have hwithin : Within text (first.ends text start) := by
      intro k hk
      obtain ⟨i, -, hmatches⟩ := (ihfirst h.1 hstart k).1 hk
      exact hmatches.bounds.2
    rw [ends, ihsecond h.2 hwithin]
    simp only [ihfirst h.1 hstart]
    constructor
    · rintro ⟨k, ⟨i, hi, hleft⟩, hright⟩
      exact ⟨i, hi, .concat hleft hright⟩
    · rintro ⟨i, hi, hmatches⟩
      cases hmatches with
      | concat left right => exact ⟨_, ⟨i, hi, left⟩, right⟩
  | either first second ihfirst ihsecond =>
    rw [ends, Nat.testBit_or, Bool.or_eq_true, ihfirst h.1 hstart, ihsecond h.2 hstart]
    constructor
    · rintro (⟨i, hi, hmatches⟩ | ⟨i, hi, hmatches⟩)
      · exact ⟨i, hi, .left hmatches⟩
      · exact ⟨i, hi, .right hmatches⟩
    · rintro ⟨i, hi, hmatches⟩
      cases hmatches with
      | left h => exact .inl ⟨i, hi, h⟩
      | right h => exact .inr ⟨i, hi, h⟩
  | repetition min max body ih =>
    have hfollows : Follows text body (body.ends text) := fun start hstart j => ih h.2 hstart j
    exact testBit_ends_repetition hfollows h.1 hstart j

/-- An expression is found in a text exactly when it matches somewhere. -/
theorem occursIn_iff {expr : Expr} (h : expr.Ordered) :
    expr.occursIn text = true ↔ ∃ i j, Matches text expr i j := by
  have hall : Within text (positionsWhere text fun _ => true) := by
    intro i hi
    simpa [testBit_positionsWhere] using hi
  rw [occursIn, bne_iff_ne]
  constructor
  · intro hsome
    obtain ⟨j, hj⟩ := Nat.exists_testBit_of_ne_zero hsome
    obtain ⟨i, -, hmatches⟩ := (testBit_ends h hall j).1 hj
    exact ⟨i, j, hmatches⟩
  · rintro ⟨i, j, hmatches⟩ hnone
    have hstart : (positionsWhere text fun _ => true).testBit i = true := by
      simpa [testBit_positionsWhere] using hmatches.bounds.1.trans hmatches.bounds.2
    have hj := (testBit_ends h hall j).2 ⟨i, hstart, hmatches⟩
    rw [hnone, Nat.zero_testBit] at hj
    exact Bool.false_ne_true hj

end Expr

end ShellComposer.Pattern
