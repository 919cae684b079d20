import ShellComposer.Proofs.EnclosedClasses

/-!
# Whole patterns inside a group

Repetitions, groups and alternatives are read in the same way by themselves and with a closing
parenthesis behind them.

Main results:

- Theorems `tied_boundsOf`, `tied_parseOpening`: bounds of repetitions and starts of groups.
- Theorem `tied_parseAlternatives`: whole patterns, with enough steps for what is left of the text.
-/

namespace ShellComposer.Pattern

variable {after : List Char} {c c' d d' : Cursor} {rest : List Char}

/-! ## Repetitions -/

/-- Both readings pass over white space. -/
theorem Paired.dropBlanks (h : Paired after c c') : Paired after c.dropBlanks c'.dropBlanks := by
  cases h with
  | same =>
    have hblanks : (c.extend after).dropBlanks = c.dropBlanks.extend after := by
      rw [Cursor.dropBlanks, Cursor.extend_rest, dropWhile_append_close (by decide)]
      rfl
    rw [hblanks]
    exact .same c.dropBlanks
  | past hend hpast hline =>
    refine .past ?_ (c'.dropBlanks_suffix.trans hpast) fun hbreak => by rw [hline hbreak]
    have hsuffix := c.dropBlanks_suffix
    rwa [hend, List.suffix_nil] at hsuffix

/-- At the end of the text there are no digits to read. -/
theorem parseDigits_end (hend : c.rest = []) (digits : List Char) (n : Nat) :
    parseDigits c digits n = (digits.reverse, c) := by
  cases n with
  | zero => rfl
  | succ n => rw [parseDigits, hend]

/-- Digits are read in the same way. -/
theorem tied_parseDigits {n m : Nat} (h : Paired after c c') (hn : c.rest.length ≤ n)
    (hm : c'.rest.length ≤ m) (digits : List Char) :
    Tied after (some (parseDigits c digits n)) (some (parseDigits c' digits m)) := by
  have honward : ∀ (c : Cursor) (digits : List Char) (n : Nat),
      Onward c (some (parseDigits c digits n)) :=
    fun c digits n => .some (parseDigits_suffix c digits n)
  induction n generalizing m c c' digits with
  | zero =>
    have hend : c.rest = [] := List.eq_nil_of_length_eq_zero (by omega)
    cases h with
    | past _ hpast hline =>
      refine .of_past hend hpast hline (honward _ _ _) (honward _ _ _) ?_
      rintro rfl
      rw [parseDigits_end hend, parseDigits_end hend]
    | same =>
      rw [Cursor.extend_nil hend, List.length_cons] at hm
      obtain ⟨m, rfl⟩ : ∃ k, m = k + 1 := ⟨m - 1, by omega⟩
      rw [parseDigits_end hend, parseDigits, Cursor.extend_nil hend]
      exact .both _ (.same c)
  | succ n ih =>
    cases h with
    | past hend hpast hline =>
      refine .of_past hend hpast hline (honward _ _ _) (honward _ _ _) ?_
      rintro rfl
      rw [parseDigits_end hend, parseDigits_end hend]
    | same =>
      have hmore := c.extend_pos after
      obtain ⟨m, rfl⟩ : ∃ k, m = k + 1 := ⟨m - 1, by omega⟩
      rw [parseDigits, parseDigits]
      split
      · rename_i hrest
        rw [Cursor.extend_nil hrest]
        exact .both _ (.same c)
      · rename_i first rest hrest
        obtain ⟨hlt, hlt'⟩ := skipTo_shorter after hrest
        simp only [Cursor.extend_cons hrest]
        split
        · exact ih (paired_skipTo after c rest) (by omega) (by omega) _
        · exact .both _ (.same c)

/-- The number that digits denote is found in the same way. -/
theorem tied_countOf (h : Paired after c c') (digits : List Char) :
    Tied after (countOf digits c) (countOf digits c') := by
  rw [countOf, countOf]
  split
  · exact .both _ h
  · simp only
    split
    · exact .both _ h
    · exact .none

/-- Counts are read in the same way. -/
theorem tied_parseCount (h : Paired after c c') :
    Tied after (parseCount c) (parseCount c') := by
  have hread : ∀ c, parseCount c = some (digitsOf c) >>= fun read =>
      countOf read.1 read.2.dropBlanks.skip := fun _ => rfl
  have honward : ∀ digits (d : Cursor), Onward d (countOf digits d.dropBlanks.skip) :=
    fun digits d => (onward_countOf digits _).of_suffix
      ((Cursor.skip_suffix _).trans d.dropBlanks_suffix)
  rw [hread, hread]
  refine (tied_parseDigits h.dropBlanks (Nat.le_refl _) (Nat.le_refl _) []).bind ?_ honward honward
  exact fun digits d d' _ _ hpaired => tied_countOf hpaired.dropBlanks.skip digits

/-- Two bounds are closed in the same way. -/
theorem tied_closeBounds (h : Paired after c c') (least most : Nat) :
    Tied after (closeBounds least most c) (closeBounds least most c') := by
  refine h.tied (onward_closeBounds least most) fun c => ?_
  rw [closeBounds, closeBounds]
  split
  · rename_i rest hrest
    simp only [Cursor.extend_cons hrest]
    split
    · exact .both _ (paired_skipTo after c rest)
    · exact .none
  · rename_i hbrace
    have hbrace' := Cursor.extend_ne after (by decide) hbrace
    simp only
    exact .none

/-- Upper bounds are read in the same way. -/
theorem tied_upperBound (h : Paired after c c') (least : Option Nat) :
    Tied after (upperBound least c) (upperBound least c') := by
  refine h.tied (onward_upperBound least) fun c => ?_
  rw [upperBound.eq_def, upperBound.eq_def]
  split
  · rename_i rest hrest
    simp only [Cursor.extend_cons hrest]
    exact .choose fun least => .both _ (paired_skipTo after c rest)
  · rename_i hbrace
    have hbrace' := Cursor.extend_ne after (by decide) hbrace
    have honward : ∀ least (most : Option Nat) (d : Cursor),
        Onward d (most >>= fun most => closeBounds least most d) :=
      fun least most d => .choose fun most _ => onward_closeBounds least most d
    simp only
    refine .choose fun least => (tied_parseCount (.same c)).bind ?_ (honward least)
      (honward least)
    exact fun most d d' _ _ hpaired => .choose fun most => tied_closeBounds hpaired least most

/-- What follows the lower bound is read in the same way. -/
theorem tied_boundsAfter (h : Paired after c c') (least : Option Nat) :
    Tied after (boundsAfter least c) (boundsAfter least c') := by
  refine h.tied (onward_boundsAfter least) fun c => ?_
  rw [boundsAfter, boundsAfter]
  split
  · rename_i rest hrest
    simp only [Cursor.extend_cons hrest]
    exact tied_upperBound (paired_skipTo after c rest) least
  · rename_i rest hrest
    simp only [Cursor.extend_cons hrest]
    exact .choose fun least => .choose fun most => .both _ (paired_skipTo after c rest)
  · rename_i hcomma hbrace
    have hcomma' := Cursor.extend_ne after (by decide) hcomma
    have hbrace' := Cursor.extend_ne after (by decide) hbrace
    simp only
    exact .none

/-- The bounds of a repetition are read in the same way. -/
theorem tied_boundsOf (h : Paired after c c') : Tied after (boundsOf c) (boundsOf c') :=
  (tied_parseCount h.skip).bind
    (fun least _ _ _ _ hpaired => tied_boundsAfter hpaired least)
    (fun least d => onward_boundsAfter least d) fun least d => onward_boundsAfter least d

/-- Behind a dangling brace there are no bounds, unless they are past the parenthesis. -/
theorem boundsOf_dangling {rest : List Char} (hend : (c.skipTo rest).rest = []) :
    ∀ x d, boundsOf ((c.extend after).goto (rest ++ ')' :: after)) = some (x, d) →
      d.rest <:+ after := by
  have hnone : boundsOf (c.goto rest) = none := by
    obtain ⟨d, hd, hcount⟩ := parseCount_end hend
    have hbounds : boundsAfter none d = none := by
      rw [boundsAfter, hd]
    change parseCount (c.skipTo rest) >>= _ = none
    rw [hcount]
    exact hbounds
  have htied := tied_boundsOf (paired_goto after c rest)
  rw [hnone] at htied
  exact htied.of_none

/-! ## Groups -/

/-- Flags are read in the same way, or the pattern ends among them and the parenthesis ends them. -/
theorem parseFlags_append (items : List FlagItem) (negated dangling : Bool)
    (rest after : List Char) :
    parseFlags items negated dangling (rest ++ ')' :: after) =
      (parseFlags items negated dangling rest).map
        (fun read => (read.1, read.2 ++ ')' :: after)) ∨
    (parseFlags items negated dangling rest = none ∧
      ∀ found left, parseFlags items negated dangling (rest ++ ')' :: after) =
        some (found, left) → left = ')' :: after) := by
  induction rest generalizing items negated dangling with
  | nil =>
    refine .inr ⟨rfl, fun found left h => ?_⟩
    cases dangling with
    | true => simp [parseFlags] at h
    | false => exact (Prod.mk.inj (Option.some.inj h)).2.symm
  | cons first rest ih =>
    rw [List.cons_append]
    by_cases hcolon : first = ':'
    · subst hcolon
      refine .inl ?_
      cases dangling <;> rfl
    · by_cases hclose : first = ')'
      · subst hclose
        refine .inl ?_
        cases dangling <;> rfl
      · by_cases hdash : first = '-'
        · subst hdash
          cases negated with
          | true => exact .inl rfl
          | false => exact ih items true true
        · have hstep : ∀ text : List Char, parseFlags items negated dangling (first :: text) =
              flag? first >>= fun flag =>
                if items.any fun item => item.flag == flag then none
                else parseFlags (items ++ [⟨flag, !negated⟩]) negated false text := by
            intro text
            rw [parseFlags]
            · exact hcolon
            · exact hclose
            · exact hdash
          rw [hstep, hstep]
          cases flag? first with
          | none => exact .inl rfl
          | some flag =>
            simp only [Option.bind_eq_bind, Option.bind_some]
            split
            · exact .inl rfl
            · exact ih (items ++ [⟨flag, !negated⟩]) negated false

/-- The name of a group is read in the same way, or else past the parenthesis. -/
theorem parseGroupName_append (name : List Char) (rest after : List Char) :
    parseGroupName name (rest ++ ')' :: after) =
      (parseGroupName name rest).map (fun read => (read.1, read.2 ++ ')' :: after)) ∨
    (parseGroupName name rest = none ∧
      ∀ found left, parseGroupName name (rest ++ ')' :: after) = some (found, left) →
        left <:+ after) := by
  induction rest generalizing name with
  | nil =>
    refine .inr ⟨rfl, fun found left h => ?_⟩
    rw [List.nil_append, parseGroupName] at h
    · split at h
      · exact parseGroupName_suffix h
      · simp at h
    · decide
  | cons first rest ih =>
    rw [List.cons_append]
    by_cases hclose : first = '>'
    · subst hclose
      rw [parseGroupName, parseGroupName]
      refine .inl ?_
      split <;> rfl
    · have hstep : ∀ text : List Char, parseGroupName name (first :: text) =
          if isNameChar name.isEmpty first then parseGroupName (first :: name) text else none := by
        intro text
        rw [parseGroupName]
        exact hclose
      rw [hstep, hstep]
      cases isNameChar name.isEmpty first with
      | true => exact ih (first :: name)
      | false => exact .inl rfl

/-- What flags lead into is opened in the same way. -/
theorem tied_openFlagged (c : Cursor) (items : List FlagItem) (left : List Char) :
    Tied after ((openFlagged c items left).map Opening.parts)
      ((openFlagged (c.extend after) items (left ++ ')' :: after)).map Opening.parts) := by
  cases left with
  | nil =>
    refine .gone fun x d hd => ?_
    obtain ⟨opening, hopening, hparts⟩ := Option.map_eq_some_iff.1 hd
    rw [List.nil_append, openFlagged] at hopening
    split at hopening
    · simp at hopening
    · obtain rfl := Option.some.inj hopening
      obtain ⟨-, rfl⟩ := Prod.mk.inj hparts
      exact List.suffix_rfl
  | cons first rest =>
    rw [List.cons_append]
    by_cases hclose : first = ')'
    · subst hclose
      rw [openFlagged, openFlagged]
      split
      · exact .none
      · exact .both _ (.same _)
    · rw [openFlagged, openFlagged]
      · exact .both _ (.same _)
      · exact hclose
      · exact hclose

/-- Named groups are opened in the same way. -/
theorem tied_openNamed (c : Cursor) (rest : List Char) :
    Tied after ((openNamed c rest).map Opening.parts)
      ((openNamed (c.extend after) (rest ++ ')' :: after)).map Opening.parts) := by
  rw [openNamed, openNamed]
  rcases parseGroupName_append [] rest after with happend | ⟨hnone, hpast⟩
  · rw [happend]
    cases parseGroupName [] rest with
    | none => exact .none
    | some read =>
      change Tied after (Option.map Opening.parts (if c.names.contains read.1 then none else _))
        (Option.map Opening.parts (if c.names.contains read.1 then none else _))
      split
      · exact .none
      · exact .both _ (.same _)
  · rw [hnone]
    refine .gone fun x d hd => ?_
    obtain ⟨opening, hopening, hparts⟩ := Option.map_eq_some_iff.1 hd
    obtain ⟨⟨name, left⟩, hname, hopening⟩ := Option.bind_eq_some_iff.1 hopening
    have hleft := hpast name left hname
    simp only at hopening
    split at hopening
    · simp at hopening
    · obtain rfl := Option.some.inj hopening
      obtain ⟨-, rfl⟩ := Prod.mk.inj hparts
      exact hleft

/-- Flags and what they lead into are read in the same way. -/
theorem tied_flags (c : Cursor) (rest : List Char) :
    Tied after
      ((parseFlags [] false false rest >>= fun read =>
        openFlagged c read.1 read.2).map Opening.parts)
      ((parseFlags [] false false (rest ++ ')' :: after) >>= fun read =>
        openFlagged (c.extend after) read.1 read.2).map Opening.parts) := by
  rcases parseFlags_append [] false false rest after with happend | ⟨hnone, hpast⟩
  · rw [happend]
    cases parseFlags [] false false rest with
    | none => exact .none
    | some read => exact tied_openFlagged c read.1 read.2
  · -- the flags would go on behind the parenthesis, which ends them
    rw [hnone]
    refine .gone fun x e he => ?_
    obtain ⟨opening, hopening, hparts⟩ := Option.map_eq_some_iff.1 he
    obtain ⟨⟨items, left⟩, hflags, hopening⟩ := Option.bind_eq_some_iff.1 hopening
    obtain rfl := hpast items left hflags
    exact (tied_openFlagged c items []).of_none x e
      (Option.map_eq_some_iff.2 ⟨opening, hopening, hparts⟩)

/-- Whatever a parenthesis opens is opened in the same way. -/
theorem tied_parseOpening (h : Paired after c c') :
    Tied after ((parseOpening c).map Opening.parts) ((parseOpening c').map Opening.parts) := by
  have hskip := h.skip
  have honward := onward_parseOpening c
  have honward' := onward_parseOpening c'
  rw [parseOpening] at honward honward' ⊢
  rw [parseOpening]
  simp only at honward honward' ⊢
  generalize c.skip = d at hskip honward ⊢
  generalize c'.skip = d' at hskip honward' ⊢
  cases hskip with
  | past hend hpast hline =>
    exact .of_past hend hpast hline honward honward' (by rintro rfl; rfl)
  | same =>
    clear honward honward'
    split
    · rename_i hrest
      simp only [Cursor.extend_cons hrest, List.cons_append]
      exact .none
    · rename_i hrest
      simp only [Cursor.extend_cons hrest, List.cons_append]
      exact .none
    · rename_i hrest
      simp only [Cursor.extend_cons hrest, List.cons_append]
      exact .none
    · rename_i hrest
      simp only [Cursor.extend_cons hrest, List.cons_append]
      exact .none
    · rename_i rest hrest
      simp only [Cursor.extend_cons hrest, List.cons_append]
      exact tied_openNamed d rest
    · rename_i rest hequal hbang hrest
      have hequal' := append_ne after (by decide) hequal
      have hbang' := append_ne after (by decide) hbang
      simp only [Cursor.extend_cons hrest, List.cons_append]
      exact tied_openNamed d rest
    · rename_i rest hequal hbang hbehind hunlike hpname hname hrest
      have hequal' := append_ne after (by decide) hequal
      have hbang' := append_ne after (by decide) hbang
      have hname' := append_ne after (by decide) hname
      have hpname' := append_ne_pair after (by decide) hpname
      have hbehind' := fun tail => hname' ('=' :: tail)
      have hunlike' := fun tail => hname' ('!' :: tail)
      simp only [Cursor.extend_cons hrest]
      exact tied_flags d rest
    · rename_i hflags
      have hflags' := Cursor.extend_ne after (by decide) hflags
      split <;> first
        | exact (hflags' _ (by assumption)).elim
        | exact .both _ (.same d)

/-! ## Whole patterns -/

/-- The parenthesis is no question mark behind a repetition. -/
theorem skipReluctant_append (rest after : List Char) :
    skipReluctant (rest ++ ')' :: after) = skipReluctant rest ++ ')' :: after := by
  rw [skipReluctant.eq_def rest]
  split
  · rfl
  · rename_i hreluctant
    have hreluctant' := append_ne after (by decide) fun tail htail => hreluctant tail htail
    rw [skipReluctant]
    exact hreluctant'

/-- A question mark behind a repetition is passed over in the same way. -/
theorem paired_skipReluctant (after : List Char) (c : Cursor) (rest : List Char) :
    Paired after (c.goto (skipReluctant rest))
      ((c.extend after).goto (skipReluctant (rest ++ ')' :: after))) := by
  rw [skipReluctant_append]
  exact paired_goto after c (skipReluctant rest)

/-- Both readings pass over a question mark behind a repetition. -/
theorem Paired.skipReluctant (h : Paired after c c') :
    Paired after (c.goto (skipReluctant c.rest)) (c'.goto (skipReluctant c'.rest)) := by
  cases h with
  | same => exact paired_skipReluctant after c c.rest
  | past hend hpast hline =>
    refine .past ?_ ((skipReluctant_suffix _).trans hpast) fun hbreak => by rw [hline hbreak]
    rw [hend]
    rfl

/-- Reading alternatives goes onward. -/
theorem onward_parseAlternatives_here (n : Nat) (c : Cursor) (branches parts : List Syntax) :
    Onward c (parseAlternatives n c branches parts) :=
  (onward_parseAlternatives n c branches parts).of_suffix c.skip_suffix

/-- The bounds that a dangling brace starts are not closed within the pattern. -/
theorem parseAlternatives_dangling (hdangling : Dangling c) (n : Nat)
    (branches parts : List Syntax) (edge : Assertion) :
    ∀ x d, parseAlternatives n (c.extend after) branches (.assertion edge :: parts) =
      some (x, d) → d.rest <:+ after := by
  obtain ⟨rest, hrest, hend⟩ := hdangling
  intro x d hd
  cases n with
  | zero => simp [parseAlternatives] at hd
  | succ n =>
    have hblanks : skipFrom false (c.extend after).rest = (c.extend after).rest := by
      rw [Cursor.extend_cons hrest]
      rfl
    have hskip : (c.extend after).skip = c.extend after := by
      rw [Cursor.skip, hblanks]
      exact ite_self _
    rw [parseAlternatives, hskip] at hd
    simp only [Cursor.extend_cons hrest, popRepeatable, parseBounds_bind] at hd
    obtain ⟨popped, -, hd⟩ := Option.bind_eq_some_iff.1 hd
    obtain ⟨⟨bounds, e⟩, hbounds, hd⟩ := Option.bind_eq_some_iff.1 hd
    have honward := (onward_parseAlternatives_here n _ _ _ x d hd).trans (skipReluctant_suffix _)
    exact honward.trans (boundsOf_dangling hend bounds e hbounds)

/-- With enough steps, two readings of alternatives give the same. -/
def AlternativesTied (after : List Char) (n : Nat) : Prop :=
  ∀ {m : Nat} {c c' : Cursor} (branches parts : List Syntax), Paired after c c' →
    2 * c.rest.length + 1 ≤ n → 2 * c'.rest.length + 1 ≤ m →
    Tied after (parseAlternatives n c branches parts) (parseAlternatives m c' branches parts)

/-- The parenthesis that closes a group is one of the pattern, or else the one behind it. -/
theorem tied_afterGroup {n m : Nat} (halternatives : AlternativesTied after n)
    (h : Paired after c c') (hn : 2 * c.rest.length ≤ n) (hm : 2 * c'.rest.length ≤ m)
    (blanks : Bool) (branches parts : List Syntax) (items : List FlagItem) (body : Syntax) :
    Tied after (afterGroup n blanks branches parts items (body, c))
      (afterGroup m blanks branches parts items (body, c')) := by
  have hclosed : ∀ e, c.rest = [] →
      (∀ x d, afterGroup m blanks branches parts items (body, e) = some (x, d) → d.rest <:+ after) →
      Tied after (afterGroup n blanks branches parts items (body, c))
        (afterGroup m blanks branches parts items (body, e)) := by
    intro e hend hpast
    rw [afterGroup, hend]
    exact .gone hpast
  have honward := onward_afterGroup (onward_parseAlternatives_here m) blanks branches parts items
  cases h with
  | past hend hpast hline =>
    exact hclosed _ hend fun x d hd => (honward body _ x d hd).trans hpast
  | same =>
    cases hrest : c.rest with
    | nil =>
      refine hclosed _ hrest fun x d hd => ?_
      rw [afterGroup, Cursor.extend_nil hrest] at hd
      exact onward_parseAlternatives_here m _ _ _ x d hd
    | cons first rest =>
      rw [hrest, List.length_cons] at hn
      rw [Cursor.extend_cons hrest, List.length_cons] at hm
      by_cases hclose : first = ')'
      · subst hclose
        have hread := halternatives branches (.group items body :: parts)
          (.same ⟨rest, blanks, c.names⟩) (show 2 * rest.length + 1 ≤ n by omega)
          (show 2 * (rest ++ ')' :: after).length + 1 ≤ m by omega)
        rw [afterGroup, afterGroup]
        simp only [hrest, Cursor.extend_cons hrest]
        exact hread
      · have hopen : ∀ (n : Nat) {d : Cursor} {rest : List Char}, d.rest = first :: rest →
            afterGroup n blanks branches parts items (body, d) = none := by
          intro n d rest hrest
          have hhead : ∀ tail, d.rest = ')' :: tail → False :=
            fun tail htail => hclose (List.cons.inj (hrest.symm.trans htail)).1
          rw [afterGroup]
          simp only
        rw [hopen n hrest, hopen m (Cursor.extend_cons hrest)]
        exact .none

/-- What comes behind the start of a group or behind a directive is read in the same way. -/
theorem tied_afterOpening {n m : Nat} (halternatives : AlternativesTied after n)
    (h : Paired after c c') (hn : 2 * c.rest.length + 1 ≤ n) (hm : 2 * c'.rest.length + 1 ≤ m)
    (blanks : Bool) (branches parts : List Syntax) (opened : Bool × List FlagItem) :
    Tied after (afterOpening n blanks branches parts (opened, c))
      (afterOpening m blanks branches parts (opened, c')) := by
  obtain ⟨directive, items⟩ := opened
  cases directive with
  | true => exact halternatives _ _ h hn hm
  | false =>
    have honward := fun n => onward_afterGroup (onward_parseAlternatives_here n) blanks branches
      parts items
    refine (halternatives [] [] h hn hm).bind ?_ (honward n) (honward m)
    intro body d d' hd hd' hpaired
    have hlength := (onward_parseAlternatives_here n c [] [] body d hd).length_le
    have hlength' := (onward_parseAlternatives_here m c' [] [] body d' hd').length_le
    exact tied_afterGroup halternatives hpaired (by omega) (by omega) blanks branches parts items
      body

section Alternatives

variable {n m : Nat} {branches parts : List Syntax} {first : Char}

/-- Whatever is read first, one character less leaves enough steps for what is read next. -/
theorem AlternativesTied.later (halternatives : AlternativesTied after n)
    (hn : 2 * d.rest.length ≤ n) (hm : 2 * (d.extend after).rest.length ≤ m)
    (hrest : d.rest = first :: rest) (h : Paired after c c') (hc : c.rest.length ≤ rest.length)
    (hc' : c'.rest.length ≤ (rest ++ ')' :: after).length) :
    Tied after (parseAlternatives n c branches parts) (parseAlternatives m c' branches parts) := by
  rw [hrest, List.length_cons] at hn
  rw [Cursor.extend_cons hrest, List.length_cons] at hm
  exact halternatives branches parts h (by omega) (by omega)

/-- Both readings go on behind one character. -/
theorem AlternativesTied.goto (halternatives : AlternativesTied after n)
    (hn : 2 * d.rest.length ≤ n) (hm : 2 * (d.extend after).rest.length ≤ m)
    (hrest : d.rest = first :: rest) :
    Tied after (parseAlternatives n (d.goto rest) branches parts)
      (parseAlternatives m ((d.extend after).goto (rest ++ ')' :: after)) branches parts) :=
  halternatives.later hn hm hrest (paired_goto after d rest) (Nat.le_refl _) (Nat.le_refl _)

/-- A repetition without bounds of its own, and what comes behind it. -/
theorem AlternativesTied.repeated (halternatives : AlternativesTied after n)
    (hn : 2 * d.rest.length ≤ n) (hm : 2 * (d.extend after).rest.length ≤ m)
    (hrest : d.rest = first :: rest) (least : Nat) (most : Option Nat) :
    Tied after
      (popRepeatable parts >>= fun popped =>
        parseAlternatives n (d.goto (skipReluctant rest)) branches
          (.repetition least most popped.1 :: popped.2))
      (popRepeatable parts >>= fun popped =>
        parseAlternatives m ((d.extend after).goto (skipReluctant (rest ++ ')' :: after))) branches
          (.repetition least most popped.1 :: popped.2)) :=
  .choose fun _ => halternatives.later hn hm hrest (paired_skipReluctant after d rest)
    (skipReluctant_suffix _).length_le (skipReluctant_suffix _).length_le

/-- A repetition with bounds, and what comes behind it. -/
theorem AlternativesTied.counted (halternatives : AlternativesTied after n)
    (hn : 2 * d.rest.length ≤ n) (hm : 2 * (d.extend after).rest.length ≤ m)
    (hrest : d.rest = first :: rest) :
    Tied after
      (popRepeatable parts >>= fun popped => boundsOf (d.goto rest) >>= fun read =>
        parseAlternatives n (read.2.goto (skipReluctant read.2.rest)) branches
          (.repetition read.1.1 read.1.2 popped.1 :: popped.2))
      (popRepeatable parts >>= fun popped =>
        boundsOf ((d.extend after).goto (rest ++ ')' :: after)) >>= fun read =>
          parseAlternatives m (read.2.goto (skipReluctant read.2.rest)) branches
            (.repetition read.1.1 read.1.2 popped.1 :: popped.2)) := by
  have hbounds : ∀ c, Onward c (boundsOf c) :=
    fun c => (onward_boundsOf c).of_suffix c.skip_suffix
  have honward : ∀ n branches parts (e : Cursor),
      Onward e (parseAlternatives n (e.goto (skipReluctant e.rest)) branches parts) :=
    fun n branches parts e =>
      (onward_parseAlternatives_here n _ branches parts).of_suffix (skipReluctant_suffix _)
  refine .choose fun popped => (tied_boundsOf (paired_goto after d rest)).bind ?_
    (fun bounds e => honward n _ _ e) fun bounds e => honward m _ _ e
  intro bounds e e' he he' hpaired
  exact halternatives.later hn hm hrest hpaired.skipReluctant
    ((skipReluctant_suffix _).trans (hbounds _ bounds e he)).length_le
    ((skipReluctant_suffix _).trans (hbounds _ bounds e' he')).length_le

/-- What a parenthesis opens, and what comes behind it. -/
theorem AlternativesTied.opened (halternatives : AlternativesTied after n)
    (hn : 2 * d.rest.length ≤ n) (hm : 2 * (d.extend after).rest.length ≤ m)
    (hrest : d.rest = first :: rest) (branches parts : List Syntax) :
    Tied after
      ((parseOpening (d.goto rest)).map Opening.parts >>=
        afterOpening n d.ignoreBlanks branches parts)
      ((parseOpening ((d.extend after).goto (rest ++ ')' :: after))).map Opening.parts >>=
        afterOpening m d.ignoreBlanks branches parts) := by
  rw [hrest, List.length_cons] at hn
  rw [Cursor.extend_cons hrest, List.length_cons] at hm
  have honward := fun n =>
    onward_afterOpening (onward_parseAlternatives_here n) d.ignoreBlanks branches parts
  refine (tied_parseOpening (paired_goto after d rest)).bind ?_ (honward n) (honward m)
  intro opened e e' he he' hpaired
  have hlt := ((onward_parseOpening _).of_suffix (Cursor.skip_suffix _) opened e he).length_le
  have hlt' := ((onward_parseOpening _).of_suffix (Cursor.skip_suffix _) opened e' he').length_le
  rw [Cursor.goto_rest] at hlt hlt'
  exact tied_afterOpening halternatives hpaired (by omega) (by omega) d.ignoreBlanks branches
    parts opened

/-- A class in brackets, and what comes behind it. -/
theorem AlternativesTied.bracketed (halternatives : AlternativesTied after n)
    (hn : 2 * d.rest.length ≤ n) (hm : 2 * (d.extend after).rest.length ≤ m)
    (hrest : d.rest = first :: rest) :
    Tied after
      (parseClass n (d.goto rest) >>= fun read =>
        parseAlternatives n read.2 branches (.bracketed read.1.1 read.1.2 :: parts))
      (parseClass m ((d.extend after).goto (rest ++ ')' :: after)) >>= fun read =>
        parseAlternatives m read.2 branches (.bracketed read.1.1 read.1.2 :: parts)) := by
  refine (tied_parseClass (paired_goto after d rest) ?_ ?_).bind ?_
    (fun content e => onward_parseAlternatives_here n e _ _)
    fun content e => onward_parseAlternatives_here m e _ _
  · rwa [hrest, List.length_cons] at hn
  · rwa [Cursor.extend_cons hrest, List.length_cons] at hm
  · intro content e e' he he' hpaired
    exact halternatives.later hn hm hrest hpaired
      (onward_parseClass_here _ _ content e he).length_le
      (onward_parseClass_here _ _ content e' he').length_le

/-- An escape, and what comes behind it. -/
theorem AlternativesTied.escaped (halternatives : AlternativesTied after n)
    (hn : 2 * d.rest.length ≤ n) (hm : 2 * (d.extend after).rest.length ≤ m)
    (hrest : d.rest = first :: rest) :
    Tied after
      (parseEscape (d.goto rest) >>= fun read =>
        parseAlternatives n read.2 branches (read.1.toSyntax :: parts))
      (parseEscape ((d.extend after).goto (rest ++ ')' :: after)) >>= fun read =>
        parseAlternatives m read.2 branches (read.1.toSyntax :: parts)) := by
  rcases tied_parseEscape (paired_goto after d rest) with htied | ⟨hnone, e, he, hsome⟩
  · refine htied.bind ?_ (fun part e => onward_parseAlternatives_here n e _ _)
      fun part e => onward_parseAlternatives_here m e _ _
    intro part e e' he he' hpaired
    exact halternatives.later hn hm hrest hpaired (onward_parseEscape _ part e he).length_le
      (onward_parseEscape _ part e' he').length_le
  · rw [hnone, hsome]
    exact .gone (parseAlternatives_dangling he m branches parts _)

end Alternatives

/-- With one step more, alternatives are read in the same way if they are with the steps before. -/
theorem alternativesTied_succ {n : Nat} (halternatives : AlternativesTied after n) :
    AlternativesTied after (n + 1) := by
  intro m c c' branches parts h hn hm
  obtain ⟨m, rfl⟩ : ∃ k, m = k + 1 := ⟨m - 1, by omega⟩
  have hskip := h.skip
  have honward := onward_parseAlternatives (n + 1) c branches parts
  have honward' := onward_parseAlternatives (m + 1) c' branches parts
  have hlength := c.skip_suffix.length_le
  have hlength' := c'.skip_suffix.length_le
  rw [parseAlternatives] at honward honward' ⊢
  rw [parseAlternatives]
  simp only at honward honward' ⊢
  generalize c.skip = d at hskip honward hlength ⊢
  generalize c'.skip = d' at hskip honward' hlength' ⊢
  cases hskip with
  | past hend hpast hline =>
    refine .of_past hend hpast hline honward honward' ?_
    rintro rfl
    simp only [hend]
  | same =>
    clear honward honward'
    have hn : 2 * d.rest.length ≤ n := by omega
    have hm : 2 * (d.extend after).rest.length ≤ m := by omega
    have hgoto : ∀ {first : Char} {rest : List Char} {branches parts : List Syntax},
        d.rest = first :: rest → Tied after (parseAlternatives n (d.goto rest) branches parts)
          (parseAlternatives m ((d.extend after).goto (rest ++ ')' :: after)) branches parts) :=
      fun hrest => halternatives.goto hn hm hrest
    split
    · rename_i hrest
      simp only [Cursor.extend_nil hrest]
      exact .both _ (.same d)
    · rename_i hrest
      simp only [Cursor.extend_cons hrest]
      exact .both _ (.same d)
    · rename_i hrest
      simp only [Cursor.extend_cons hrest]
      exact hgoto hrest
    · rename_i hrest
      simp only [Cursor.extend_cons hrest]
      have hopen := halternatives.opened hn hm hrest branches parts
      rw [← parseOpening_bind, ← parseOpening_bind] at hopen
      exact hopen
    · rename_i hrest
      simp only [Cursor.extend_cons hrest]
      exact halternatives.bracketed hn hm hrest
    · rename_i hrest
      simp only [Cursor.extend_cons hrest]
      exact halternatives.repeated hn hm hrest 0 (some 1)
    · rename_i hrest
      simp only [Cursor.extend_cons hrest]
      exact halternatives.repeated hn hm hrest 0 none
    · rename_i hrest
      simp only [Cursor.extend_cons hrest]
      exact halternatives.repeated hn hm hrest 1 none
    · rename_i hrest
      simp only [Cursor.extend_cons hrest, parseBounds_bind]
      exact halternatives.counted hn hm hrest
    · rename_i hrest
      simp only [Cursor.extend_cons hrest]
      exact halternatives.escaped hn hm hrest
    · rename_i hrest
      simp only [Cursor.extend_cons hrest]
      exact hgoto hrest
    · rename_i hrest
      simp only [Cursor.extend_cons hrest]
      exact hgoto hrest
    · rename_i hrest
      simp only [Cursor.extend_cons hrest]
      exact hgoto hrest
    · rename_i hrest
      simp only [Cursor.extend_cons hrest]
      exact hgoto hrest

/-- Reading alternatives does not depend on what follows the pattern, with enough steps. -/
theorem tied_parseAlternatives {n m : Nat} (h : Paired after c c')
    (hn : 2 * c.rest.length + 1 ≤ n) (hm : 2 * c'.rest.length + 1 ≤ m)
    (branches parts : List Syntax) :
    Tied after (parseAlternatives n c branches parts) (parseAlternatives m c' branches parts) := by
  have htied : ∀ n, AlternativesTied after n := by
    intro n
    induction n with
    | zero =>
      intro m c c' branches parts h hn hm
      omega
    | succ n ih => exact alternativesTied_succ ih
  exact htied n branches parts h hn hm

end ShellComposer.Pattern
