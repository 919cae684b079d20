import ShellComposer.Proofs.Enclosed

/-!
# Classes inside a group

A bracketed class is read in the same way by itself and with a closing parenthesis behind it.  Where
the pattern ends within the class, the one reading fails and the other takes the parenthesis for a
part of the class.

Main results:

- Theorem `tied_parseClassRange`: items and ranges of classes.
- Theorem `tied_parseClass`: whole classes, with enough steps for what is left of the text.
-/

namespace ShellComposer.Pattern

variable {after : List Char} {c c' d d' : Cursor} {rest : List Char}

/-! ## Bracketed classes -/

/-- Whether a character makes a dash before it a literal. -/
def endsRange (next : Option Char) : Bool :=
  next == some ']' || next == some '-'

/-- Blanks end before the parenthesis. -/
theorem dropWhile_append_close {p : Char → Bool} (hp : p ')' = false) (rest after : List Char) :
    (rest ++ ')' :: after).dropWhile p = rest.dropWhile p ++ ')' :: after := by
  rw [List.dropWhile_append]
  cases hrest : rest.dropWhile p with
  | nil => simp [hp]
  | cons first more => rfl

/-- A text of blanks, or of blanks up to a comment, does not start with what ends a range. -/
theorem endsRange_head? {rest : List Char}
    (h : ∀ first more, rest.dropWhile Text.isBlank = first :: more → first = '#') :
    endsRange rest.head? = false := by
  cases rest with
  | nil => rfl
  | cons first more =>
    rw [List.head?_cons]
    by_cases hblank : Text.isBlank first = true
    · refine Bool.eq_false_iff.2 fun hends => ?_
      have hfirst : first = ']' ∨ first = '-' := by
        simpa [endsRange] using hends
      rcases hfirst with rfl | rfl <;> exact absurd hblank (by decide)
    · have hhash := h first more (List.dropWhile_cons_of_neg hblank)
      rw [hhash]
      rfl

/-- Blanks in front of the parenthesis do not hide it, nor what comes before it. -/
theorem endsRange_peekAfter (c : Cursor) (rest after : List Char) :
    endsRange ((c.extend after).peekAfter (rest ++ ')' :: after)) =
      endsRange (c.peekAfter rest) := by
  have hflag : (c.extend after).ignoreBlanks = c.ignoreBlanks := rfl
  rw [Cursor.peekAfter, Cursor.peekAfter, hflag]
  split
  · rw [dropWhile_append_close (by decide)]
    cases hrest : rest.dropWhile Text.isBlank with
    | nil =>
      simp only [List.nil_append]
      exact (endsRange_head? (by simp [hrest])).symm
    | cons first more =>
      rw [List.cons_append]
      by_cases hhash : first = '#'
      · subst hhash
        simp only
        rw [dropWhile_append_close (by decide)]
        cases more.dropWhile Text.isBlank with
        | nil => exact (endsRange_head? (by simp [hrest])).symm
        | cons second others => rfl
      · simp
  · cases rest <;> rfl

/-- No ASCII class has a parenthesis in its name. -/
theorem lookup_asciiClassNames_eq_none {name : List Char} (h : ')' ∈ name) :
    asciiClassNames.lookup (String.ofList name) = none := by
  rw [List.lookup_eq_none_iff]
  have hnames : ∀ entry ∈ asciiClassNames, ')' ∉ entry.1.toList := by decide
  intro entry hentry
  rw [bne_iff_ne]
  rintro heq
  apply hnames entry hentry
  rw [← heq]
  simpa using h

/-- A class with a name is closed within the pattern or not at all. -/
theorem asciiClassNamed_append (negated : Bool) (rest after : List Char) :
    asciiClassNamed negated (rest ++ ')' :: after) =
      (asciiClassNamed negated rest).map fun read => (read.1, read.2 ++ ')' :: after) := by
  rw [asciiClassNamed, asciiClassNamed, List.dropWhile_append, List.takeWhile_append]
  cases hrest : rest.dropWhile (· != ':') with
  | nil =>
    have hall : rest.takeWhile (· != ':') = rest := by
      have hsplit : rest.takeWhile (· != ':') ++ rest.dropWhile (· != ':') = rest :=
        List.takeWhile_append_dropWhile
      rwa [hrest, List.append_nil] at hsplit
    have hnone : asciiClassNames.lookup
        (String.ofList (rest ++ (')' :: after).takeWhile (· != ':'))) = none := by
      apply lookup_asciiClassNames_eq_none
      simp
    simp only [hall, if_true, hnone, List.isEmpty_nil]
    split <;> rfl
  | cons first more =>
    have hfirst : first = ':' := by
      have hhead := List.head?_dropWhile_not (· != ':') rest
      rw [hrest] at hhead
      simpa using hhead
    have hshort : ¬ (rest.takeWhile (· != ':')).length = rest.length := by
      intro hlength
      have hsplit : rest.takeWhile (· != ':') ++ rest.dropWhile (· != ':') = rest :=
        List.takeWhile_append_dropWhile
      have hlengths := congrArg List.length hsplit
      rw [hrest, List.length_append, List.length_cons] at hlengths
      omega
    subst hfirst
    simp only [if_neg hshort, List.isEmpty_cons, List.cons_append]
    cases more with
    | nil => rfl
    | cons second others =>
      by_cases hsecond : second = ']'
      · subst hsecond
        cases asciiClassNames.lookup (String.ofList (rest.takeWhile (· != ':'))) <;> simp
      · simp [hsecond]

/-- ASCII classes are read in the same way. -/
theorem parseAsciiClass_append (rest after : List Char) :
    parseAsciiClass (rest ++ ')' :: after) =
      (parseAsciiClass rest).map fun read => (read.1, read.2 ++ ')' :: after) := by
  cases rest with
  | nil => rfl
  | cons first more =>
    by_cases hcolon : first = ':'
    · subst hcolon
      have hcaret : caretOff (more ++ ')' :: after) =
          ((caretOff more).1, (caretOff more).2 ++ ')' :: after) := by
        rw [caretOff.eq_def, caretOff.eq_def more]
        cases more with
        | nil => rfl
        | cons second others =>
          by_cases hsecond : second = '^' <;> simp [hsecond]
      rw [List.cons_append, parseAsciiClass_colon, parseAsciiClass_colon, hcaret]
      exact asciiClassNamed_append _ _ _
    · simp [parseAsciiClass, hcolon]

/-- A character or escape of a class is read in the same way, unless it is no item of a class. -/
theorem tied_parseClassPrimitive (h : Paired after c c') :
    Tied after (parseClassPrimitive c) (parseClassPrimitive c') ∨
      (parseClassPrimitive c = none ∧ ∃ condition d,
        parseClassPrimitive c' = some (.assertion condition, d)) := by
  cases h with
  | past hend hpast hline =>
    exact .inl (.of_past hend hpast hline
      ((onward_parseClassPrimitive c).of_suffix c.behind_suffix)
      ((onward_parseClassPrimitive c').of_suffix c'.behind_suffix) (by rintro rfl; rfl))
  | same =>
    rw [parseClassPrimitive, parseClassPrimitive, Cursor.extend_rest]
    split
    · rename_i hrest
      rw [hrest]
      refine .inl (.gone fun x d hd => ?_)
      obtain ⟨-, rfl⟩ := Prod.mk.inj (Option.some.inj hd)
      exact List.suffix_rfl
    · rename_i rest hrest
      simp only [hrest, List.cons_append]
      rcases tied_parseEscape (paired_goto after c rest) with htied | ⟨hnone, d, -, hsome⟩
      · exact .inl htied
      · exact .inr ⟨hnone, _, _, hsome⟩
    · rename_i first rest hne hrest
      simp only [hrest, List.cons_append]
      exact .inl (.both _ (paired_goto after c rest))

/-- The range between two ends, if they are literals in order. -/
def rangeOf (first last : Primitive) (c : Cursor) : Option (ClassSet × Cursor) := do
  let first ← first.toLiteral
  let last ← last.toLiteral
  if first.char ≤ last.char then return (.range first last, c) else none

/-- The item or range of a class whose start has been read. -/
def rangeAfter (first : Primitive) (c : Cursor) : Option (ClassSet × Cursor) :=
  match c.rest with
  | [] => none
  | '-' :: rest =>
    if endsRange (c.peekAfter rest) then do return (← first.toClassSet, c)
    else parseClassPrimitive (c.skipTo rest) >>= fun read => rangeOf first read.1 read.2
  | _ => do return (← first.toClassSet, c)

/-- A range is read from its first character on. -/
theorem parseClassRange_eq (c : Cursor) :
    parseClassRange c = parseClassPrimitive c >>= fun read => rangeAfter read.1 read.2.skip :=
  rfl

/-- Making a range of two ends reads nothing more. -/
theorem onward_rangeOf (first last : Primitive) (c : Cursor) :
    Onward c (rangeOf first last c) := by
  refine .choose fun first _ => .choose fun last _ => ?_
  split
  · exact .some List.suffix_rfl
  · exact .none

/-- A range is made in the same way. -/
theorem tied_rangeOf (h : Paired after c c') (first last : Primitive) :
    Tied after (rangeOf first last c) (rangeOf first last c') := by
  refine .choose fun first => .choose fun last => ?_
  split
  · exact .both _ h
  · exact .none

/-- Assertions are no ends of ranges. -/
theorem rangeOf_assertion (first : Primitive) (condition : Assertion) (c : Cursor) :
    rangeOf first (.assertion condition) c = none := by
  rw [rangeOf]
  cases first.toLiteral <;> rfl

/-- Classes do not end with the pattern. -/
theorem rangeAfter_end (first : Primitive) (hend : c.rest = []) : rangeAfter first c = none := by
  rw [rangeAfter, hend]

/-- No item of a class starts with an assertion. -/
theorem rangeAfter_assertion (condition : Assertion) (c : Cursor) :
    rangeAfter (.assertion condition) c = none := by
  rw [rangeAfter]
  split
  · rfl
  · split
    · rfl
    · cases parseClassPrimitive _ <;> rfl
  · rfl

/-- Reading what may follow the first end of a range goes onward. -/
theorem onward_rangeAfter (first : Primitive) (c : Cursor) : Onward c (rangeAfter first c) := by
  rw [rangeAfter]
  split
  · exact .none
  · rename_i hrest
    split
    · exact .choose fun item _ => .some List.suffix_rfl
    · refine .bind ((onward_parseClassPrimitive _).of_suffix ?_) fun last e _ =>
        onward_rangeOf first last e
      exact (Cursor.behind_suffix _).trans (Cursor.skipTo_suffix_of_cons hrest)
  · exact .choose fun item _ => .some List.suffix_rfl

/-- What follows the start of an item is read in the same way, unless the pattern ends there: then
the item ends in front of the parenthesis. -/
theorem tied_rangeAfter (h : Paired after d d') (first : Primitive) :
    Tied after (rangeAfter first d) (rangeAfter first d') ∨
      (rangeAfter first d = none ∧
        ∀ x e, rangeAfter first d' = some (x, e) → e.rest <:+ ')' :: after) := by
  have honward := onward_rangeAfter first d
  have honward' := onward_rangeAfter first d'
  cases h with
  | past hend hpast hline =>
    exact .inl (.of_past hend hpast hline honward honward' (by rintro rfl; rfl))
  | same =>
    rw [rangeAfter, rangeAfter]
    split
    · rename_i hrest
      refine .inr ⟨rfl, fun x e he => ?_⟩
      simp only [Cursor.extend_nil hrest] at he
      obtain ⟨item, -, heq⟩ := Option.bind_eq_some_iff.1 he
      obtain ⟨-, rfl⟩ := Prod.mk.inj (Option.some.inj heq)
      exact ⟨[], Cursor.extend_nil hrest⟩
    · rename_i rest hrest
      simp only [Cursor.extend_cons hrest, endsRange_peekAfter]
      refine .inl ?_
      split
      · exact .choose fun item => .both item (.same d)
      · rcases tied_parseClassPrimitive (paired_skipTo after d rest) with
          htied | ⟨hnone, condition, e, hsome⟩
        · exact htied.bind (fun last e e' _ _ hpaired => tied_rangeOf hpaired first last)
            (fun last e => onward_rangeOf first last e) fun last e => onward_rangeOf first last e
        · rw [hnone, hsome]
          refine .gone fun x f hf => ?_
          have hrange := rangeOf_assertion first condition e
          exact absurd (hrange.symm.trans hf) (by simp)
    · rename_i hnil hdash
      have hnil' : (d.extend after).rest = [] → False := Cursor.extend_ne_nil
      have hdash' := Cursor.extend_ne after (by decide) hdash
      simp only
      exact .inl (.choose fun item => .both item (.same d))

/-- An item or range of a class is read in the same way, or the pattern ends in it and nothing that
comes before the parenthesis is left. -/
theorem tied_parseClassRange (h : Paired after c c') :
    Tied after (parseClassRange c) (parseClassRange c') ∨
      (parseClassRange c = none ∧
        ∀ x d, parseClassRange c' = some (x, d) → d.rest <:+ ')' :: after) := by
  have hnext : ∀ (first : Primitive) (d : Cursor), Onward d (rangeAfter first d.skip) :=
    fun first d => (onward_rangeAfter first d.skip).of_suffix d.skip_suffix
  rw [parseClassRange_eq, parseClassRange_eq]
  rcases tied_parseClassPrimitive h with htied | ⟨hnone, condition, e, hsome⟩
  · generalize parseClassPrimitive c = result at htied ⊢
    generalize parseClassPrimitive c' = result' at htied ⊢
    cases htied with
    | both first hpaired => exact tied_rangeAfter hpaired.skip first
    | past hend hpast =>
      have hnone : (result >>= fun read => rangeAfter read.1 read.2.skip) = none := by
        cases hresult : result with
        | none => rfl
        | some read =>
          have hsuffix := read.2.skip_suffix
          rw [(hend read.1 read.2 hresult).1, List.suffix_nil] at hsuffix
          exact rangeAfter_end read.1 hsuffix
      rw [hnone]
      refine .inl (.gone fun x d hd => ?_)
      obtain ⟨read, hread, hrange⟩ := Option.bind_eq_some_iff.1 hd
      exact (hnext read.1 read.2 x d hrange).trans (hpast read.1 read.2 hread)
  · rw [hnone, hsome]
    refine .inl (.gone fun x d hd => ?_)
    have hrange := rangeAfter_assertion condition e.skip
    exact absurd (hrange.symm.trans hd) (by simp)

/-- The caret of a negated class is passed over in the same way. -/
theorem tied_skipCaret (h : Paired after c c') :
    Tied after (some c.skipCaret) (some c'.skipCaret) := by
  have honward : ∀ c : Cursor, Onward c (some c.skipCaret) := fun c => .some c.skipCaret_suffix
  refine h.tied honward fun c => ?_
  rw [Cursor.skipCaret, Cursor.skipCaret]
  split
  · rename_i rest hrest
    simp only [Cursor.extend_cons hrest]
    exact .both true (paired_skipTo after c rest)
  · rename_i hcaret
    have hcaret' := Cursor.extend_ne after (by decide) hcaret
    simp only
    exact .both false (.same c)

/-- At the end of the text there are no dashes to read. -/
theorem parseLeadingDashes_end (hend : c.rest = []) (items : List ClassSet) (n : Nat) :
    parseLeadingDashes c items n = (items, c) := by
  cases n with
  | zero => rfl
  | succ n => rw [parseLeadingDashes, hend]

/-- The dashes at the start of a class are read in the same way. -/
theorem tied_parseLeadingDashes {n m : Nat} (h : Paired after c c') (hn : c.rest.length ≤ n)
    (hm : c'.rest.length ≤ m) (items : List ClassSet) :
    Tied after (some (parseLeadingDashes c items n)) (some (parseLeadingDashes c' items m)) := by
  have honward : ∀ (c : Cursor) (items : List ClassSet) (n : Nat),
      Onward c (some (parseLeadingDashes c items n)) :=
    fun c items n => .some (parseLeadingDashes_suffix c items n)
  induction n generalizing m c c' items with
  | zero =>
    have hend : c.rest = [] := List.eq_nil_of_length_eq_zero (by omega)
    cases h with
    | past _ hpast hline =>
      refine .of_past hend hpast hline (honward _ _ _) (honward _ _ _) ?_
      rintro rfl
      rw [parseLeadingDashes_end hend, parseLeadingDashes_end hend]
    | same =>
      rw [Cursor.extend_rest, hend] at hm
      obtain ⟨m, rfl⟩ : ∃ k, m = k + 1 := ⟨m - 1, by simp at hm; omega⟩
      rw [parseLeadingDashes_end hend, parseLeadingDashes, Cursor.extend_rest, hend]
      exact .both items (.same c)
  | succ n ih =>
    cases h with
    | past hend hpast hline =>
      refine .of_past hend hpast hline (honward _ _ _) (honward _ _ _) ?_
      rintro rfl
      rw [parseLeadingDashes_end hend, parseLeadingDashes_end hend]
    | same =>
      have hmore := c.extend_pos after
      obtain ⟨m, rfl⟩ : ∃ k, m = k + 1 := ⟨m - 1, by omega⟩
      rw [parseLeadingDashes, parseLeadingDashes]
      split
      · rename_i rest hrest
        obtain ⟨hlt, hlt'⟩ := skipTo_shorter after hrest
        simp only [Cursor.extend_cons hrest]
        exact ih (paired_skipTo after c rest) (by omega) (by omega) _
      · rename_i hdash
        have hdash' := Cursor.extend_ne after (by decide) hdash
        simp only
        exact .both items (.same c)

/-- The start of a class as one value. -/
def pairOpen (read : Bool × List ClassSet × Cursor) : (Bool × List ClassSet) × Cursor :=
  ((read.1, read.2.1), read.2.2)

theorem onward_bracketFirst (negated : Bool) (read : List ClassSet × Cursor) :
    Onward read.2 (some (pairOpen (bracketFirst negated read))) :=
  .some (bracketFirst_suffix negated read)

/-- A closing bracket that comes first is read as a character in both readings. -/
theorem tied_bracketFirst (h : Paired after d d') (negated : Bool) (items : List ClassSet) :
    Tied after (some (pairOpen (bracketFirst negated (items, d))))
      (some (pairOpen (bracketFirst negated (items, d')))) := by
  refine h.tied (fun d => onward_bracketFirst negated (items, d)) fun d => ?_
  rw [bracketFirst, bracketFirst]
  split
  · rename_i rest hitems hrest
    obtain rfl : items = [] := hitems
    simp only [Cursor.extend_cons hrest]
    exact .both _ (paired_skipTo after d rest)
  · rename_i hbracket
    have hbracket' : ∀ rest, items = [] → (d.extend after).rest = ']' :: rest → False :=
      fun rest hitems => Cursor.extend_ne after (by decide) (fun more => hbracket more hitems) rest
    simp only
    exact .both _ (.same d)

/-- The start of a class is read in the same way. -/
theorem tied_parseClassOpen (h : Paired after c c') :
    Tied after (some (pairOpen (parseClassOpen c))) (some (pairOpen (parseClassOpen c'))) := by
  have hdashes : ∀ negated (d : Cursor), Onward d
      (some (parseLeadingDashes d [] d.rest.length) >>=
        fun read => some (pairOpen (bracketFirst negated read))) := fun negated d =>
    (Onward.some (parseLeadingDashes_suffix d [] d.rest.length)).bind
      fun items e _ => onward_bracketFirst negated (items, e)
  have hread : ∀ c, some (pairOpen (parseClassOpen c)) = some c.skip.skipCaret >>= fun caret =>
      some (parseLeadingDashes caret.2 [] caret.2.rest.length) >>= fun read =>
        some (pairOpen (bracketFirst caret.1 read)) := fun _ => rfl
  rw [hread, hread]
  refine (tied_skipCaret h.skip).bind ?_ (fun negated d => hdashes negated d)
    fun negated d => hdashes negated d
  intro negated d d' _ _ hpaired
  refine (tied_parseLeadingDashes hpaired (Nat.le_refl _) (Nat.le_refl _) []).bind ?_
    (fun items e => onward_bracketFirst negated (items, e))
    fun items e => onward_bracketFirst negated (items, e)
  exact fun items e e' _ _ hpaired => tied_bracketFirst hpaired negated items

/-- With enough steps, two readings of a class give the same. -/
def ClassesTied (after : List Char) (n : Nat) : Prop :=
  ∀ {m : Nat} {c c' : Cursor}, Paired after c c' → 2 * c.rest.length + 2 ≤ n →
    2 * c'.rest.length + 2 ≤ m → Tied after (parseClass n c) (parseClass m c')

/-- With enough steps, two readings of the items of a class give the same. -/
def ItemsTied (after : List Char) (n : Nat) : Prop :=
  ∀ {m : Nat} {c c' : Cursor} (pending : Option (SetOperation × ClassSet))
    (items : List ClassSet), Paired after c c' → 2 * c.rest.length + 1 ≤ n →
    2 * c'.rest.length + 1 ≤ m →
    Tied after (parseClassItems n c pending items) (parseClassItems m c' pending items)

/-- Reading the items of a class goes onward. -/
theorem onward_parseClassItems_here (n : Nat) (c : Cursor)
    (pending : Option (SetOperation × ClassSet)) (items : List ClassSet) :
    Onward c (parseClassItems n c pending items) :=
  (onward_parseClassItems n c pending items).of_suffix (c.skip.behind_suffix.trans c.skip_suffix)

/-- Reading a class goes onward. -/
theorem onward_parseClass_here (n : Nat) (c : Cursor) : Onward c (parseClass n c) :=
  (onward_parseClass n c).of_suffix (c.skip.behind_suffix.trans c.skip_suffix)

/-- With one step more, classes are read in the same way if their items are. -/
theorem classesTied_succ {n : Nat} (hitems : ItemsTied after n) : ClassesTied after (n + 1) := by
  intro m c c' h hn hm
  obtain ⟨m, rfl⟩ : ∃ k, m = k + 1 := ⟨m - 1, by omega⟩
  have hread : ∀ n c, parseClass (n + 1) c = some (pairOpen (parseClassOpen c)) >>= fun start =>
      parseClassItems n start.2 none start.1.2 >>= fun content =>
        some ((start.1.1, content.1), content.2) := fun _ _ => rfl
  have honward : ∀ n (start : (Bool × List ClassSet)) (d : Cursor), Onward d
      (parseClassItems n d none start.2 >>= fun content =>
        some ((start.1, content.1), content.2)) := fun n start d =>
    (onward_parseClassItems_here n d none start.2).bind fun content e _ => .some List.suffix_rfl
  have hlength : ∀ c : Cursor, (parseClassOpen c).2.2.rest.length ≤ c.rest.length := fun c =>
    ((parseClassOpen_suffix c).trans c.skip_suffix).length_le
  rw [hread, hread]
  refine (tied_parseClassOpen h).bind ?_ (fun start d => honward n start d)
    fun start d => honward m start d
  intro start d d' hstart hstart' hpaired
  have hd := hlength c
  have hd' := hlength c'
  rw [show (parseClassOpen c).2.2 = d from congrArg Prod.snd (Option.some.inj hstart)] at hd
  rw [show (parseClassOpen c').2.2 = d' from congrArg Prod.snd (Option.some.inj hstart')] at hd'
  refine (hitems none start.2 hpaired (by omega) (by omega)).bind ?_
    (fun content e => .some List.suffix_rfl) fun content e => .some List.suffix_rfl
  exact fun content e e' _ _ hpaired => .both _ hpaired

section Items

variable {n m : Nat} {pending : Option (SetOperation × ClassSet)} {items : List ClassSet}

/-- One character less leaves enough steps for the next item. -/
theorem ItemsTied.later (hitems : ItemsTied after n) (hn : 2 * d.rest.length ≤ n)
    (hm : 2 * (d.extend after).rest.length ≤ m) (h : Paired after c c')
    (hc : c.rest.length < d.rest.length) (hc' : c'.rest.length < (d.extend after).rest.length) :
    Tied after (parseClassItems n c pending items) (parseClassItems m c' pending items) :=
  hitems pending items h (by omega) (by omega)

/-- Both readings go on behind what they have passed over. -/
theorem ItemsTied.goto (hitems : ItemsTied after n) (hn : 2 * d.rest.length ≤ n)
    (hm : 2 * (d.extend after).rest.length ≤ m) (hrest : rest.length < d.rest.length) :
    Tied after (parseClassItems n (d.goto rest) pending items)
      (parseClassItems m ((d.extend after).goto (rest ++ ')' :: after)) pending items) := by
  refine hitems.later hn hm (paired_goto after d rest) hrest ?_
  rw [Cursor.extend_rest, Cursor.goto_rest, List.length_append, List.length_append]
  omega

/-- At the end of the pattern the class is still open, and the parenthesis is an item of it. -/
theorem parseClassItems_unclosed (hend : d.rest = []) :
    Tied after none (parseClassRange (d.extend after) >>= fun read =>
      parseClassItems m read.2 pending (read.1 :: items)) := by
  refine .gone fun x e he => ?_
  obtain ⟨⟨item, f⟩, hitem, hrest⟩ := Option.bind_eq_some_iff.1 he
  have hf := onward_parseClassRange _ item f hitem
  rw [Cursor.behind_of_cons (Cursor.extend_nil hend)] at hf
  exact (onward_parseClassItems_here _ _ _ _ x e hrest).trans hf

/-- A class within the class, and the items behind it. -/
theorem ItemsTied.bracketed (hitems : ItemsTied after n) (hclasses : ClassesTied after n)
    (hn : 2 * d.rest.length ≤ n) (hm : 2 * (d.extend after).rest.length ≤ m)
    (hrest : d.rest = '[' :: rest) :
    Tied after
      (parseClass n (d.goto rest) >>= fun read =>
        parseClassItems n read.2 pending (.bracketed read.1.1 read.1.2 :: items))
      (parseClass m ((d.extend after).goto (rest ++ ')' :: after)) >>= fun read =>
        parseClassItems m read.2 pending (.bracketed read.1.1 read.1.2 :: items)) := by
  have hd : d.rest.length = rest.length + 1 := by rw [hrest, List.length_cons]
  have hd' : (d.extend after).rest.length = (rest ++ ')' :: after).length + 1 := by
    rw [Cursor.extend_cons hrest, List.length_cons]
  refine (hclasses (paired_goto after d rest) ?_ ?_).bind ?_
    (fun content e => onward_parseClassItems_here _ e _ _)
    fun content e => onward_parseClassItems_here _ e _ _
  · rw [Cursor.goto_rest]
    omega
  · rw [Cursor.goto_rest]
    omega
  · intro content e e' he he' hpaired
    have hlt := (onward_parseClass_here _ _ content e he).length_le
    have hlt' := (onward_parseClass_here _ _ content e' he').length_le
    rw [Cursor.goto_rest] at hlt hlt'
    exact hitems.later hn hm hpaired (show e.rest.length < _ by omega)
      (show e'.rest.length < _ by omega)

/-- A character or a range, and the items behind it. -/
theorem ItemsTied.range (hitems : ItemsTied after n) (hn : 2 * d.rest.length ≤ n)
    (hm : 2 * (d.extend after).rest.length ≤ m) (hnil : d.rest ≠ []) :
    Tied after
      (parseClassRange d >>= fun read => parseClassItems n read.2 pending (read.1 :: items))
      (parseClassRange (d.extend after) >>= fun read =>
        parseClassItems m read.2 pending (read.1 :: items)) := by
  rcases tied_parseClassRange (.same d) with htied | ⟨hnone, hleft⟩
  · refine htied.bind ?_ (fun item e => onward_parseClassItems_here _ e _ _)
      fun item e => onward_parseClassItems_here _ e _ _
    intro item e e' he he' hpaired
    have hlt := (onward_parseClassRange _ item e he).length_le
    have hlt' := (onward_parseClassRange _ item e' he').length_le
    rw [Cursor.behind, Cursor.goto_rest, List.length_tail] at hlt hlt'
    have hpos := List.length_pos_iff.2 hnil
    have hpos' := Cursor.extend_pos after d
    exact hitems.later hn hm hpaired (show e.rest.length < _ by omega)
      (show e'.rest.length < _ by omega)
  · rw [hnone]
    refine .gone fun x e he => ?_
    obtain ⟨⟨item, f⟩, hitem, hrest⟩ := Option.bind_eq_some_iff.1 he
    refine (onward_parseClassItems m f _ _ x e hrest).trans ?_
    exact tail_suffix_tail (f.skip_suffix.trans (hleft item f hitem))

end Items

/-- With one step more, the items of a class are read in the same way if classes and items are. -/
theorem itemsTied_succ {n : Nat} (hclasses : ClassesTied after n) (hitems : ItemsTied after n) :
    ItemsTied after (n + 1) := by
  intro m c c' pending items h hn hm
  obtain ⟨m, rfl⟩ : ∃ k, m = k + 1 := ⟨m - 1, by omega⟩
  have hskip := h.skip
  have honward := onward_parseClassItems (n + 1) c pending items
  have honward' := onward_parseClassItems (m + 1) c' pending items
  have hlength := c.skip_suffix.length_le
  have hlength' := c'.skip_suffix.length_le
  rw [parseClassItems] at honward honward' ⊢
  rw [parseClassItems]
  generalize c.skip = d at hskip honward hlength ⊢
  generalize c'.skip = d' at hskip honward' hlength' ⊢
  cases hskip with
  | past hend hpast hline =>
    refine .of_past hend hpast hline (honward.of_suffix d.behind_suffix)
      (honward'.of_suffix d'.behind_suffix) ?_
    rintro rfl
    simp only [hend]
  | same =>
    have hn : 2 * d.rest.length ≤ n := by omega
    have hm : 2 * (d.extend after).rest.length ≤ m := by omega
    have hbehind : ∀ {first second : Char} {rest : List Char},
        d.rest = first :: second :: rest → rest.length < d.rest.length := by
      intro first second rest hrest
      rw [hrest, List.length_cons, List.length_cons]
      omega
    simp only
    split
    · rename_i hrest
      simp only [Cursor.extend_nil hrest]
      exact parseClassItems_unclosed hrest
    · rename_i rest hrest
      simp only [Cursor.extend_cons hrest]
      exact .both _ (paired_goto after d rest)
    · rename_i rest hrest
      simp only [Cursor.extend_cons hrest, List.cons_append]
      exact hitems.goto hn hm (hbehind hrest)
    · rename_i rest hrest
      simp only [Cursor.extend_cons hrest, List.cons_append]
      exact hitems.goto hn hm (hbehind hrest)
    · rename_i rest hrest
      simp only [Cursor.extend_cons hrest, List.cons_append]
      exact hitems.goto hn hm (hbehind hrest)
    · rename_i rest hrest
      simp only [Cursor.extend_cons hrest, parseAsciiClass_append]
      cases hascii : parseAsciiClass rest with
      | some read =>
        refine hitems.goto hn hm ?_
        rw [hrest, List.length_cons]
        exact Nat.lt_succ_of_le (parseAsciiClass_suffix hascii).length_le
      | none => exact hitems.bracketed hclasses hn hm hrest
    · rename_i hnil hclose hand hminus htilde hopen
      have hnil' : (d.extend after).rest = [] → False := Cursor.extend_ne_nil
      have hclose' := Cursor.extend_ne after (by decide) hclose
      have hand' := Cursor.extend_ne_pair after (by decide) hand
      have hminus' := Cursor.extend_ne_pair after (by decide) hminus
      have htilde' := Cursor.extend_ne_pair after (by decide) htilde
      have hopen' := Cursor.extend_ne after (by decide) hopen
      simp only
      exact hitems.range hn hm hnil

/-- Reading a class does not depend on what follows the pattern, with enough steps. -/
theorem classes_and_items_tied (after : List Char) (n : Nat) :
    ClassesTied after n ∧ ItemsTied after n := by
  induction n with
  | zero =>
    refine ⟨?_, ?_⟩
    · intro m c c' h hn hm
      omega
    · intro m c c' pending items h hn hm
      omega
  | succ n ih => exact ⟨classesTied_succ ih.2, itemsTied_succ ih.1 ih.2⟩

/-- Classes are read in the same way, with enough steps. -/
theorem tied_parseClass {n m : Nat} (h : Paired after c c') (hn : 2 * c.rest.length + 2 ≤ n)
    (hm : 2 * c'.rest.length + 2 ≤ m) : Tied after (parseClass n c) (parseClass m c') :=
  (classes_and_items_tied after n).1 h hn hm

end ShellComposer.Pattern
