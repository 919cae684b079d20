import ShellComposer.Pattern.Parser

/-!
# Reading goes on

Whatever is read of a pattern, what is left to read afterwards is an ending of what was left before.
Where a bracketed class is read, at least one character has gone.

Main results:

- Definition `Onward`: what a reader leaves is an ending of what it was given.
- Theorem `onward_parseAlternatives`, and one for each of the readers it uses.
-/

namespace ShellComposer.Pattern

variable {α β γ : Type} {c d : Cursor} {rest : List Char}

/-! ## Cursors -/

@[simp] theorem Cursor.goto_rest : (c.goto rest).rest = rest := rfl

/-- Passing over blanks and comments leaves an end of the text. -/
theorem skipFrom_suffix (inComment : Bool) (rest : List Char) :
    skipFrom inComment rest <:+ rest := by
  induction rest generalizing inComment with
  | nil => exact List.suffix_rfl
  | cons first rest ih =>
    have hlater : ∀ inComment, skipFrom inComment rest <:+ first :: rest :=
      fun inComment => (ih inComment).trans (List.suffix_cons first rest)
    rw [skipFrom]
    split
    · exact hlater _
    · split
      · exact hlater _
      · split
        · exact hlater _
        · exact List.suffix_rfl

/-- The same at a place of a pattern. -/
theorem Cursor.skip_suffix (c : Cursor) : c.skip.rest <:+ c.rest := by
  rw [Cursor.skip]
  split
  · exact skipFrom_suffix false c.rest
  · exact List.suffix_rfl

/-- Behind a character and the blanks there, an end of the text is left. -/
theorem Cursor.skipTo_suffix (c : Cursor) (rest : List Char) : (c.skipTo rest).rest <:+ rest :=
  (c.goto rest).skip_suffix

/-- What is left behind a character is an ending, also when blanks there are passed over. -/
theorem Cursor.skipTo_suffix_of_cons {first : Char} (hrest : c.rest = first :: rest) :
    (c.skipTo rest).rest <:+ c.rest := by
  rw [hrest]
  exact (c.skipTo_suffix rest).trans (List.suffix_cons first rest)

/-- Behind its first character an end of the text is left. -/
theorem Cursor.goto_suffix_of_cons {first : Char} (hrest : c.rest = first :: rest) :
    (c.goto rest).rest <:+ c.rest := by
  rw [hrest]
  exact List.suffix_cons first rest

/-- The place behind the first character. -/
def Cursor.behind (c : Cursor) : Cursor :=
  c.goto c.rest.tail

/-- Behind the first character is what follows it. -/
theorem Cursor.behind_of_cons {first : Char} (hrest : c.rest = first :: rest) :
    c.behind = c.goto rest := by
  rw [behind, hrest, List.tail_cons]

/-- Whatever comes first, an end of the text is left behind it. -/
theorem Cursor.behind_suffix (c : Cursor) : c.behind.rest <:+ c.rest :=
  List.tail_suffix c.rest

/-- Behind the first character of an ending less is left than behind that of the whole. -/
theorem tail_suffix_tail {short long : List Char} (h : short <:+ long) :
    short.tail <:+ long.tail := by
  obtain ⟨front, rfl⟩ := h
  cases front with
  | nil => exact List.suffix_rfl
  | cons first front =>
    exact (List.tail_suffix short).trans (List.suffix_append front short)

/-! ## Readers -/

/-- What a reader leaves is an ending of what it was given. -/
def Onward (c : Cursor) (result : Option (α × Cursor)) : Prop :=
  ∀ x d, result = some (x, d) → d.rest <:+ c.rest

namespace Onward

theorem none : Onward c (none : Option (α × Cursor)) := by
  intro x d h
  simp at h

theorem some {x : α} (h : d.rest <:+ c.rest) : Onward c (some (x, d)) := by
  intro y e he
  obtain ⟨-, rfl⟩ := Prod.mk.inj (Option.some.inj he)
  exact h

/-- A reader that was given an ending. -/
theorem of_suffix {result : Option (α × Cursor)} (h : Onward d result) (hd : d.rest <:+ c.rest) :
    Onward c result :=
  fun x e he => (h x e he).trans hd

/-- Readers go onward one after the other. -/
theorem bind {result : Option (α × Cursor)} {next : α × Cursor → Option (β × Cursor)}
    (h : Onward c result) (hnext : ∀ x d, result = Option.some (x, d) → Onward d (next (x, d))) :
    Onward c (result >>= next) := by
  intro y e he
  obtain ⟨⟨x, d⟩, hx, hy⟩ := Option.bind_eq_some_iff.1 he
  exact (hnext x d hx y e hy).trans (h x d hx)

/-- A choice that reads nothing. -/
theorem choose {choice : Option γ} {next : γ → Option (β × Cursor)}
    (hnext : ∀ x, choice = Option.some x → Onward c (next x)) : Onward c (choice >>= next) := by
  intro y e he
  obtain ⟨x, hx, hy⟩ := Option.bind_eq_some_iff.1 he
  exact hnext x hx y e hy

end Onward

/-! ## Escapes -/

/-- Reading a number of hexadecimal digits goes onward. -/
theorem onward_parseHexDigits (c : Cursor) (value count : Nat) :
    Onward c (parseHexDigits c value count) := by
  induction count generalizing c value with
  | zero => exact .some List.suffix_rfl
  | succ count ih =>
    rw [parseHexDigits]
    split
    · exact .none
    · rename_i hrest
      exact .choose fun digit _ => (ih _ _).of_suffix (Cursor.skipTo_suffix_of_cons hrest)

/-- Reading hexadecimal digits in braces goes onward. -/
theorem onward_parseHexBrace (c : Cursor) (value : Option Nat) (n : Nat) :
    Onward c (parseHexBrace c value n) := by
  induction n generalizing c value with
  | zero => exact .none
  | succ n ih =>
    rw [parseHexBrace]
    split
    · exact .none
    · rename_i hrest
      exact .choose fun value _ => .some (Cursor.skipTo_suffix_of_cons hrest)
    · rename_i hrest
      exact .choose fun digit _ => (ih _ _).of_suffix (Cursor.skipTo_suffix_of_cons hrest)

/-- Reading a character by its code goes onward. -/
theorem onward_parseHex (c : Cursor) (digits : Nat) : Onward c.skip (parseHex c digits) := by
  have hchar : ∀ (code : Nat) (raw : Bool) (d : Cursor), Onward d
      (scalar? code >>= fun char => some (Primitive.literal ⟨char, raw⟩, d)) :=
    fun code raw d => .choose fun char _ => .some List.suffix_rfl
  rw [parseHex]
  split
  · exact .none
  · rename_i hrest
    exact .bind ((onward_parseHexBrace _ _ _).of_suffix (Cursor.skipTo_suffix_of_cons hrest))
      fun code d _ => hchar code _ d
  · exact .bind (onward_parseHexDigits _ _ _) fun code d _ => hchar code _ d

/-- Reading the name of a property goes onward. -/
theorem onward_parsePropertyName (c : Cursor) (name : List Char) (n : Nat) :
    Onward c (parsePropertyName c name n) := by
  induction n generalizing c name with
  | zero => exact .none
  | succ n ih =>
    rw [parsePropertyName]
    split
    · exact .none
    · rename_i hrest
      exact .some (Cursor.goto_suffix_of_cons hrest)
    · rename_i hrest
      exact (ih _ _).of_suffix (Cursor.skipTo_suffix_of_cons hrest)

/-- Reading a class given by a property goes onward. -/
theorem onward_parseProperty (c : Cursor) (negated : Bool) :
    Onward c.skip (parseProperty c negated) := by
  rw [parseProperty]
  split
  · exact .none
  · rename_i hrest
    exact .bind ((onward_parsePropertyName _ _ _).of_suffix (Cursor.skipTo_suffix_of_cons hrest))
      fun name d _ => .some List.suffix_rfl
  · exact .none
  · rename_i hrest
    exact .some (Cursor.skipTo_suffix_of_cons hrest)

/-- Reading the name of an edge leaves an end of the text. -/
theorem parseEdgeName_suffix (c : Cursor) (name : List Char) (n : Nat) :
    (parseEdgeName c name n).2.rest <:+ c.rest := by
  induction n generalizing c name with
  | zero => exact List.suffix_rfl
  | succ n ih =>
    rw [parseEdgeName]
    split
    · exact List.suffix_rfl
    · rename_i hrest
      split
      · exact (ih _ _).trans (Cursor.skipTo_suffix_of_cons hrest)
      · exact List.suffix_rfl

/-- Reading an edge of words goes onward. -/
theorem onward_parseWordEdge (c : Cursor) : Onward c (parseWordEdge c) := by
  rw [parseWordEdge]
  split
  · rename_i rest hrest
    simp only
    split
    · exact .none
    · split
      · split
        · rename_i last hlast
          refine .choose fun edge _ => .some ?_
          exact (Cursor.goto_suffix_of_cons hlast).trans
            ((parseEdgeName_suffix _ _ _).trans (Cursor.skipTo_suffix_of_cons hrest))
        · exact .none
      · exact .some List.suffix_rfl
  · exact .some List.suffix_rfl

/-- Reading an escape goes onward. -/
theorem onward_parseEscape (c : Cursor) : Onward c (parseEscape c) := by
  rw [parseEscape]
  split
  · exact .none
  · rename_i first rest hrest
    have hafter := Cursor.goto_suffix_of_cons hrest
    have hskip := (Cursor.skip_suffix (c.goto rest)).trans hafter
    simp only
    split
    · exact .some hafter
    · split
      all_goals first
        | exact .some hafter
        | exact .none
        | exact (onward_parseHex _ _).of_suffix hskip
        | exact (onward_parseProperty _ _).of_suffix hskip
        | skip
      intro x d h
      obtain ⟨⟨edge, e⟩, hedge, heq⟩ := Option.map_eq_some_iff.1 h
      obtain ⟨-, rfl⟩ := Prod.mk.inj heq
      exact (onward_parseWordEdge _ edge e hedge).trans hafter

/-! ## Bracketed classes -/

/-- A text without a caret at its start, and whether there was one. -/
def caretOff : List Char → Bool × List Char
  | '^' :: rest => (true, rest)
  | rest => (false, rest)

/-- The class of ASCII characters whose name comes next, up to a colon and a bracket. -/
def asciiClassNamed (negated : Bool) (rest : List Char) : Option (ClassSet × List Char) :=
  match rest.dropWhile (· != ':') with
  | ':' :: ']' :: left => do
    return (.ascii (← asciiClassNames.lookup (String.ofList (rest.takeWhile (· != ':')))) negated,
      left)
  | _ => none

/-- An ASCII class has a colon, perhaps a caret, and its name. -/
theorem parseAsciiClass_colon (inner : List Char) :
    parseAsciiClass (':' :: inner) = asciiClassNamed (caretOff inner).1 (caretOff inner).2 :=
  rfl

/-- Behind a caret an end of the text is left. -/
theorem caretOff_suffix (rest : List Char) : (caretOff rest).2 <:+ rest := by
  rw [caretOff.eq_def]
  split
  · exact List.suffix_cons _ _
  · exact List.suffix_rfl

/-- Behind the name of an ASCII class an end of the text is left. -/
theorem asciiClassNamed_suffix {negated : Bool} {item : ClassSet} {left : List Char}
    (h : asciiClassNamed negated rest = some (item, left)) : left <:+ rest := by
  rw [asciiClassNamed] at h
  split at h
  · rename_i behind hbehind
    obtain ⟨kind, -, heq⟩ := Option.bind_eq_some_iff.1 h
    obtain ⟨-, rfl⟩ := Prod.mk.inj (Option.some.inj heq)
    have hdrop := List.dropWhile_suffix (l := rest) (· != ':')
    rw [hbehind] at hdrop
    exact ((List.suffix_cons _ _).trans (List.suffix_cons _ _)).trans hdrop
  · simp at h

/-- Behind an ASCII class an end of the text is left. -/
theorem parseAsciiClass_suffix {item : ClassSet} {left : List Char}
    (h : parseAsciiClass rest = some (item, left)) : left <:+ rest := by
  rw [parseAsciiClass.eq_def] at h
  split at h
  · rename_i inner
    exact (asciiClassNamed_suffix h).trans ((caretOff_suffix inner).trans (List.suffix_cons _ _))
  · simp at h

/-- Reading a character of a class goes onward, past the first character at least. -/
theorem onward_parseClassPrimitive (c : Cursor) : Onward c.behind (parseClassPrimitive c) := by
  rw [parseClassPrimitive]
  split
  · exact .none
  · rename_i hrest
    rw [Cursor.behind_of_cons hrest]
    exact onward_parseEscape _
  · rename_i hrest
    rw [Cursor.behind_of_cons hrest]
    exact .some List.suffix_rfl

/-- Reading a range goes onward, past the first character at least. -/
theorem onward_parseClassRange (c : Cursor) : Onward c.behind (parseClassRange c) := by
  rw [parseClassRange]
  refine .bind (onward_parseClassPrimitive c) fun first d _ => ?_
  refine Onward.of_suffix (d := d.skip) ?_ d.skip_suffix
  simp only
  split
  · exact .none
  · rename_i hrest
    split
    · exact .choose fun item _ => .some List.suffix_rfl
    · refine .bind ((onward_parseClassPrimitive _).of_suffix
        ((Cursor.behind_suffix _).trans (Cursor.skipTo_suffix_of_cons hrest))) fun last e _ => ?_
      refine .choose fun first _ => .choose fun last _ => ?_
      simp only
      split
      · exact .some List.suffix_rfl
      · exact .none
  · exact .choose fun item _ => .some List.suffix_rfl

/-- Behind the dashes at the start of a class an end of the text is left. -/
theorem parseLeadingDashes_suffix (c : Cursor) (items : List ClassSet) (n : Nat) :
    (parseLeadingDashes c items n).2.rest <:+ c.rest := by
  induction n generalizing c items with
  | zero => exact List.suffix_rfl
  | succ n ih =>
    rw [parseLeadingDashes]
    split
    · rename_i hrest
      exact (ih _ _).trans (Cursor.skipTo_suffix_of_cons hrest)
    · exact List.suffix_rfl

/-- The place behind a caret, and whether there was one. -/
def Cursor.skipCaret (c : Cursor) : Bool × Cursor :=
  match c.rest with
  | '^' :: rest => (true, c.skipTo rest)
  | _ => (false, c)

/-- The start of a class whose caret and dashes have been read: without dashes a closing bracket
stands for itself. -/
def bracketFirst (negated : Bool) (read : List ClassSet × Cursor) :
    Bool × List ClassSet × Cursor :=
  match read.1, read.2.rest with
  | [], ']' :: rest => (negated, [.literal ⟨']', false⟩], read.2.skipTo rest)
  | _, _ => (negated, read.1, read.2)

/-- A class starts with a caret, dashes and a closing bracket that stands for itself, each if it is
there. -/
theorem parseClassOpen_eq (c : Cursor) : parseClassOpen c = bracketFirst c.skip.skipCaret.1
    (parseLeadingDashes c.skip.skipCaret.2 [] c.skip.skipCaret.2.rest.length) :=
  rfl

/-- Behind the caret of a negated class an end of the text is left. -/
theorem Cursor.skipCaret_suffix (c : Cursor) : c.skipCaret.2.rest <:+ c.rest := by
  rw [skipCaret]
  split
  · rename_i hrest
    exact skipTo_suffix_of_cons hrest
  · exact List.suffix_rfl

/-- Behind a closing bracket that comes first an end of the text is left. -/
theorem bracketFirst_suffix (negated : Bool) (read : List ClassSet × Cursor) :
    (bracketFirst negated read).2.2.rest <:+ read.2.rest := by
  rw [bracketFirst]
  split
  · rename_i hrest
    exact Cursor.skipTo_suffix_of_cons hrest
  · exact List.suffix_rfl

/-- Behind the start of a class an end of the text is left. -/
theorem parseClassOpen_suffix (c : Cursor) : (parseClassOpen c).2.2.rest <:+ c.skip.rest := by
  rw [parseClassOpen_eq]
  exact (bracketFirst_suffix _ _).trans
    ((parseLeadingDashes_suffix _ _ _).trans c.skip.skipCaret_suffix)

/-- With one step more, reading the items of a class goes onward. -/
theorem onward_parseClassItems_step {n : Nat}
    (hclass : ∀ c, Onward c.skip.behind (parseClass n c))
    (hitems : ∀ c pending items, Onward c.skip.behind (parseClassItems n c pending items))
    (c : Cursor) (pending : Option (SetOperation × ClassSet)) (items : List ClassSet) :
    Onward c.skip.behind (parseClassItems (n + 1) c pending items) := by
  have hlater : ∀ c pending items, Onward c (parseClassItems n c pending items) :=
    fun c pending items => (hitems c pending items).of_suffix
      ((Cursor.behind_suffix _).trans c.skip_suffix)
  rw [parseClassItems]
  generalize c.skip = d
  simp only
  split
  · exact .none
  · rename_i hrest
    rw [Cursor.behind_of_cons hrest]
    exact .some List.suffix_rfl
  · rename_i hrest
    rw [Cursor.behind_of_cons hrest]
    exact (hlater _ _ _).of_suffix (List.suffix_cons _ _)
  · rename_i hrest
    rw [Cursor.behind_of_cons hrest]
    exact (hlater _ _ _).of_suffix (List.suffix_cons _ _)
  · rename_i hrest
    rw [Cursor.behind_of_cons hrest]
    exact (hlater _ _ _).of_suffix (List.suffix_cons _ _)
  · rename_i hrest
    rw [Cursor.behind_of_cons hrest]
    split
    · rename_i hascii
      exact (hlater _ _ _).of_suffix (parseAsciiClass_suffix hascii)
    · exact .bind ((hclass _).of_suffix ((Cursor.behind_suffix _).trans (Cursor.skip_suffix _)))
        fun found e _ => hlater _ _ _
  · exact .bind (onward_parseClassRange d) fun item e _ => hlater _ _ _

/-- Reading a class or its items takes at least one character. -/
theorem onward_parseClass_and_items (n : Nat) :
    (∀ c, Onward c.skip.behind (parseClass n c)) ∧
      ∀ c pending items, Onward c.skip.behind (parseClassItems n c pending items) := by
  induction n with
  | zero => exact ⟨fun _ => .none, fun _ _ _ => .none⟩
  | succ n ih =>
    refine ⟨fun c => ?_, onward_parseClassItems_step ih.1 ih.2⟩
    rw [parseClass]
    refine .bind ?_ fun content d _ => .some List.suffix_rfl
    exact (ih.2 _ _ _).of_suffix
      (tail_suffix_tail ((Cursor.skip_suffix _).trans (parseClassOpen_suffix c)))

/-- Reading a class goes onward, past the first character at least. -/
theorem onward_parseClass (n : Nat) (c : Cursor) : Onward c.skip.behind (parseClass n c) :=
  (onward_parseClass_and_items n).1 c

/-- Reading the items of a class goes onward, past the closing bracket at least. -/
theorem onward_parseClassItems (n : Nat) (c : Cursor)
    (pending : Option (SetOperation × ClassSet)) (items : List ClassSet) :
    Onward c.skip.behind (parseClassItems n c pending items) :=
  (onward_parseClass_and_items n).2 c pending items

/-! ## Repetitions -/

/-- Behind a question mark an end of the text is left. -/
theorem skipReluctant_suffix (rest : List Char) : skipReluctant rest <:+ rest := by
  rw [skipReluctant.eq_def]
  split
  · exact List.suffix_cons _ _
  · exact List.suffix_rfl

/-- Behind digits an end of the text is left. -/
theorem parseDigits_suffix (c : Cursor) (digits : List Char) (n : Nat) :
    (parseDigits c digits n).2.rest <:+ c.rest := by
  induction n generalizing c digits with
  | zero => exact List.suffix_rfl
  | succ n ih =>
    rw [parseDigits]
    split
    · exact List.suffix_rfl
    · rename_i hrest
      split
      · exact (ih _ _).trans (Cursor.skipTo_suffix_of_cons hrest)
      · exact List.suffix_rfl

/-- The place behind the white space that comes next, whether it is ignored or not. -/
def Cursor.dropBlanks (c : Cursor) : Cursor :=
  c.goto (c.rest.dropWhile Text.isBlank)

/-- Behind white space an end of the text is left. -/
theorem Cursor.dropBlanks_suffix (c : Cursor) : c.dropBlanks.rest <:+ c.rest :=
  List.dropWhile_suffix _

/-- The count that some digits stand for, if it is not too large. -/
def countOf (digits : List Char) (c : Cursor) : Option (Option Nat × Cursor) :=
  if digits.isEmpty then some (none, c)
  else
    let value := digits.foldl (fun value d => 10 * value + (d.toNat - '0'.toNat)) 0
    if value < UInt32.size then some (some value, c) else none

/-- The digits of a count behind white space. -/
def digitsOf (c : Cursor) : List Char × Cursor :=
  parseDigits c.dropBlanks [] c.dropBlanks.rest.length

/-- A count is made of its digits, with white space around them. -/
theorem parseCount_eq (c : Cursor) :
    parseCount c = countOf (digitsOf c).1 (digitsOf c).2.dropBlanks.skip :=
  rfl

/-- Making a count of digits reads nothing more. -/
theorem onward_countOf (digits : List Char) (c : Cursor) : Onward c (countOf digits c) := by
  rw [countOf]
  split
  · exact .some List.suffix_rfl
  · simp only
    split
    · exact .some List.suffix_rfl
    · exact .none

/-- Behind the digits of a count an end of the text is left. -/
theorem digitsOf_suffix (c : Cursor) : (digitsOf c).2.rest <:+ c.rest :=
  (parseDigits_suffix _ _ _).trans c.dropBlanks_suffix

/-- Reading a count goes onward. -/
theorem onward_parseCount (c : Cursor) : Onward c (parseCount c) := by
  rw [parseCount_eq]
  refine (onward_countOf _ _).of_suffix ?_
  exact (Cursor.skip_suffix _).trans ((Cursor.dropBlanks_suffix _).trans (digitsOf_suffix c))

/-- The bounds of a repetition in front of the closing brace, if they are in order. -/
def closeBounds (least most : Nat) (c : Cursor) : Option ((Nat × Option Nat) × Cursor) :=
  match c.rest with
  | '\x7d' :: rest => if least ≤ most then return ((least, some most), c.skipTo rest) else none
  | _ => none

/-- The upper bound of a repetition and the closing brace, read behind a comma. -/
def upperBound (least : Option Nat) (c : Cursor) : Option ((Nat × Option Nat) × Cursor) :=
  match c.rest with
  | '\x7d' :: rest => do return ((← least, none), c.skipTo rest)
  | _ => do
    let least ← least
    let (most, d) ← parseCount c
    let most ← most
    closeBounds least most d

/-- The bounds of a repetition, read behind the lower one. -/
def boundsAfter (least : Option Nat) (c : Cursor) : Option ((Nat × Option Nat) × Cursor) :=
  match c.rest with
  | ',' :: rest => upperBound least (c.skipTo rest)
  | '\x7d' :: rest => do return ((← least, ← least), c.skipTo rest)
  | _ => none

/-- The bounds of a repetition as one value. -/
def boundsOf (c : Cursor) : Option ((Nat × Option Nat) × Cursor) :=
  parseCount c.skip >>= fun read => boundsAfter read.1 read.2

/-- There is no count at the end of a pattern. -/
theorem parseCount_end (hend : c.rest = []) : ∃ d : Cursor, d.rest = [] ∧
    parseCount c = some (none, d) := by
  have hblanks : c.dropBlanks.rest = [] := by
    rw [Cursor.dropBlanks, hend]
    rfl
  have hdigits : digitsOf c = ([], c.dropBlanks) := by
    rw [digitsOf, hblanks]
    rfl
  refine ⟨c.dropBlanks.dropBlanks.skip, ?_, ?_⟩
  · have hsuffix := (Cursor.skip_suffix _).trans c.dropBlanks.dropBlanks_suffix
    rwa [hblanks, List.suffix_nil] at hsuffix
  · rw [parseCount_eq, hdigits]
    rfl

/-- Two bounds are closed by a brace if they are in order. -/
theorem map_closeBounds (least most : Nat) (c : Cursor) :
    ((closeBounds least most c).map fun read => (read.1.1, read.1.2, read.2)) =
      match c.rest with
      | '\x7d' :: rest => if least ≤ most then some (least, some most, c.skipTo rest) else none
      | _ => none := by
  rw [closeBounds]
  by_cases hbrace : ∃ rest, c.rest = '\x7d' :: rest
  · obtain ⟨rest, hbrace⟩ := hbrace
    simp only [hbrace]
    split <;> rfl
  · have hother := not_exists.1 hbrace
    simp only
    rfl

/-- The bounds of a repetition are read one after the other. -/
theorem parseBounds_eq (c : Cursor) :
    parseBounds c = (boundsOf c).map fun read => (read.1.1, read.1.2, read.2) := by
  have hbind : ∀ {γ δ : Type} (read : Option γ) (next : γ → Option δ), (read >>= next) =
      read.bind next := fun _ _ => rfl
  rw [parseBounds, boundsOf]
  simp only
  split
  · rename_i hend
    obtain ⟨d, hd, hcount⟩ := parseCount_end (List.isEmpty_iff.1 hend)
    have hnone : boundsAfter none d = none := by
      rw [boundsAfter, hd]
    rw [hcount]
    change none = Option.map _ (boundsAfter none d)
    rw [hnone]
    rfl
  · simp only [hbind, Option.map_bind]
    refine congrArg _ (funext fun read => ?_)
    rw [Function.comp_apply, boundsAfter]
    by_cases hcomma : ∃ rest, read.2.rest = ',' :: rest
    · obtain ⟨rest, hcomma⟩ := hcomma
      simp only [hcomma]
      rw [upperBound.eq_def]
      by_cases hbrace : ∃ left, (read.2.skipTo rest).rest = '\x7d' :: left
      · obtain ⟨left, hbrace⟩ := hbrace
        simp only [hbrace]
        cases read.1 <;> rfl
      · have hother := not_exists.1 hbrace
        simp only [hbind, Option.map_bind, Function.comp_def, map_closeBounds]
        rfl
    · have hother := not_exists.1 hcomma
      by_cases hbrace : ∃ rest, read.2.rest = '\x7d' :: rest
      · obtain ⟨rest, hbrace⟩ := hbrace
        simp only [hbrace]
        cases read.1 <;> rfl
      · have hopen := not_exists.1 hbrace
        simp only
        rfl

/-- What is done with the bounds of a repetition. -/
theorem parseBounds_bind (c : Cursor) (next : Nat × Option Nat × Cursor → Option α) :
    parseBounds c >>= next =
      boundsOf c >>= fun read => next (read.1.1, read.1.2, read.2) := by
  rw [parseBounds_eq]
  cases boundsOf c <;> rfl

/-- Closing two bounds goes onward. -/
theorem onward_closeBounds (least most : Nat) (c : Cursor) :
    Onward c (closeBounds least most c) := by
  rw [closeBounds]
  split
  · rename_i hrest
    split
    · exact .some (Cursor.skipTo_suffix_of_cons hrest)
    · exact .none
  · exact .none

/-- Reading an upper bound goes onward. -/
theorem onward_upperBound (least : Option Nat) (c : Cursor) : Onward c (upperBound least c) := by
  rw [upperBound]
  split
  · rename_i hrest
    exact .choose fun least _ => .some (Cursor.skipTo_suffix_of_cons hrest)
  · exact .choose fun least _ => .bind (onward_parseCount c) fun most d _ =>
      .choose fun most _ => onward_closeBounds least most d

/-- Reading what follows the lower bound goes onward. -/
theorem onward_boundsAfter (least : Option Nat) (c : Cursor) :
    Onward c (boundsAfter least c) := by
  rw [boundsAfter]
  split
  · rename_i hrest
    exact (onward_upperBound _ _).of_suffix (Cursor.skipTo_suffix_of_cons hrest)
  · rename_i hrest
    exact .choose fun least _ => .choose fun most _ => .some (Cursor.skipTo_suffix_of_cons hrest)
  · exact .none

/-- Reading the bounds of a repetition goes onward. -/
theorem onward_boundsOf (c : Cursor) : Onward c.skip (boundsOf c) := by
  exact .bind (onward_parseCount _) fun least d _ => onward_boundsAfter _ _

/-! ## Groups -/

/-- Behind flags an end of the text is left. -/
theorem parseFlags_suffix {items found : List FlagItem} {negated dangling : Bool}
    {left : List Char} (h : parseFlags items negated dangling rest = some (found, left)) :
    left <:+ rest := by
  induction rest generalizing items negated dangling with
  | nil => simp [parseFlags] at h
  | cons first rest ih =>
    have hlater := List.suffix_cons first rest
    have hhere : ∀ text, (if dangling = true then none else some (items, text)) =
        some (found, left) → left = text := by
      intro text htext
      cases dangling <;> simp_all
    rw [parseFlags.eq_def] at h
    split at h
    · simp at *
    · rename_i heq
      exact ⟨[], (hhere _ h).trans heq.symm⟩
    · rename_i heq
      exact ⟨[], (hhere _ h).trans heq.symm⟩
    · rename_i heq
      obtain ⟨rfl, rfl⟩ := List.cons.inj heq
      split at h
      · simp at h
      · exact (ih h).trans hlater
    · rename_i heq
      obtain ⟨rfl, rfl⟩ := List.cons.inj heq
      obtain ⟨flag, -, h⟩ := Option.bind_eq_some_iff.1 h
      split at h
      · simp at h
      · exact (ih h).trans hlater

/-- Behind the name of a group an end of the text is left. -/
theorem parseGroupName_suffix {name : List Char} {found : String} {left : List Char}
    (h : parseGroupName name rest = some (found, left)) : left <:+ rest := by
  induction rest generalizing name with
  | nil => simp [parseGroupName] at h
  | cons first rest ih =>
    have hlater := List.suffix_cons first rest
    rw [parseGroupName.eq_def] at h
    split at h
    · simp at *
    · rename_i heq
      obtain ⟨rfl, rfl⟩ := List.cons.inj heq
      split at h
      · simp at h
      · obtain ⟨-, rfl⟩ := Prod.mk.inj (Option.some.inj h)
        exact hlater
    · rename_i heq
      obtain ⟨rfl, rfl⟩ := List.cons.inj heq
      split at h
      · exact (ih h).trans hlater
      · simp at h

/-- Where reading goes on behind the start of a group. -/
def Opening.cursor : Opening → Cursor
  | directive _ cursor => cursor
  | group _ cursor => cursor

/-- What a group starts with whose flags have been read. -/
def openFlagged (c : Cursor) (items : List FlagItem) : List Char → Option Opening
  | ')' :: rest =>
    if items.isEmpty then none
    else
      let ignoreBlanks := (flagState? .ignoreBlanks items).getD c.ignoreBlanks
      return .directive items { c with rest, ignoreBlanks }
  | _ :: rest =>
    let ignoreBlanks := (flagState? .ignoreBlanks items).getD c.ignoreBlanks
    return .group items { c with rest, ignoreBlanks }
  | [] => none

/-- Behind the start of a named group an end of the text is left. -/
theorem openNamed_suffix {opening : Opening} (h : openNamed c rest = some opening) :
    opening.cursor.rest <:+ rest := by
  rw [openNamed] at h
  obtain ⟨⟨name, left⟩, hname, h⟩ := Option.bind_eq_some_iff.1 h
  simp only at h
  split at h
  · simp at h
  · obtain rfl := Option.some.inj h
    exact parseGroupName_suffix hname

/-- Behind what flags lead into an end of the text is left. -/
theorem openFlagged_suffix {opening : Opening} {items : List FlagItem}
    (h : openFlagged c items rest = some opening) : opening.cursor.rest <:+ rest := by
  rw [openFlagged.eq_def] at h
  split at h
  · split at h
    · simp at h
    · obtain rfl := Option.some.inj h
      exact List.suffix_cons _ _
  · obtain rfl := Option.some.inj h
    exact List.suffix_cons _ _
  · simp at h

/-- Behind whatever a parenthesis opens an end of the text is left. -/
theorem parseOpening_suffix {opening : Opening} (h : parseOpening c = some opening) :
    opening.cursor.rest <:+ c.skip.rest := by
  rw [parseOpening] at h
  simp only at h
  generalize c.skip = d at h ⊢
  split at h
  · simp at h
  · simp at h
  · simp at h
  · simp at h
  · rename_i rest hrest
    rw [hrest]
    exact (openNamed_suffix h).trans ⟨['?', 'P', '<'], rfl⟩
  · rename_i rest _ _ hrest
    rw [hrest]
    exact (openNamed_suffix h).trans ⟨['?', '<'], rfl⟩
  · rename_i rest _ _ _ _ _ _ hrest
    rw [hrest]
    obtain ⟨⟨items, left⟩, hflags, h⟩ := Option.bind_eq_some_iff.1 h
    have hopen : openFlagged d items left = some opening := h
    exact (openFlagged_suffix hopen).trans
      ((parseFlags_suffix hflags).trans (List.suffix_cons _ _))
  · obtain rfl := Option.some.inj h
    exact List.suffix_rfl

/-- What an opening parenthesis starts, as one value: whether it only switches flags, and which. -/
def Opening.parts : Opening → (Bool × List FlagItem) × Cursor
  | directive items cursor => ((true, items), cursor)
  | group items cursor => ((false, items), cursor)

/-- Reading what a parenthesis opens goes onward. -/
theorem onward_parseOpening (c : Cursor) : Onward c.skip ((parseOpening c).map Opening.parts) := by
  intro x d hd
  obtain ⟨opening, hopening, hparts⟩ := Option.map_eq_some_iff.1 hd
  have hcursor : opening.cursor = d := by
    cases opening <;> exact (Prod.mk.inj hparts).2
  rw [← hcursor]
  exact parseOpening_suffix hopening

/-! ## Whole patterns -/

/-- The alternatives go on behind the parenthesis that closes a group. -/
def afterGroup (n : Nat) (blanks : Bool) (branches parts : List Syntax) (items : List FlagItem)
    (read : Syntax × Cursor) : Option (Syntax × Cursor) :=
  match read.2.rest with
  | ')' :: rest =>
    parseAlternatives n ⟨rest, blanks, read.2.names⟩ branches
      (.group items read.1 :: parts)
  | _ => none

/-- The alternatives go on behind what an opening parenthesis starts. -/
def afterOpening (n : Nat) (blanks : Bool) (branches parts : List Syntax) :
    (Bool × List FlagItem) × Cursor → Option (Syntax × Cursor)
  | ((true, items), c) => parseAlternatives n c branches (.flags items :: parts)
  | ((false, items), c) =>
    parseAlternatives n c [] [] >>= afterGroup n blanks branches parts items

/-- What is read behind an opening depends on what was opened. -/
theorem parseOpening_bind (n : Nat) (c : Cursor) (blanks : Bool) (branches parts : List Syntax) :
    (parseOpening c >>= fun opening =>
      match opening with
      | .directive items cursor =>
        parseAlternatives n cursor branches (.flags items :: parts)
      | .group items inner =>
        parseAlternatives n inner [] [] >>= afterGroup n blanks branches parts items) =
      (parseOpening c).map Opening.parts >>= afterOpening n blanks branches parts := by
  cases parseOpening c with
  | none => rfl
  | some opening => cases opening <;> rfl

/-- Closing a group and reading on goes onward. -/
theorem onward_afterGroup {n : Nat}
    (hlater : ∀ c branches parts, Onward c (parseAlternatives n c branches parts)) (blanks : Bool)
    (branches parts : List Syntax) (items : List FlagItem) (body : Syntax) (c : Cursor) :
    Onward c (afterGroup n blanks branches parts items (body, c)) := by
  rw [afterGroup]
  split
  · rename_i rest hrest
    refine (hlater _ _ _).of_suffix ?_
    rw [hrest]
    exact List.suffix_cons _ rest
  · exact .none

/-- Reading on behind an opening goes onward. -/
theorem onward_afterOpening {n : Nat}
    (hlater : ∀ c branches parts, Onward c (parseAlternatives n c branches parts)) (blanks : Bool)
    (branches parts : List Syntax) (opened : Bool × List FlagItem) (c : Cursor) :
    Onward c (afterOpening n blanks branches parts (opened, c)) := by
  obtain ⟨directive, items⟩ := opened
  cases directive with
  | true => exact hlater c _ _
  | false =>
    exact (hlater c [] []).bind fun body d _ =>
      onward_afterGroup hlater blanks branches parts items body d

/-- What is left where alternatives end is an ending of what there was. -/
theorem onward_parseAlternatives (n : Nat) (c : Cursor) (branches parts : List Syntax) :
    Onward c.skip (parseAlternatives n c branches parts) := by
  induction n generalizing c branches parts with
  | zero => exact .none
  | succ n ih =>
    have hlater : ∀ (c : Cursor) branches parts, Onward c (parseAlternatives n c branches parts) :=
      fun c branches parts => (ih c branches parts).of_suffix c.skip_suffix
    have hgoto : ∀ {d : Cursor} {first : Char} {rest : List Char}, d.rest = first :: rest →
        ∀ branches parts, Onward d (parseAlternatives n (d.goto rest) branches parts) :=
      fun hrest branches parts =>
        (hlater _ branches parts).of_suffix (Cursor.goto_suffix_of_cons hrest)
    have hreluctant : ∀ {d e : Cursor} {rest : List Char}, rest <:+ d.rest →
        ∀ branches parts, Onward d
          (parseAlternatives n (e.goto (skipReluctant rest)) branches parts) :=
      fun hrest branches parts =>
        (hlater _ branches parts).of_suffix ((skipReluctant_suffix _).trans hrest)
    rw [parseAlternatives]
    generalize c.skip = d
    simp only
    split
    · exact .some List.suffix_rfl
    · exact .some List.suffix_rfl
    · rename_i hrest
      exact hgoto hrest _ _
    · rename_i rest hrest
      refine (congrArg (Onward d) (parseOpening_bind n _ d.ignoreBlanks branches parts)).mpr ?_
      refine .bind ((onward_parseOpening _).of_suffix ?_) fun opened e _ =>
        onward_afterOpening hlater _ branches parts opened e
      exact (Cursor.skip_suffix _).trans (Cursor.goto_suffix_of_cons hrest)
    · rename_i hrest
      refine .bind ((onward_parseClass _ _).of_suffix ?_) fun content e _ => hlater _ _ _
      exact (Cursor.behind_suffix _).trans
        ((Cursor.skip_suffix _).trans (Cursor.goto_suffix_of_cons hrest))
    · rename_i hrest
      exact .choose fun popped _ => hreluctant (Cursor.goto_suffix_of_cons hrest) _ _
    · rename_i hrest
      exact .choose fun popped _ => hreluctant (Cursor.goto_suffix_of_cons hrest) _ _
    · rename_i hrest
      exact .choose fun popped _ => hreluctant (Cursor.goto_suffix_of_cons hrest) _ _
    · rename_i hrest
      refine .choose fun popped _ => ?_
      rw [parseBounds_bind]
      refine .bind ((onward_boundsOf _).of_suffix ?_) fun bounds e _ =>
        hreluctant List.suffix_rfl _ _
      exact (Cursor.skip_suffix _).trans (Cursor.goto_suffix_of_cons hrest)
    · rename_i hrest
      exact .bind ((onward_parseEscape _).of_suffix (Cursor.goto_suffix_of_cons hrest))
        fun part e _ => hlater _ _ _
    · rename_i hrest
      exact hgoto hrest _ _
    · rename_i hrest
      exact hgoto hrest _ _
    · rename_i hrest
      exact hgoto hrest _ _
    · rename_i hrest
      exact hgoto hrest _ _

end ShellComposer.Pattern
