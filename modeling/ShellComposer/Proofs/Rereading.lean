import Mathlib.Tactic.SplitIfs
import ShellComposer.Json.Reader
import ShellComposer.Json.Writer

/-!
# Written text is read back

The text that is written for a JSON value is read back as the tree of that value, whatever its
strings hold and however deep it nests.  A numeral, the one kind of value that does not show where
it ends, is always followed by the end of the text, a comma or a closing bracket.

Main results:

- Theorem `Numeral.read_toDigits`: the digits of a number are read back as its numeral.
- Theorem `readString_escaped`: every text is read back from between its quotes.
- Theorem `readValue_chars`: a value is read back from its characters, and what follows is left.
- Theorem `readTree_text`: so is the text of a value, and nothing follows it.
-/

namespace ShellComposer.Json

variable {rest : List Char} {steps : Nat}

/-! ## What follows a value -/

/-- Behind a written value the text ends, or a comma or a closing bracket stands there. -/
def Ends (rest : List Char) : Prop :=
  ∀ c ∈ rest.head?, c = ',' ∨ c = ']' ∨ c = '\x7d'

theorem ends_nil : Ends [] := by
  intro c hc
  simp at hc

theorem ends_cons {c : Char} (hc : c = ',' ∨ c = ']' ∨ c = '\x7d') : Ends (c :: rest) := by
  intro c' hc'
  obtain rfl : c = c' := Option.some.inj hc'
  exact hc

/-! ## Numerals -/

namespace Numeral

/-- The digits of a number stand for the number. -/
theorem digitsValue_toDigits (n : Nat) : digitsValue (Nat.toDigits 10 n) = n :=
  Nat.ofDigitChars_ten_toDigits

/-- A numeral made of a natural number stands for that number. -/
theorem natural?_ofNatural (n : Nat) : (ofNatural n).natural? = some n :=
  congrArg some (digitsValue_toDigits n)

/-- A number has a first digit. -/
theorem exists_toDigits (n : Nat) :
    ∃ first more, Nat.toDigits 10 n = first :: more ∧ first.isDigit = true := by
  rcases List.exists_cons_of_ne_nil (Nat.toDigits_ne_nil : Nat.toDigits 10 n ≠ []) with
    ⟨first, more, hdigits⟩
  refine ⟨first, more, hdigits, Nat.isDigit_of_mem_toDigits (b := 10) (n := n) ?_ ?_ ?_⟩
  · decide
  · decide
  · rw [hdigits]
    exact List.mem_cons_self

/-- A positive number does not start with zero. -/
theorem head?_toDigits_ne_zero {n : Nat} (hn : 0 < n) : (Nat.toDigits 10 n).head? ≠ some '0' := by
  induction n using Nat.strongRecOn with
  | ind n ih =>
    by_cases hlt : n < 10
    · rw [Nat.toDigits_of_lt_base hlt, List.head?_cons, ne_eq, Option.some.injEq,
        Nat.digitChar_eq_zero]
      exact Nat.ne_of_gt hn
    · have hdigits := Nat.toDigits_of_base_le (by decide) (Nat.le_of_not_lt hlt)
      have hbefore := ih (n / 10) (by omega) (by omega)
      rcases exists_toDigits (n / 10) with ⟨first, more, hfirst, -⟩
      rw [hfirst] at hbefore
      rw [hdigits, hfirst]
      exact hbefore

/-- The digits of a number are a whole part: zero alone, or digits that do not start with zero. -/
theorem toDigits_ne_zero_cons (n : Nat) (c : Char) (cs : List Char) :
    Nat.toDigits 10 n ≠ '0' :: c :: cs := by
  intro hdigits
  cases n with
  | zero => simp at hdigits
  | succ n =>
    have hhead := head?_toDigits_ne_zero (Nat.succ_pos n)
    rw [hdigits] at hhead
    exact hhead rfl

/-- No digit ends a value. -/
theorem not_isDigit_of_ends (hrest : Ends rest) : ∀ c ∈ rest.head?, c.isDigit = false := by
  intro c hc
  rcases hrest c hc with rfl | rfl | rfl <;> rfl

/-- Digits are read up to the first character that is none. -/
theorem spanDigits_append {digits : List Char} (hdigits : ∀ c ∈ digits, c.isDigit = true)
    (hrest : ∀ c ∈ rest.head?, c.isDigit = false) :
    spanDigits (digits ++ rest) = (digits, rest) := by
  rw [spanDigits, List.takeWhile_append_of_pos hdigits, List.dropWhile_append_of_pos hdigits]
  cases rest with
  | nil => simp
  | cons c cs =>
    have hc := hrest c rfl
    rw [List.takeWhile_cons_of_neg (by simp [hc]), List.dropWhile_cons_of_neg (by simp [hc]),
      List.append_nil]

/-- The digits of a number are read as a whole part. -/
theorem readWhole_toDigits (n : Nat) (hrest : Ends rest) :
    readWhole (Nat.toDigits 10 n ++ rest) = some (Nat.toDigits 10 n, rest) := by
  have hdigits : ∀ c ∈ Nat.toDigits 10 n, c.isDigit = true :=
    fun c hc => Nat.isDigit_of_mem_toDigits (by decide) (by decide) hc
  rw [readWhole, spanDigits_append hdigits (not_isDigit_of_ends hrest)]
  split
  · rename_i hnil
    exact absurd (Prod.mk.inj hnil).1 Nat.toDigits_ne_nil
  · rename_i hzero
    exact absurd (Prod.mk.inj hzero).1 (toDigits_ne_zero_cons n _ _)
  · rename_i hsame
    rw [hsame]

/-- There is no fraction where a value ends. -/
theorem readFraction_of_ends (hrest : Ends rest) : readFraction rest = some (none, rest) := by
  unfold readFraction
  split
  · rcases hrest '.' rfl with h | h | h <;> exact absurd h (by decide)
  · rfl

/-- There is no exponent where a value ends. -/
theorem readExponent_of_ends (hrest : Ends rest) : readExponent rest = some (none, rest) := by
  cases rest with
  | nil => rfl
  | cons c cs => rcases hrest c rfl with rfl | rfl | rfl <;> rfl

/-- The digits of a number are read back as its numeral. -/
theorem read_toDigits (n : Nat) (hrest : Ends rest) :
    read (Nat.toDigits 10 n ++ rest) = some (ofNatural n, rest) := by
  have hwhole := readWhole_toDigits n hrest
  rcases exists_toDigits n with ⟨first, more, hdigits, hfirst⟩
  rw [hdigits] at hwhole ⊢
  unfold read
  have hplain : first ≠ '-' := by
    rintro rfl
    exact absurd hfirst (by decide)
  rw [List.cons_append] at hwhole ⊢
  split
  rename_i negative digits hsign
  split at hsign
  · rename_i hminus
    exact absurd (List.cons.inj hminus).1 hplain
  · obtain ⟨rfl, rfl⟩ := Prod.mk.inj hsign
    rw [hwhole]
    simp only [Option.bind_eq_bind, Option.bind_some, readFraction_of_ends hrest,
      readExponent_of_ends hrest, ofNatural, hdigits]
    rfl

end Numeral

/-! ## Strings -/

/-- The control characters that have an escape of one letter. -/
def letterEscaped : List Char :=
  ['\x08', '\t', '\n', '\x0c', '\r']

/-- The piece that a written character is read as: a unit when it was written by its code. -/
def pieceOf (c : Char) : Piece :=
  if c.toNat < 0x20 ∧ c ∉ letterEscaped then .unit c.toNat else .char c

/-- The code of a control character is read back from its two digits. -/
theorem unit?_digitChar {code : Nat} (hcode : code < 0x20) :
    unit? '0' '0' (Nat.digitChar (code / 16)) (Nat.digitChar (code % 16)) = some code := by
  revert code
  decide

/-- An escape of one letter is read as the character that it stands for. -/
theorem readPieces_letter {letter c : Char} (hletter : letter ≠ 'u')
    (hescape : escaped? letter = some c) (rest : List Char) :
    readPieces ('\\' :: letter :: rest) =
      (readPieces rest).map fun (pieces, rest) => (.char c :: pieces, rest) := by
  rw [readPieces, hescape]
  · cases readPieces rest <;> rfl
  · rintro _ _ _ _ _ rfl
    exact absurd rfl hletter

/-- An escape by the code is read as a unit. -/
theorem readPieces_code {code : Nat} (hcode : code < 0x20) (rest : List Char) :
    readPieces ('\\' :: 'u' :: '0' :: '0' :: Nat.digitChar (code / 16) ::
        Nat.digitChar (code % 16) :: rest) =
      (readPieces rest).map fun (pieces, rest) => (.unit code :: pieces, rest) := by
  rw [readPieces, unit?_digitChar hcode]
  cases readPieces rest <;> rfl

/-- Any other character is read as itself. -/
theorem readPieces_plain {c : Char} (hquote : c ≠ '"') (hslash : c ≠ '\\')
    (hplain : ¬ c.toNat < 0x20) (rest : List Char) :
    readPieces (c :: rest) =
      (readPieces rest).map fun (pieces, rest) => (.char c :: pieces, rest) := by
  rw [readPieces, if_neg hplain]
  · cases readPieces rest <;> rfl
  · exact hquote
  · rintro _ _ _ _ _ rfl
    exact absurd rfl hslash
  · rintro _ _ rfl
    exact absurd rfl hslash
  · rintro rfl
    exact absurd rfl hslash

/-- A character is read back as its piece. -/
theorem readPieces_escapeChar (c : Char) (rest : List Char) :
    readPieces (escapeChar c ++ rest) =
      (readPieces rest).map fun (pieces, rest) => (pieceOf c :: pieces, rest) := by
  unfold escapeChar
  split_ifs with hquote hslash hback htab hline hfeed hreturn hcontrol
  · obtain rfl := eq_of_beq hquote
    exact readPieces_letter (by decide) rfl rest
  · obtain rfl := eq_of_beq hslash
    exact readPieces_letter (by decide) rfl rest
  · obtain rfl := eq_of_beq hback
    exact readPieces_letter (by decide) rfl rest
  · obtain rfl := eq_of_beq htab
    exact readPieces_letter (by decide) rfl rest
  · obtain rfl := eq_of_beq hline
    exact readPieces_letter (by decide) rfl rest
  · obtain rfl := eq_of_beq hfeed
    exact readPieces_letter (by decide) rfl rest
  · obtain rfl := eq_of_beq hreturn
    exact readPieces_letter (by decide) rfl rest
  · have hunit : pieceOf c = .unit c.toNat := by
      rw [pieceOf, if_pos]
      refine ⟨hcontrol, ?_⟩
      simp_all [letterEscaped]
    rw [hunit]
    exact readPieces_code hcontrol rest
  · have hchar : pieceOf c = .char c := if_neg fun h => hcontrol h.1
    rw [hchar]
    exact readPieces_plain (fun h => hquote (beq_iff_eq.2 h)) (fun h => hslash (beq_iff_eq.2 h))
      hcontrol rest

/-- A list of written characters is read back as its pieces, up to the closing quote. -/
theorem readPieces_escaped (cs rest : List Char) :
    readPieces (cs.flatMap escapeChar ++ '"' :: rest) = some (cs.map pieceOf, rest) := by
  induction cs with
  | nil => rfl
  | cons c cs ih =>
    rw [List.flatMap_cons, List.append_assoc, readPieces_escapeChar, ih]
    rfl

/-- A unit that is no half of a surrogate pair is a character on its own. -/
theorem assemble_unit {code : Nat} (hcode : code < 0xD800) (pieces : List Piece) :
    assemble (.unit code :: pieces) = (assemble pieces).map (Char.ofNat code :: ·) := by
  have hwhole : code < 0xD800 ∨ 0xE000 ≤ code := .inl hcode
  cases pieces with
  | nil => exact if_pos hwhole
  | cons next pieces =>
    cases next with
    | char c => exact if_pos hwhole
    | unit low => exact if_pos hwhole

/-- The pieces of characters make these characters. -/
theorem assemble_pieceOf (cs : List Char) : assemble (cs.map pieceOf) = some cs := by
  induction cs with
  | nil => rfl
  | cons c cs ih =>
    rw [List.map_cons, pieceOf]
    split
    · rename_i hcontrol
      rw [assemble_unit (Nat.lt_trans hcontrol.1 (by decide)), ih, Char.ofNat_toNat]
      rfl
    · rw [assemble, ih]
      rfl

/-- A text is read back from between its quotes. -/
theorem readString_escaped (text : String) (rest : List Char) :
    readString (text.toList.flatMap escapeChar ++ '"' :: rest) = some (some text, rest) := by
  rw [readString, readPieces_escaped, Option.bind_eq_bind, Option.bind_some]
  dsimp only
  rw [assemble_pieceOf, Option.map_some, String.ofList_toList]
  rfl

/-- A quoted text is a quotation mark, the escaped characters and a quotation mark. -/
theorem stringChars_append (text : String) (rest : List Char) :
    stringChars text ++ rest = '"' :: (text.toList.flatMap escapeChar ++ '"' :: rest) := by
  rw [stringChars, List.cons_append, List.append_assoc]
  rfl

/-! ## Values -/

theorem skipGap_cons {c : Char} (hc : isGap c = false) (rest : List Char) :
    skipGap (c :: rest) = c :: rest :=
  List.dropWhile_cons_of_neg (by simp [hc])

/-- What follows a value is no blank. -/
theorem skipGap_of_ends (hrest : Ends rest) : skipGap rest = rest := by
  cases rest with
  | nil => rfl
  | cons c cs => rcases hrest c rfl with rfl | rfl | rfl <;> rfl

/-- Written text starts with no blank and no closing bracket. -/
def Starts (cs : List Char) : Prop :=
  ∃ c more, cs = c :: more ∧ isGap c = false ∧ c ≠ ']' ∧ c ≠ '\x7d'

theorem starts_of_cons {c : Char} {more : List Char} (hgap : isGap c = false) (hitem : c ≠ ']')
    (hmember : c ≠ '\x7d') : Starts (c :: more) :=
  ⟨c, more, rfl, hgap, hitem, hmember⟩

theorem Starts.append {cs : List Char} (h : Starts cs) (more : List Char) :
    Starts (cs ++ more) := by
  rcases h with ⟨c, cs, rfl, hc⟩
  exact ⟨c, cs ++ more, rfl, hc⟩

theorem Starts.skipGap {cs : List Char} (h : Starts cs) : skipGap cs = cs := by
  rcases h with ⟨c, more, rfl, hgap, -⟩
  exact skipGap_cons hgap more

theorem isGap_of_isDigit {c : Char} (hc : c.isDigit = true) : isGap c = false := by
  rw [← Bool.not_eq_true]
  intro hgap
  simp only [isGap, Bool.or_eq_true, beq_iff_eq] at hgap
  rcases hgap with ((rfl | rfl) | rfl) | rfl <;> exact absurd hc (by decide)

namespace Value

/-- The text of a value starts with a character that starts a value. -/
theorem starts_chars (value : Value) : Starts value.chars := by
  cases value with
  | null => exact starts_of_cons rfl (by decide) (by decide)
  | bool b => cases b <;> exact starts_of_cons rfl (by decide) (by decide)
  | natural n =>
    rcases Numeral.exists_toDigits n with ⟨first, more, hdigits, hfirst⟩
    rw [chars, hdigits]
    refine starts_of_cons (isGap_of_isDigit hfirst) ?_ ?_
    · rintro rfl
      exact absurd hfirst (by decide)
    · rintro rfl
      exact absurd hfirst (by decide)
  | string text => exact starts_of_cons rfl (by decide) (by decide)
  | array items => exact starts_of_cons rfl (by decide) (by decide)
  | object members => exact starts_of_cons rfl (by decide) (by decide)

theorem starts_itemChars (item : Value) (more : List Value) :
    Starts (itemChars (item :: more)) := by
  cases more with
  | nil => exact starts_chars item
  | cons next more => exact (starts_chars item).append _

theorem starts_memberChars (member : String × Value) (more : List (String × Value)) :
    Starts (memberChars (member :: more)) := by
  cases more with
  | nil => exact starts_of_cons rfl (by decide) (by decide)
  | cons next more => exact starts_of_cons rfl (by decide) (by decide)

/-- The tree of a value is finished throughout. -/
theorem finished_toTree (value : Value) : value.toTree.finished = true := by
  cases value <;> rfl

/-- The text of a natural number is read as its tree. -/
theorem readValue_natural (steps n : Nat) (hrest : Ends rest) :
    readValue (steps + 1) ((natural n).chars ++ rest) = ((natural n).toTree, rest) := by
  have hread := Numeral.read_toDigits n hrest
  have hskip := ((natural n).starts_chars.append rest).skipGap
  rcases Numeral.exists_toDigits n with ⟨first, more, hdigits, hfirst⟩
  rw [chars] at hskip ⊢
  rw [readValue, hskip]
  rw [hdigits, List.cons_append] at hread ⊢
  split
  case h_7 => rw [hread]; rfl
  all_goals
    rename_i heq
    obtain rfl := (List.cons.inj heq).1
    exact absurd hfirst (by decide)

/-- The text of a string is read as its tree. -/
theorem readValue_string (steps : Nat) (text : String) (rest : List Char) :
    readValue (steps + 1) ((string text).chars ++ rest) = ((string text).toTree, rest) := by
  rw [chars, stringChars_append, readValue, skipGap_cons rfl]
  simp only [readString_escaped]
  rfl

/-- An array is read back when its items are. -/
theorem readValue_array {item : Value} {more : List Value}
    (hitems : readItems steps (itemChars (item :: more) ++ ']' :: rest) =
      (toTrees (item :: more), true, rest)) :
    readValue (steps + 1) ((array (item :: more)).chars ++ rest) =
      ((array (item :: more)).toTree, rest) := by
  have hopened : (array (item :: more)).chars ++ rest =
      '[' :: (itemChars (item :: more) ++ ']' :: rest) := by
    rw [chars, List.cons_append, List.append_assoc]
    rfl
  have hstarts := (starts_itemChars item more).append (']' :: rest)
  rw [hopened, readValue, skipGap_cons rfl]
  simp only [hstarts.skipGap]
  rcases hstarts with ⟨c, cs, hcons, -, hclosing, -⟩
  split
  · rename_i hclosed
    exact absurd (List.cons.inj (hcons.symm.trans hclosed)).1 hclosing
  · rw [hitems]
    rfl

/-- An object is read back when its members are. -/
theorem readValue_object {member : String × Value} {more : List (String × Value)}
    (hmembers : readMembers steps (memberChars (member :: more) ++ '\x7d' :: rest) =
      (toMembers (member :: more), true, rest)) :
    readValue (steps + 1) ((object (member :: more)).chars ++ rest) =
      ((object (member :: more)).toTree, rest) := by
  have hopened : (object (member :: more)).chars ++ rest =
      '\x7b' :: (memberChars (member :: more) ++ '\x7d' :: rest) := by
    rw [chars, List.cons_append, List.append_assoc]
    rfl
  have hstarts := (starts_memberChars member more).append ('\x7d' :: rest)
  rw [hopened, readValue, skipGap_cons rfl]
  simp only [hstarts.skipGap]
  rcases hstarts with ⟨c, cs, hcons, -, -, hclosing⟩
  split
  · rename_i hclosed
    exact absurd (List.cons.inj (hcons.symm.trans hclosed)).1 hclosing
  · rw [hmembers]
    rfl

/-- The last item is read back when its value is. -/
theorem readItems_last {item : Value}
    (hitem : readValue steps (item.chars ++ ']' :: rest) = (item.toTree, ']' :: rest)) :
    readItems (steps + 1) (itemChars [item] ++ ']' :: rest) = (toTrees [item], true, rest) := by
  have hskip : skipGap (']' :: rest) = ']' :: rest :=
    skipGap_of_ends (ends_cons (.inr (.inl rfl)))
  rw [itemChars, readItems, hitem]
  simp only [finished_toTree, if_true, hskip]
  rfl

/-- Items are read back when the first and the others are. -/
theorem readItems_more {item next : Value} {more : List Value}
    (hitem : readValue steps (item.chars ++ ',' :: (itemChars (next :: more) ++ ']' :: rest)) =
      (item.toTree, ',' :: (itemChars (next :: more) ++ ']' :: rest)))
    (hmore : readItems steps (itemChars (next :: more) ++ ']' :: rest) =
      (toTrees (next :: more), true, rest)) :
    readItems (steps + 1) (itemChars (item :: next :: more) ++ ']' :: rest) =
      (toTrees (item :: next :: more), true, rest) := by
  have hskip : ∀ behind, skipGap (',' :: behind) = ',' :: behind :=
    fun _ => skipGap_of_ends (ends_cons (.inl rfl))
  rw [itemChars, List.append_assoc, List.cons_append, readItems, hitem]
  simp only [finished_toTree, if_true, hskip, hmore]
  rfl

theorem readMembers_last {member : String × Value}
    (hvalue : readValue steps (member.2.chars ++ '\x7d' :: rest) =
      (member.2.toTree, '\x7d' :: rest)) :
    readMembers (steps + 1) (memberChars [member] ++ '\x7d' :: rest) =
      (toMembers [member], true, rest) := by
  have hskip : skipGap ('\x7d' :: rest) = '\x7d' :: rest :=
    skipGap_of_ends (ends_cons (.inr (.inr rfl)))
  rw [memberChars, List.append_assoc, stringChars_append, readMembers, skipGap_cons rfl]
  simp only [readString_escaped, List.cons_append, skipGap_cons (c := ':') rfl, hvalue,
    finished_toTree, if_true, hskip]
  rfl

theorem readMembers_more {member next : String × Value} {more : List (String × Value)}
    (hvalue : readValue steps
        (member.2.chars ++ ',' :: (memberChars (next :: more) ++ '\x7d' :: rest)) =
      (member.2.toTree, ',' :: (memberChars (next :: more) ++ '\x7d' :: rest)))
    (hmore : readMembers steps (memberChars (next :: more) ++ '\x7d' :: rest) =
      (toMembers (next :: more), true, rest)) :
    readMembers (steps + 1) (memberChars (member :: next :: more) ++ '\x7d' :: rest) =
      (toMembers (member :: next :: more), true, rest) := by
  have hskip : ∀ behind, skipGap (',' :: behind) = ',' :: behind :=
    fun _ => skipGap_of_ends (ends_cons (.inl rfl))
  rw [memberChars, List.append_assoc, stringChars_append, readMembers, skipGap_cons rfl]
  simp only [readString_escaped, List.cons_append, List.append_assoc, skipGap_cons (c := ':') rfl,
    hvalue, finished_toTree, if_true, hskip, hmore]
  rfl

-- Reading an array or an object takes one step for each item or member, and every one of them has
-- a character of its own, so as many steps as there are characters are enough.
mutual
/-- A value is read back from its characters, and what follows is left. -/
theorem readValue_chars : ∀ (value : Value) {steps : Nat} {rest : List Char},
    value.chars.length ≤ steps → Ends rest →
      readValue steps (value.chars ++ rest) = (value.toTree, rest)
  | value, 0, _, hsteps, _ => by
    rcases value.starts_chars with ⟨c, cs, hcons, -⟩
    simp [hcons] at hsteps
  | null, _ + 1, _, _, _ => rfl
  | bool true, _ + 1, _, _, _ => rfl
  | bool false, _ + 1, _, _, _ => rfl
  | natural n, steps + 1, _, _, hrest => readValue_natural steps n hrest
  | string text, steps + 1, rest, _, _ => readValue_string steps text rest
  | array [], _ + 1, _, _, _ => rfl
  | array (item :: more), steps + 1, rest, hsteps, _ => by
    refine readValue_array (readItems_chars item more ?_)
    simp only [chars, List.length_cons, List.length_append] at hsteps
    omega
  | object [], _ + 1, _, _, _ => rfl
  | object (member :: more), steps + 1, rest, hsteps, _ => by
    refine readValue_object (readMembers_chars member more ?_)
    simp only [chars, List.length_cons, List.length_append] at hsteps
    omega

/-- So are the items of an array, up to its closing bracket. -/
theorem readItems_chars : ∀ (item : Value) (more : List Value) {steps : Nat} {rest : List Char},
    (itemChars (item :: more)).length < steps →
      readItems steps (itemChars (item :: more) ++ ']' :: rest) =
        (toTrees (item :: more), true, rest)
  | item, [], steps + 1, rest, hsteps => by
    refine readItems_last (readValue_chars item ?_ (ends_cons (.inr (.inl rfl))))
    simp only [itemChars] at hsteps
    omega
  | item, next :: more, steps + 1, rest, hsteps => by
    simp only [itemChars, List.length_cons, List.length_append] at hsteps
    refine readItems_more (readValue_chars item ?_ (ends_cons (.inl rfl)))
      (readItems_chars next more ?_)
    · omega
    · omega

/-- So are the members of an object. -/
theorem readMembers_chars : ∀ (member : String × Value) (more : List (String × Value))
    {steps : Nat} {rest : List Char}, (memberChars (member :: more)).length < steps →
      readMembers steps (memberChars (member :: more) ++ '\x7d' :: rest) =
        (toMembers (member :: more), true, rest)
  | member, [], steps + 1, rest, hsteps => by
    simp only [memberChars, List.length_cons, List.length_append] at hsteps
    refine readMembers_last (readValue_chars member.2 ?_ (ends_cons (.inr (.inr rfl))))
    omega
  | member, next :: more, steps + 1, rest, hsteps => by
    simp only [memberChars, List.length_cons, List.length_append] at hsteps
    refine readMembers_more (readValue_chars member.2 ?_ (ends_cons (.inl rfl)))
      (readMembers_chars next more ?_)
    · omega
    · omega
end

/-- The text of a value is read back, and nothing follows it. -/
theorem readTree_text (value : Value) : readTree value.text = (value.toTree, true) := by
  have hread : readValue (2 * value.chars.length + 2) (value.chars ++ []) = (value.toTree, []) :=
    value.readValue_chars (by omega) ends_nil
  rw [List.append_nil] at hread
  rw [readTree, text, String.toList_ofList, hread]
  rfl

end Value

end ShellComposer.Json
