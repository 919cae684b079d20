import ShellComposer.Proofs.Rereading

/-!
# How JSON is spelled

The grammar of JSON says which texts spell which trees: numerals by their parts, strings by their
characters and escapes, arrays and objects by their items and members, with blanks anywhere between
the parts.  Whatever is spelled is read, and what follows it is left over.

Main results:

- Inductive relations `SpellsNumeral`, `SpellsString`, `Spells`: the grammar.
- Theorems `Numeral.read_append` and `readPieces_append`: numerals and strings are read from their
  spellings, and by `Numeral.spellsNumeral_of_read` and `spellsString_of_readString` from nothing
  else.
- Theorem `readFrom_of_spells`: so is every part of a text.
- Theorem `readTree_of_spells`: so is the tree of a whole text, which spells no other by
  `eq_of_spells`.
-/

namespace ShellComposer.Json

variable {rest cs ds es fs : List Char} {steps : Nat}

/-! ## Numerals -/

/-- The whole part of a numeral: zero alone, or digits that do not start with zero. -/
structure IsWhole (ds : List Char) : Prop where
  nonempty : ds ≠ []
  digits : ∀ c ∈ ds, c.isDigit = true
  plain : ∀ c more, ds ≠ '0' :: c :: more

/-- The fraction of a numeral, or nothing. -/
inductive SpellsFraction : Option (List Char) → List Char → Prop where
  | without : SpellsFraction none []
  | digits {ds : List Char} (hsome : ds ≠ []) (hdigits : ∀ c ∈ ds, c.isDigit = true) :
      SpellsFraction (some ds) ('.' :: ds)

/-- The sign of an exponent; no sign is a plus. -/
inductive SpellsSign : Bool → List Char → Prop where
  | minus : SpellsSign true ['-']
  | plus : SpellsSign false ['+']
  | without : SpellsSign false []

/-- The exponent of a numeral, or nothing. -/
inductive SpellsExponent : Option (Bool × List Char) → List Char → Prop where
  | without : SpellsExponent none []
  | digits {letter : Char} {negative : Bool} {sign ds : List Char}
      (hletter : letter = 'e' ∨ letter = 'E') (hsign : SpellsSign negative sign) (hsome : ds ≠ [])
      (hdigits : ∀ c ∈ ds, c.isDigit = true) :
      SpellsExponent (some (negative, ds)) (letter :: (sign ++ ds))

/-- A numeral: its whole part, its fraction and its exponent, after a minus where it is negative. -/
inductive SpellsNumeral : Numeral → List Char → Prop where
  | positive {whole fs es : List Char} {fraction : Option (List Char)}
      {exponent : Option (Bool × List Char)} (hwhole : IsWhole whole)
      (hfraction : SpellsFraction fraction fs) (hexponent : SpellsExponent exponent es) :
      SpellsNumeral ⟨false, whole, fraction, exponent⟩ (whole ++ (fs ++ es))
  | negative {whole fs es : List Char} {fraction : Option (List Char)}
      {exponent : Option (Bool × List Char)} (hwhole : IsWhole whole)
      (hfraction : SpellsFraction fraction fs) (hexponent : SpellsExponent exponent es) :
      SpellsNumeral ⟨true, whole, fraction, exponent⟩ ('-' :: (whole ++ (fs ++ es)))

/-- Text that does not continue a numeral. -/
def Apart (rest : List Char) : Prop :=
  ∀ c ∈ rest.head?, c.isDigit = false ∧ c ≠ '.' ∧ c ≠ 'e' ∧ c ≠ 'E'

namespace Numeral

variable {whole : List Char} {fraction : Option (List Char)}
variable {exponent : Option (Bool × List Char)} {numeral : Numeral}

/-! ### Spelled, so read -/

/-- A whole part is read up to the first character that is no digit. -/
theorem readWhole_append (h : IsWhole whole) (hrest : ∀ c ∈ rest.head?, c.isDigit = false) :
    readWhole (whole ++ rest) = some (whole, rest) := by
  rw [readWhole, spanDigits_append h.digits hrest]
  split
  · rename_i hnil
    exact absurd (Prod.mk.inj hnil).1 h.nonempty
  · rename_i hzero
    exact absurd (Prod.mk.inj hzero).1 (h.plain _ _)
  · rename_i hsame
    rw [hsame]

/-- A spelled fraction is read back. -/
theorem readFraction_append (h : SpellsFraction fraction fs)
    (hrest : ∀ c ∈ rest.head?, c.isDigit = false ∧ c ≠ '.') :
    readFraction (fs ++ rest) = some (fraction, rest) := by
  cases h with
  | without =>
    rw [List.nil_append]
    unfold readFraction
    split
    · exact absurd rfl (hrest '.' rfl).2
    · rfl
  | @digits ds hsome hdigits =>
    rw [List.cons_append, readFraction, spanDigits_append hdigits fun c hc => (hrest c hc).1]
    cases ds with
    | nil => exact absurd rfl hsome
    | cons d ds => rfl

/-- A spelled sign is read back. -/
theorem readSign_append {negative : Bool} {sign : List Char} (h : SpellsSign negative sign)
    (hds : ds ≠ []) (hdigits : ∀ c ∈ ds, c.isDigit = true) (rest : List Char) :
    readSign (sign ++ (ds ++ rest)) = (negative, ds ++ rest) := by
  cases h with
  | minus => rfl
  | plus => rfl
  | without =>
    rcases List.exists_cons_of_ne_nil hds with ⟨d, more, rfl⟩
    have hd := hdigits d List.mem_cons_self
    rw [List.nil_append, List.cons_append]
    unfold readSign
    split
    · rename_i heq
      rw [(List.cons.inj heq).1] at hd
      exact absurd hd (by decide)
    · rename_i heq
      rw [(List.cons.inj heq).1] at hd
      exact absurd hd (by decide)
    · rfl

/-- A spelled exponent is read back. -/
theorem readExponent_append (h : SpellsExponent exponent es) (hrest : Apart rest) :
    readExponent (es ++ rest) = some (exponent, rest) := by
  cases h with
  | without =>
    rw [List.nil_append]
    cases rest with
    | nil => rfl
    | cons c more =>
      have hc := hrest c rfl
      rw [readExponent, if_neg]
      simp [hc.2.2.1, hc.2.2.2]
  | @digits letter negative sign ds hletter hsign hsome hdigits =>
    have hexponent : (letter == 'e' || letter == 'E') = true := by
      rcases hletter with rfl | rfl <;> rfl
    have hspan := spanDigits_append hdigits fun c hc => (hrest c hc).1
    rw [List.cons_append, List.append_assoc, readExponent, if_pos hexponent,
      readSign_append hsign hsome hdigits]
    simp only [hspan]

/-- What may follow a part of a numeral is another part, or text apart from it. -/
theorem apart_of_apart (h : SpellsExponent exponent es) (hrest : Apart rest) :
    ∀ c ∈ (es ++ rest).head?, c.isDigit = false ∧ c ≠ '.' := by
  cases h with
  | without => exact fun c hc => ⟨(hrest c hc).1, (hrest c hc).2.1⟩
  | digits hletter _ _ _ =>
    intro c hc
    obtain rfl := Option.some.inj hc
    rcases hletter with rfl | rfl <;> exact ⟨rfl, by decide⟩

theorem not_isDigit_of_spellsFraction (h : SpellsFraction fraction fs)
    (hrest : ∀ c ∈ rest.head?, c.isDigit = false ∧ c ≠ '.') :
    ∀ c ∈ (fs ++ rest).head?, c.isDigit = false := by
  cases h with
  | without => exact fun c hc => (hrest c hc).1
  | digits _ _ =>
    intro c hc
    obtain rfl := Option.some.inj hc
    rfl

theorem ne_minus_of_isWhole (h : IsWhole whole) (rest : List Char) :
    ∀ more, whole ++ rest ≠ '-' :: more := by
  rcases List.exists_cons_of_ne_nil h.nonempty with ⟨d, ds, rfl⟩
  intro more hcons
  have hd := h.digits d List.mem_cons_self
  rw [(List.cons.inj hcons).1] at hd
  exact absurd hd (by decide)

/-- Read a numeral behind its sign. -/
def readUnsigned (negative : Bool) (cs : List Char) : Option (Numeral × List Char) := do
  let (whole, cs) ← readWhole cs
  let (fraction, cs) ← readFraction cs
  let (exponent, cs) ← readExponent cs
  return (⟨negative, whole, fraction, exponent⟩, cs)

theorem read_minus (cs : List Char) : read ('-' :: cs) = readUnsigned true cs :=
  rfl

theorem read_plain (h : ∀ more, cs ≠ '-' :: more) : read cs = readUnsigned false cs := by
  rw [read]
  · rfl
  · exact h

/-- A spelled numeral is read back but for its sign. -/
theorem readUnsigned_append (hwhole : IsWhole whole) (hfraction : SpellsFraction fraction fs)
    (hexponent : SpellsExponent exponent es) (hrest : Apart rest) (negative : Bool) :
    readUnsigned negative (whole ++ (fs ++ (es ++ rest))) =
      some (⟨negative, whole, fraction, exponent⟩, rest) := by
  have hafter := apart_of_apart hexponent hrest
  rw [readUnsigned,
    readWhole_append hwhole (not_isDigit_of_spellsFraction hfraction hafter)]
  simp only [Option.bind_eq_bind, Option.bind_some, readFraction_append hfraction hafter,
    readExponent_append hexponent hrest]
  rfl

/-- A numeral is read from its spelling, whatever is apart from it. -/
theorem read_append (h : SpellsNumeral numeral cs) (hrest : Apart rest) :
    read (cs ++ rest) = some (numeral, rest) := by
  cases h with
  | positive hwhole hfraction hexponent =>
    rw [List.append_assoc, List.append_assoc, read_plain (ne_minus_of_isWhole hwhole _)]
    exact readUnsigned_append hwhole hfraction hexponent hrest false
  | negative hwhole hfraction hexponent =>
    rw [List.cons_append, List.append_assoc, List.append_assoc, read_minus]
    exact readUnsigned_append hwhole hfraction hexponent hrest true

/-! ### Read, so spelled -/

/-- Digits are the first characters of a text. -/
theorem append_of_spanDigits (h : spanDigits cs = (ds, rest)) :
    cs = ds ++ rest ∧ ∀ c ∈ ds, c.isDigit = true := by
  obtain ⟨rfl, rfl⟩ := Prod.mk.inj h
  exact ⟨List.takeWhile_append_dropWhile.symm, List.all_eq_true.1 List.all_takeWhile⟩

/-- What is read as a whole part is one. -/
theorem isWhole_of_readWhole (h : readWhole cs = some (whole, rest)) :
    IsWhole whole ∧ cs = whole ++ rest := by
  rw [readWhole] at h
  split at h
  · simp at h
  · simp at h
  · rename_i hsome hzero hspan
    obtain ⟨rfl, rfl⟩ := Prod.mk.inj (Option.some.inj h)
    rcases append_of_spanDigits hspan with ⟨hcs, hdigits⟩
    exact ⟨⟨hsome, hdigits, hzero⟩, hcs⟩

/-- What a fraction is read from spells it. -/
theorem spellsFraction_of_readFraction (h : readFraction cs = some (fraction, rest)) :
    ∃ fs, SpellsFraction fraction fs ∧ cs = fs ++ rest := by
  unfold readFraction at h
  split at h
  · split at h
    · simp at h
    · rename_i hsome hspan
      obtain ⟨rfl, rfl⟩ := Prod.mk.inj (Option.some.inj h)
      rcases append_of_spanDigits hspan with ⟨rfl, hdigits⟩
      exact ⟨_, .digits hsome hdigits, rfl⟩
  · obtain ⟨rfl, rfl⟩ := Prod.mk.inj (Option.some.inj h)
    exact ⟨[], .without, rfl⟩

/-- What a sign is read from spells it. -/
theorem spellsSign_of_readSign {negative : Bool} (h : readSign cs = (negative, rest)) :
    ∃ sign, SpellsSign negative sign ∧ cs = sign ++ rest := by
  unfold readSign at h
  split at h
  · obtain ⟨rfl, rfl⟩ := Prod.mk.inj h
    exact ⟨['-'], .minus, rfl⟩
  · obtain ⟨rfl, rfl⟩ := Prod.mk.inj h
    exact ⟨['+'], .plus, rfl⟩
  · obtain ⟨rfl, rfl⟩ := Prod.mk.inj h
    exact ⟨[], .without, rfl⟩

/-- What an exponent is read from spells it. -/
theorem spellsExponent_of_readExponent (h : readExponent cs = some (exponent, rest)) :
    ∃ es, SpellsExponent exponent es ∧ cs = es ++ rest := by
  cases cs with
  | nil =>
    obtain ⟨rfl, rfl⟩ := Prod.mk.inj (Option.some.inj h)
    exact ⟨[], .without, rfl⟩
  | cons letter more =>
    rw [readExponent] at h
    split at h
    · rename_i hletter
      have hletter' : letter = 'e' ∨ letter = 'E' := by
        rwa [Bool.or_eq_true, beq_iff_eq, beq_iff_eq] at hletter
      rcases hsigned : readSign more with ⟨negative, signed⟩
      rcases spellsSign_of_readSign hsigned with ⟨sign, hsign, rfl⟩
      simp only [hsigned] at h
      split at h
      · simp at h
      · rename_i hsome hspan
        obtain ⟨rfl, rfl⟩ := Prod.mk.inj (Option.some.inj h)
        rcases append_of_spanDigits hspan with ⟨rfl, hdigits⟩
        exact ⟨_, .digits hletter' hsign hsome hdigits, by rw [List.cons_append, List.append_assoc]⟩
    · obtain ⟨rfl, rfl⟩ := Prod.mk.inj (Option.some.inj h)
      exact ⟨[], .without, rfl⟩

/-- What a numeral is read from spells its parts. -/
theorem spells_of_readUnsigned {negative : Bool}
    (h : readUnsigned negative cs = some (numeral, rest)) :
    ∃ whole fs es fraction exponent, IsWhole whole ∧ SpellsFraction fraction fs ∧
      SpellsExponent exponent es ∧ numeral = ⟨negative, whole, fraction, exponent⟩ ∧
      cs = whole ++ (fs ++ es) ++ rest := by
  rw [readUnsigned] at h
  simp only [Option.bind_eq_bind, Option.bind_eq_some_iff, Prod.exists] at h
  rcases h with ⟨whole, cs₁, hreadWhole, fraction, cs₂, hreadFraction, exponent, cs₃,
    hreadExponent, hresult⟩
  obtain ⟨rfl, rfl⟩ := Prod.mk.inj (Option.some.inj hresult)
  rcases isWhole_of_readWhole hreadWhole with ⟨hwhole, rfl⟩
  rcases spellsFraction_of_readFraction hreadFraction with ⟨fs, hfraction, rfl⟩
  rcases spellsExponent_of_readExponent hreadExponent with ⟨es, hexponent, rfl⟩
  exact ⟨whole, fs, es, fraction, exponent, hwhole, hfraction, hexponent, rfl, by
    rw [List.append_assoc, List.append_assoc]⟩

/-- What is read as a numeral spells it. -/
theorem spellsNumeral_of_read (h : read cs = some (numeral, rest)) :
    ∃ ns, SpellsNumeral numeral ns ∧ cs = ns ++ rest := by
  by_cases hminus : ∃ more, cs = '-' :: more
  · rcases hminus with ⟨more, rfl⟩
    rw [read_minus] at h
    rcases spells_of_readUnsigned h with
      ⟨whole, fs, es, fraction, exponent, hwhole, hfraction, hexponent, rfl, rfl⟩
    exact ⟨_, .negative hwhole hfraction hexponent, rfl⟩
  · rw [read_plain (not_exists.1 hminus)] at h
    rcases spells_of_readUnsigned h with
      ⟨whole, fs, es, fraction, exponent, hwhole, hfraction, hexponent, rfl, rfl⟩
    exact ⟨_, .positive hwhole hfraction hexponent, rfl⟩

end Numeral

/-! ## Strings -/

/-- The characters between the quotes of a string, piece by piece: a plain character, an escape of
one letter, or an escape by the code of a unit. -/
inductive SpellsPieces : List Piece → List Char → Prop where
  | nil : SpellsPieces [] []
  | plain {c : Char} {pieces : List Piece} {cs : List Char} (hquote : c ≠ '"') (hslash : c ≠ '\\')
      (hcontrol : ¬ c.toNat < 0x20) (more : SpellsPieces pieces cs) :
      SpellsPieces (.char c :: pieces) (c :: cs)
  | letter {letter c : Char} {pieces : List Piece} {cs : List Char}
      (hescape : escaped? letter = some c) (more : SpellsPieces pieces cs) :
      SpellsPieces (.char c :: pieces) ('\\' :: letter :: cs)
  | code {a b c d : Char} {code : Nat} {pieces : List Piece} {cs : List Char}
      (hcode : unit? a b c d = some code) (more : SpellsPieces pieces cs) :
      SpellsPieces (.unit code :: pieces) ('\\' :: 'u' :: a :: b :: c :: d :: cs)

/-- A string in its quotes.  It has no text when its units make no characters. -/
inductive SpellsString : Option String → List Char → Prop where
  | quoted {pieces : List Piece} {cs : List Char} (h : SpellsPieces pieces cs) :
      SpellsString ((assemble pieces).map String.ofList) ('"' :: (cs ++ ['"']))

/-- A string is read from its spelling, whatever follows it. -/
theorem readPieces_append {pieces : List Piece} (h : SpellsPieces pieces cs) (rest : List Char) :
    readPieces (cs ++ '"' :: rest) = some (pieces, rest) := by
  induction h with
  | nil => rfl
  | plain hquote hslash hcontrol _ ih =>
    rw [List.cons_append, readPieces_plain hquote hslash hcontrol, ih]
    rfl
  | @letter letter _ _ _ hescape _ ih =>
    have hletter : letter ≠ 'u' := by
      rintro rfl
      simp [escaped?] at hescape
    rw [List.cons_append, List.cons_append, readPieces_letter hletter hescape, ih]
    rfl
  | code hcode _ ih =>
    simp only [List.cons_append]
    rw [readPieces, hcode, ih]
    rfl

/-- What is read as a string spells it. -/
theorem spellsPieces_of_readPieces {pieces : List Piece}
    (h : readPieces cs = some (pieces, rest)) :
    ∃ front, SpellsPieces pieces front ∧ cs = front ++ '"' :: rest := by
  fun_induction readPieces cs generalizing pieces rest with
  | case1 => simp at h
  | case2 =>
    obtain ⟨rfl, rfl⟩ := Prod.mk.inj (Option.some.inj h)
    exact ⟨[], .nil, rfl⟩
  | case3 a b c d more ih =>
    simp only [Option.bind_eq_bind, Option.bind_eq_some_iff, Prod.exists] at h
    rcases h with ⟨code, hcode, pieces', rest', hmore, hresult⟩
    obtain ⟨rfl, rfl⟩ := Prod.mk.inj (Option.some.inj hresult)
    rcases ih hmore with ⟨front, hfront, rfl⟩
    exact ⟨_, .code hcode hfront, rfl⟩
  | case4 letter more _ ih =>
    simp only [Option.bind_eq_bind, Option.bind_eq_some_iff, Prod.exists] at h
    rcases h with ⟨c, hescape, pieces', rest', hmore, hresult⟩
    obtain ⟨rfl, rfl⟩ := Prod.mk.inj (Option.some.inj hresult)
    rcases ih hmore with ⟨front, hfront, rfl⟩
    exact ⟨_, .letter hescape hfront, rfl⟩
  | case5 => simp at h
  | case6 => simp at h
  | case7 c more hquote _ hescape hend hcontrol ih =>
    simp only [Option.bind_eq_bind, Option.bind_eq_some_iff, Prod.exists] at h
    rcases h with ⟨pieces', rest', hmore, hresult⟩
    obtain ⟨rfl, rfl⟩ := Prod.mk.inj (Option.some.inj hresult)
    have hslash : c ≠ '\\' := by
      intro hc
      cases more with
      | nil => exact hend hc rfl
      | cons next rest => exact hescape next rest hc rfl
    rcases ih hmore with ⟨front, hfront, rfl⟩
    exact ⟨_, .plain hquote hslash hcontrol hfront, rfl⟩

/-- A spelled string is read back. -/
theorem readString_append {text : Option String} (h : SpellsString text ('"' :: cs))
    (rest : List Char) : readString (cs ++ rest) = some (text, rest) := by
  cases h with
  | quoted hpieces =>
    rw [List.append_assoc, List.singleton_append, readString, readPieces_append hpieces]
    rfl

/-- What a string is read from spells it. -/
theorem spellsString_of_readString {text : Option String} (h : readString cs = some (text, rest)) :
    ∃ front, SpellsString text ('"' :: front) ∧ cs = front ++ rest := by
  rw [readString] at h
  simp only [Option.bind_eq_bind, Option.bind_eq_some_iff, Prod.exists] at h
  rcases h with ⟨pieces, rest', hpieces, hresult⟩
  obtain ⟨rfl, rfl⟩ := Prod.mk.inj (Option.some.inj hresult)
  rcases spellsPieces_of_readPieces hpieces with ⟨front, hfront, rfl⟩
  exact ⟨_, .quoted hfront, by rw [List.append_assoc, List.singleton_append]⟩

/-! ## Values -/

/-- Blanks between the parts of a text. -/
def IsGap (cs : List Char) : Prop :=
  ∀ c ∈ cs, isGap c = true

/-- What a text spells: a value, a value with blanks around it, the items of an array, a member of
an object or all its members. -/
inductive Part where
  | value (tree : Tree)
  | spaced (tree : Tree)
  | items (items : List Tree)
  | member (member : Member)
  | members (members : List Member)

/-- The texts of JSON values and of their parts. -/
inductive Spells : Part → List Char → Prop where
  | null : Spells (.value .null) ['n', 'u', 'l', 'l']
  | yes : Spells (.value (.bool true)) ['t', 'r', 'u', 'e']
  | no : Spells (.value (.bool false)) ['f', 'a', 'l', 's', 'e']
  | number {numeral : Numeral} {cs : List Char} (h : SpellsNumeral numeral cs) :
      Spells (.value (.number numeral)) cs
  | string {text : Option String} {cs : List Char} (h : SpellsString text cs) :
      Spells (.value (.string text)) cs
  | emptyArray {gap : List Char} (hgap : IsGap gap) :
      Spells (.value (.array [] true)) ('[' :: (gap ++ [']']))
  | array {items : List Tree} {cs : List Char} (h : Spells (.items items) cs) :
      Spells (.value (.array items true)) ('[' :: (cs ++ [']']))
  | emptyObject {gap : List Char} (hgap : IsGap gap) :
      Spells (.value (.object [] true)) ('\x7b' :: (gap ++ ['\x7d']))
  | object {members : List Member} {cs : List Char} (h : Spells (.members members) cs) :
      Spells (.value (.object members true)) ('\x7b' :: (cs ++ ['\x7d']))
  | spaced {tree : Tree} {before cs after : List Char} (hbefore : IsGap before)
      (h : Spells (.value tree) cs) (hafter : IsGap after) :
      Spells (.spaced tree) (before ++ (cs ++ after))
  | lastItem {item : Tree} {cs : List Char} (h : Spells (.spaced item) cs) :
      Spells (.items [item]) cs
  | moreItems {item : Tree} {items : List Tree} {cs ds : List Char}
      (h : Spells (.spaced item) cs) (hmore : Spells (.items items) ds) :
      Spells (.items (item :: items)) (cs ++ ',' :: ds)
  | member {name : Option String} {tree : Tree} {before ns after cs : List Char}
      (hbefore : IsGap before) (hname : SpellsString name ns) (hafter : IsGap after)
      (h : Spells (.spaced tree) cs) :
      Spells (.member (name, tree)) (before ++ (ns ++ (after ++ ':' :: cs)))
  | lastMember {member : Member} {cs : List Char} (h : Spells (.member member) cs) :
      Spells (.members [member]) cs
  | moreMembers {member : Member} {members : List Member} {cs ds : List Char}
      (h : Spells (.member member) cs) (hmore : Spells (.members members) ds) :
      Spells (.members (member :: members)) (cs ++ ',' :: ds)

/-! ### Blanks -/

/-- A gap in front is skipped. -/
theorem skipGap_append (hgap : IsGap cs) (rest : List Char) : skipGap (cs ++ rest) = skipGap rest :=
  List.dropWhile_append_of_pos hgap

theorem skipGap_skipGap (cs : List Char) : skipGap (skipGap cs) = skipGap cs := by
  induction cs with
  | nil => rfl
  | cons c cs ih =>
    by_cases hc : isGap c = true
    · have hskip : skipGap (c :: cs) = skipGap cs := List.dropWhile_cons_of_pos hc
      rw [hskip, ih]
    · have hskip : skipGap (c :: cs) = c :: cs := skipGap_cons (Bool.eq_false_iff.2 hc) cs
      rw [hskip, hskip]

/-- Skipping stops at what starts a value. -/
theorem skipGap_append_of_starts (h : Starts (skipGap cs)) (rest : List Char) :
    skipGap (cs ++ rest) = skipGap cs ++ rest := by
  rcases h with ⟨c, more, hcons, -⟩
  rw [skipGap, List.dropWhile_append, if_neg]
  · rfl
  · rw [show cs.dropWhile isGap = c :: more from hcons]
    simp

/-- Blanks are passed over in front of a value, of items and of members. -/
theorem readValue_skipGap (steps : Nat) (cs : List Char) :
    readValue steps (skipGap cs) = readValue steps cs := by
  cases steps with
  | zero => rfl
  | succ steps => rw [readValue, readValue, skipGap_skipGap]

/-- A gap in front of the items of an array does not count. -/
theorem readItems_skipGap (steps : Nat) (cs : List Char) :
    readItems steps (skipGap cs) = readItems steps cs := by
  cases steps with
  | zero => rfl
  | succ steps => rw [readItems, readItems, readValue_skipGap]

/-- Nor does a gap in front of the members of an object. -/
theorem readMembers_skipGap (steps : Nat) (cs : List Char) :
    readMembers steps (skipGap cs) = readMembers steps cs := by
  cases steps with
  | zero => rfl
  | succ steps => rw [readMembers, readMembers, skipGap_skipGap]

theorem apart_nil : Apart [] :=
  fun c hc => by simp at hc

theorem apart_of_ends (hrest : Ends rest) : Apart rest := by
  intro c hc
  rcases hrest c hc with rfl | rfl | rfl <;> decide

theorem apart_gap (hgap : IsGap cs) (hrest : Apart rest) : Apart (cs ++ rest) := by
  cases cs with
  | nil => exact hrest
  | cons c cs =>
    intro c' hc'
    obtain rfl := Option.some.inj hc'
    have hc := hgap c List.mem_cons_self
    simp only [isGap, Bool.or_eq_true, beq_iff_eq] at hc
    rcases hc with ((rfl | rfl) | rfl) | rfl <;> decide

/-! ### Beginnings -/

/-- A numeral starts with a minus or a digit. -/
theorem exists_cons_of_spellsNumeral {numeral : Numeral} (h : SpellsNumeral numeral cs) :
    ∃ c more, cs = c :: more ∧ (c = '-' ∨ c.isDigit = true) := by
  cases h with
  | negative => exact ⟨_, _, rfl, .inl rfl⟩
  | positive hwhole =>
    rcases List.exists_cons_of_ne_nil hwhole.nonempty with ⟨d, ds, rfl⟩
    exact ⟨_, _, rfl, .inr (hwhole.digits d List.mem_cons_self)⟩

/-- What spells a numeral starts a value. -/
theorem starts_of_spellsNumeral {numeral : Numeral} (h : SpellsNumeral numeral cs) : Starts cs := by
  rcases exists_cons_of_spellsNumeral h with ⟨c, more, rfl, rfl | hc⟩
  · exact starts_of_cons rfl (by decide) (by decide)
  · refine starts_of_cons (isGap_of_isDigit hc) ?_ ?_
    · rintro rfl
      exact absurd hc (by decide)
    · rintro rfl
      exact absurd hc (by decide)

theorem exists_cons_of_spellsString {text : Option String} (h : SpellsString text cs) :
    ∃ more, cs = '"' :: more := by
  cases h with
  | quoted => exact ⟨_, rfl⟩

/-- What is between the quotes makes one text only. -/
theorem eq_of_spellsString {text text' : Option String} (h : SpellsString text cs)
    (h' : SpellsString text' cs) : text = text' := by
  rcases exists_cons_of_spellsString h with ⟨more, rfl⟩
  have hread := (readString_append h []).symm.trans (readString_append h' [])
  exact (Prod.mk.inj (Option.some.inj hread)).1

/-- So does what spells a string. -/
theorem starts_of_spellsString {text : Option String} (h : SpellsString text cs) : Starts cs := by
  cases h with
  | quoted => exact starts_of_cons rfl (by decide) (by decide)

/-- A value starts with no blank and no closing bracket. -/
theorem starts_of_spells_value {tree : Tree} (h : Spells (.value tree) cs) : Starts cs := by
  cases h with
  | number h => exact starts_of_spellsNumeral h
  | string h => exact starts_of_spellsString h
  | _ => exact starts_of_cons rfl (by decide) (by decide)

/-- A gap in front of the start of a value is skipped, and nothing else. -/
theorem skipGap_behind {gap : List Char} (hgap : IsGap gap) (h : Starts cs) (rest : List Char) :
    skipGap (gap ++ (cs ++ rest)) = cs ++ rest := by
  rw [skipGap_append hgap, (h.append rest).skipGap]

/-- Items and members start so behind the blanks in front of them. -/
theorem starts_of_spells_spaced {tree : Tree} (h : Spells (.spaced tree) cs) :
    Starts (skipGap cs) := by
  cases h with
  | @spaced _ before cs after hbefore h hafter =>
    rw [skipGap_behind hbefore (starts_of_spells_value h)]
    exact (starts_of_spells_value h).append after

theorem starts_of_spells_member {member : Member} (h : Spells (.member member) cs) :
    Starts (skipGap cs) := by
  cases h with
  | @member _ _ before ns after cs hbefore hname hafter h =>
    rw [skipGap_behind hbefore (starts_of_spellsString hname)]
    exact (starts_of_spellsString hname).append _

theorem starts_of_spells_items {items : List Tree} (h : Spells (.items items) cs) :
    Starts (skipGap cs) := by
  cases h with
  | lastItem h => exact starts_of_spells_spaced h
  | moreItems h _ =>
    have hstarts := starts_of_spells_spaced h
    rw [skipGap_append_of_starts hstarts]
    exact hstarts.append _

theorem starts_of_spells_members {members : List Member} (h : Spells (.members members) cs) :
    Starts (skipGap cs) := by
  cases h with
  | lastMember h => exact starts_of_spells_member h
  | moreMembers h _ =>
    have hstarts := starts_of_spells_member h
    rw [skipGap_append_of_starts hstarts]
    exact hstarts.append _

/-- Only finished trees are spelled. -/
theorem finished_of_spells {tree : Tree} (h : Spells (.value tree) cs) : tree.finished = true := by
  cases h <;> rfl

theorem finished_of_spells_spaced {tree : Tree} (h : Spells (.spaced tree) cs) :
    tree.finished = true := by
  cases h with
  | spaced _ h _ => exact finished_of_spells h

theorem finished_of_spells_member {member : Member} (h : Spells (.member member) cs) :
    member.2.finished = true := by
  cases h with
  | member _ _ _ h => exact finished_of_spells_spaced h

/-! ### Spelled, so read -/

/-- What it takes for a part to be read from a text: enough steps, and nothing behind a value that
would continue it. -/
def Part.ReadFrom (cs : List Char) : Part → Prop
  | value tree => ∀ (steps : Nat) {rest : List Char}, cs.length ≤ steps → Apart rest →
      readValue steps (cs ++ rest) = (tree, rest)
  | spaced tree => ∀ (steps : Nat) {rest : List Char}, cs.length ≤ steps → Apart rest →
      ∃ rest', readValue steps (cs ++ rest) = (tree, rest') ∧ skipGap rest' = skipGap rest
  | items trees => ∀ (steps : Nat) {rest : List Char}, cs.length < steps →
      readItems steps (cs ++ ']' :: rest) = (trees, true, rest)
  | member (name, tree) => ∀ (steps : Nat) {rest : List Char}, cs.length ≤ steps → Apart rest →
      ∃ ns named vs rest', skipGap (cs ++ rest) = '"' :: ns ∧
        readString ns = some (name, named) ∧ skipGap named = ':' :: vs ∧
        readValue steps vs = (tree, rest') ∧ skipGap rest' = skipGap rest
  | members pairs => ∀ (steps : Nat) {rest : List Char}, cs.length < steps →
      readMembers steps (cs ++ '\x7d' :: rest) = (pairs, true, rest)

section Steps

variable {item tree : Tree} {items : List Tree} {members : List Member} {name : Option String}
variable {rest' more ns named vs : List Char}

/-- The items of an array end at a closing bracket. -/
theorem readItems_stop (hitem : readValue steps cs = (item, rest'))
    (hfinished : item.finished = true) (hskip : skipGap rest' = ']' :: rest) :
    readItems (steps + 1) cs = ([item], true, rest) := by
  rw [readItems, hitem]
  simp only [hfinished, if_true, hskip]

/-- They go on behind a comma. -/
theorem readItems_goOn (hitem : readValue steps cs = (item, rest'))
    (hfinished : item.finished = true) (hskip : skipGap rest' = ',' :: more)
    (hmore : readItems steps more = (items, true, rest)) :
    readItems (steps + 1) cs = (item :: items, true, rest) := by
  rw [readItems, hitem]
  simp only [hfinished, if_true, hskip, hmore]

/-- The members of an object end at a closing brace. -/
theorem readMembers_stop (hopen : skipGap cs = '"' :: ns)
    (hname : readString ns = some (name, named)) (hcolon : skipGap named = ':' :: vs)
    (hvalue : readValue steps vs = (tree, rest')) (hfinished : tree.finished = true)
    (hskip : skipGap rest' = '\x7d' :: rest) :
    readMembers (steps + 1) cs = ([(name, tree)], true, rest) := by
  rw [readMembers, hopen]
  simp only [hname, hcolon, hvalue, hfinished, if_true, hskip]

/-- They go on behind a comma. -/
theorem readMembers_goOn (hopen : skipGap cs = '"' :: ns)
    (hname : readString ns = some (name, named)) (hcolon : skipGap named = ':' :: vs)
    (hvalue : readValue steps vs = (tree, rest')) (hfinished : tree.finished = true)
    (hskip : skipGap rest' = ',' :: more)
    (hmore : readMembers steps more = (members, true, rest)) :
    readMembers (steps + 1) cs = ((name, tree) :: members, true, rest) := by
  rw [readMembers, hopen]
  simp only [hname, hcolon, hvalue, hfinished, if_true, hskip, hmore]

/-- A spelled numeral is read as a value. -/
theorem readValue_numeral {numeral : Numeral} (h : SpellsNumeral numeral cs) (hrest : Apart rest) :
    readValue (steps + 1) (cs ++ rest) = (.number numeral, rest) := by
  have hread := Numeral.read_append h hrest
  have hskip := ((starts_of_spellsNumeral h).append rest).skipGap
  rcases exists_cons_of_spellsNumeral h with ⟨c, more, rfl, hc⟩
  rw [List.cons_append] at hread hskip ⊢
  rw [readValue, hskip]
  split
  case h_7 => rw [hread]
  all_goals
    rename_i heq
    obtain rfl := (List.cons.inj heq).1
    exact absurd hc (by decide)

/-- A spelled string is read as a value. -/
theorem readValue_quoted {text : Option String} (h : SpellsString text cs) :
    readValue (steps + 1) (cs ++ rest) = (.string text, rest) := by
  have hskip := ((starts_of_spellsString h).append rest).skipGap
  cases h with
  | @quoted pieces cs hpieces =>
    have hread := readString_append (.quoted hpieces) rest
    rw [List.cons_append] at hskip ⊢
    rw [readValue, hskip]
    simp only [hread]

/-- An array is read when its items are. -/
theorem readValue_bracketed (hstarts : Starts (skipGap cs))
    (hitems : readItems steps (cs ++ ']' :: rest) = (items, true, rest)) :
    readValue (steps + 1) ('[' :: (cs ++ ']' :: rest)) = (.array items true, rest) := by
  rw [← readItems_skipGap] at hitems
  have hopened := hstarts.append (']' :: rest)
  rw [← skipGap_append_of_starts hstarts] at hopened
  rcases hopened with ⟨c, more, hcons, -, hclosing, -⟩
  rw [hcons] at hitems
  rw [readValue, skipGap_cons rfl]
  simp only [hcons]
  split
  · rename_i hclosed
    exact absurd (List.cons.inj hclosed).1 hclosing
  · rw [hitems]

/-- An object is read when its members are. -/
theorem readValue_braced (hstarts : Starts (skipGap cs))
    (hmembers : readMembers steps (cs ++ '\x7d' :: rest) = (members, true, rest)) :
    readValue (steps + 1) ('\x7b' :: (cs ++ '\x7d' :: rest)) = (.object members true, rest) := by
  rw [← readMembers_skipGap] at hmembers
  have hopened := hstarts.append ('\x7d' :: rest)
  rw [← skipGap_append_of_starts hstarts] at hopened
  rcases hopened with ⟨c, more, hcons, -, -, hclosing⟩
  rw [hcons] at hmembers
  rw [readValue, skipGap_cons rfl]
  simp only [hcons]
  split
  · rename_i hclosed
    exact absurd (List.cons.inj hclosed).1 hclosing
  · rw [hmembers]

end Steps

namespace Part

section Constructors

variable {item tree : Tree} {items : List Tree} {member : Member} {members : List Member}
variable {name : Option String} {gap before ns after : List Char}

/-- A value takes a step to read, and has a character for it. -/
theorem readFrom_value (hstarts : Starts cs)
    (h : ∀ {steps : Nat} {rest : List Char}, cs.length ≤ steps + 1 → Apart rest →
      readValue (steps + 1) (cs ++ rest) = (tree, rest)) : (value tree).ReadFrom cs := by
  intro steps rest hsteps hrest
  cases steps with
  | zero =>
    rcases hstarts with ⟨c, more, rfl, -⟩
    simp at hsteps
  | succ steps => exact h hsteps hrest

theorem readFrom_emptyArray (hgap : IsGap gap) :
    (value (.array [] true)).ReadFrom ('[' :: (gap ++ [']'])) := by
  refine readFrom_value (starts_of_spells_value (.emptyArray hgap)) fun {_ rest} _ _ => ?_
  have hclosed : skipGap (gap ++ ']' :: rest) = ']' :: rest := by
    rw [skipGap_append hgap, skipGap_cons rfl]
  rw [List.cons_append, List.append_assoc, List.singleton_append, readValue, skipGap_cons rfl]
  simp only [hclosed]

theorem readFrom_emptyObject (hgap : IsGap gap) :
    (value (.object [] true)).ReadFrom ('\x7b' :: (gap ++ ['\x7d'])) := by
  refine readFrom_value (starts_of_spells_value (.emptyObject hgap)) fun {_ rest} _ _ => ?_
  have hclosed : skipGap (gap ++ '\x7d' :: rest) = '\x7d' :: rest := by
    rw [skipGap_append hgap, skipGap_cons rfl]
  rw [List.cons_append, List.append_assoc, List.singleton_append, readValue, skipGap_cons rfl]
  simp only [hclosed]

/-- The items of an array are shorter than the array by its brackets. -/
theorem readFrom_array (hitems : Spells (.items items) cs) (h : (Part.items items).ReadFrom cs) :
    (value (.array items true)).ReadFrom ('[' :: (cs ++ [']'])) := by
  refine readFrom_value (starts_of_spells_value (.array hitems)) fun hsteps _ => ?_
  rw [List.cons_append, List.append_assoc, List.singleton_append]
  refine readValue_bracketed (starts_of_spells_items hitems) (h _ ?_)
  simp only [List.length_cons, List.length_append, List.length_nil] at hsteps
  omega

/-- The members of an object are shorter than the object by its braces. -/
theorem readFrom_object (hmembers : Spells (.members members) cs)
    (h : (Part.members members).ReadFrom cs) :
    (value (.object members true)).ReadFrom ('\x7b' :: (cs ++ ['\x7d'])) := by
  refine readFrom_value (starts_of_spells_value (.object hmembers)) fun hsteps _ => ?_
  rw [List.cons_append, List.append_assoc, List.singleton_append]
  refine readValue_braced (starts_of_spells_members hmembers) (h _ ?_)
  simp only [List.length_cons, List.length_append, List.length_nil] at hsteps
  omega

/-- Blanks in front of a value are passed over, and those behind it are left over. -/
theorem readFrom_spaced (hbefore : IsGap before) (hafter : IsGap after)
    (h : (value tree).ReadFrom cs) : (spaced tree).ReadFrom (before ++ (cs ++ after)) := by
  intro steps rest hsteps hrest
  refine ⟨after ++ rest, ?_, skipGap_append hafter rest⟩
  have hlength : cs.length ≤ steps := by
    simp only [List.length_append] at hsteps
    omega
  have hread := h steps hlength (apart_gap hafter hrest)
  rw [List.append_assoc, List.append_assoc, ← readValue_skipGap, skipGap_append hbefore,
    readValue_skipGap, hread]

/-- The last item of an array ends its items. -/
theorem readFrom_lastItem (hfinished : item.finished = true) (h : (spaced item).ReadFrom cs) :
    (Part.items [item]).ReadFrom cs := by
  intro steps rest hsteps
  cases steps with
  | zero => simp at hsteps
  | succ steps =>
    rcases h steps (by omega) (apart_of_ends (ends_cons (.inr (.inl rfl)))) with
      ⟨rest', hread, hskip⟩
    exact readItems_stop hread hfinished
      (hskip.trans (skipGap_of_ends (ends_cons (.inr (.inl rfl)))))

/-- Each item but the last is followed by a comma, which leaves steps enough for the others. -/
theorem readFrom_moreItems (hfinished : item.finished = true) (h : (spaced item).ReadFrom cs)
    (hmore : (Part.items items).ReadFrom ds) :
    (Part.items (item :: items)).ReadFrom (cs ++ ',' :: ds) := by
  intro steps rest hsteps
  rw [List.length_append, List.length_cons] at hsteps
  cases steps with
  | zero => simp at hsteps
  | succ steps =>
    rw [List.append_assoc, List.cons_append]
    rcases h steps (by omega) (apart_of_ends (ends_cons (.inl rfl))) with ⟨rest', hread, hskip⟩
    exact readItems_goOn hread hfinished (hskip.trans (skipGap_of_ends (ends_cons (.inl rfl))))
      (hmore _ (by omega))

/-- A member is read from its name on, and then from its colon. -/
theorem readFrom_member (hbefore : IsGap before) (hname : SpellsString name ns)
    (hafter : IsGap after) (h : (spaced tree).ReadFrom cs) :
    (Part.member (name, tree)).ReadFrom (before ++ (ns ++ (after ++ ':' :: cs))) := by
  intro steps rest hsteps hrest
  simp only [List.length_append, List.length_cons] at hsteps
  rcases h steps (by omega) hrest with ⟨rest', hread, hskip⟩
  rcases hname with ⟨hpieces⟩
  rename_i pieces qs
  refine ⟨qs ++ '"' :: (after ++ ':' :: (cs ++ rest)), after ++ ':' :: (cs ++ rest), cs ++ rest,
    rest', ?_, ?_, ?_, hread, hskip⟩
  · simp only [List.append_assoc, List.cons_append, List.nil_append]
    rw [skipGap_append hbefore, skipGap_cons rfl]
  · rw [readString, readPieces_append hpieces]
    rfl
  · rw [skipGap_append hafter, skipGap_cons rfl]

/-- The last member of an object ends its members. -/
theorem readFrom_lastMember (hfinished : member.2.finished = true)
    (h : (Part.member member).ReadFrom cs) : (Part.members [member]).ReadFrom cs := by
  intro steps rest hsteps
  cases steps with
  | zero => simp at hsteps
  | succ steps =>
    rcases h steps (by omega) (apart_of_ends (ends_cons (.inr (.inr rfl)))) with
      ⟨ns, named, vs, rest', hopen, hname, hcolon, hvalue, hskip⟩
    exact readMembers_stop hopen hname hcolon hvalue hfinished
      (hskip.trans (skipGap_of_ends (ends_cons (.inr (.inr rfl)))))

/-- A member and the members behind the comma are read in turn. -/
theorem readFrom_moreMembers (hfinished : member.2.finished = true)
    (h : (Part.member member).ReadFrom cs) (hmore : (Part.members members).ReadFrom ds) :
    (Part.members (member :: members)).ReadFrom (cs ++ ',' :: ds) := by
  intro steps rest hsteps
  rw [List.length_append, List.length_cons] at hsteps
  cases steps with
  | zero => simp at hsteps
  | succ steps =>
    rw [List.append_assoc, List.cons_append]
    rcases h steps (by omega) (apart_of_ends (ends_cons (.inl rfl))) with
      ⟨ns, named, vs, rest', hopen, hname, hcolon, hvalue, hskip⟩
    exact readMembers_goOn hopen hname hcolon hvalue hfinished
      (hskip.trans (skipGap_of_ends (ends_cons (.inl rfl)))) (hmore _ (by omega))

end Constructors

end Part

/-- Whatever is spelled is read, by induction on the grammar. -/
theorem readFrom_of_spells {part : Part} (h : Spells part cs) : part.ReadFrom cs := by
  induction h with
  | null => exact Part.readFrom_value (starts_of_spells_value .null) fun _ _ => rfl
  | yes => exact Part.readFrom_value (starts_of_spells_value .yes) fun _ _ => rfl
  | no => exact Part.readFrom_value (starts_of_spells_value .no) fun _ _ => rfl
  | number h =>
    exact Part.readFrom_value (starts_of_spellsNumeral h) fun _ hrest => readValue_numeral h hrest
  | string h =>
    exact Part.readFrom_value (starts_of_spellsString h) fun _ _ => readValue_quoted h
  | emptyArray hgap => exact Part.readFrom_emptyArray hgap
  | array h ih => exact Part.readFrom_array h ih
  | emptyObject hgap => exact Part.readFrom_emptyObject hgap
  | object h ih => exact Part.readFrom_object h ih
  | spaced hbefore _ hafter ih => exact Part.readFrom_spaced hbefore hafter ih
  | lastItem h ih => exact Part.readFrom_lastItem (finished_of_spells_spaced h) ih
  | moreItems h _ ih ihmore =>
    exact Part.readFrom_moreItems (finished_of_spells_spaced h) ih ihmore
  | member hbefore hname hafter _ ih => exact Part.readFrom_member hbefore hname hafter ih
  | lastMember h ih => exact Part.readFrom_lastMember (finished_of_spells_member h) ih
  | moreMembers h _ ih ihmore =>
    exact Part.readFrom_moreMembers (finished_of_spells_member h) ih ihmore

/-- The tree that a text spells is read from it, and nothing else follows. -/
theorem readTree_of_spells {tree : Tree} {text : String} (h : Spells (.spaced tree) text.toList) :
    readTree text = (tree, true) := by
  rcases readFrom_of_spells h (2 * text.toList.length + 2) (by omega) apart_nil with
    ⟨rest, hread, hskip⟩
  rw [List.append_nil] at hread
  rw [readTree, hread]
  simp only [hskip]
  rfl

/-- A text spells one tree only. -/
theorem eq_of_spells {tree tree' : Tree} {text : String} (h : Spells (.spaced tree) text.toList)
    (h' : Spells (.spaced tree') text.toList) : tree = tree' :=
  (Prod.mk.inj ((readTree_of_spells h).symm.trans (readTree_of_spells h'))).1

end ShellComposer.Json
