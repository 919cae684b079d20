import ShellComposer.Proofs.Drafting
import ShellComposer.Proofs.Locating
import ShellComposer.Proofs.Reloading

/-!
# What a maximum denotes

The maximum of a cardinality is a plain number, a text with such a number in it, or the word for
none.  What each of them denotes is said here for the JSON text itself: which digits with which
value, which signs and blanks around them, which letters.  The decoder agrees with this for every
JSON value, whatever it is, so no text is taken for a number that it does not denote.  In a catalog,
a value that is given as the maximum of an operand either denotes the maximum of that operand, or
the catalog is refused.

Main results:

- Inductive relations `NamesMaximum` and `DenotesMaximum`: the texts and the JSON values that denote
  a maximum.
- Theorem `Maximum.ofText_eq_ok_iff`: a text is read as the maximum that it names.
- Theorem `Maximum.decode_eq_ok_iff`: a JSON value is decoded to the maximum that it denotes.
- Definition `maximumWay` and theorem `Definitions.decode_maximum`: where the maximum of an operand
  is given.
- Theorem `maximum_denoted`: what is given as a maximum in a catalog is what it denotes.
-/

namespace ShellComposer

open Json Json.Fields Catalog

/-! ## Texts -/

namespace Text

variable {text : String} {before core after : List Char} {c letter : Char}

/-- What is trimmed off a text are blanks at both ends. -/
theorem exists_trim (text : String) : ∃ before after, (∀ c ∈ before, isBlank c = true) ∧
    (∀ c ∈ after, isBlank c = true) ∧ text.toList = before ++ ((trim text).toList ++ after) := by
  let body := text.toList.dropWhile isBlank
  refine ⟨text.toList.takeWhile isBlank, (body.reverse.takeWhile isBlank).reverse, ?_, ?_, ?_⟩
  · exact List.all_eq_true.1 List.all_takeWhile
  · intro c hc
    exact List.all_eq_true.1 List.all_takeWhile c (List.mem_reverse.1 hc)
  · have hbody : body = (trim text).toList ++ (body.reverse.takeWhile isBlank).reverse := by
      rw [trim, String.toList_ofList, ← List.reverse_append, List.takeWhile_append_dropWhile,
        List.reverse_reverse]
    rw [← hbody, List.takeWhile_append_dropWhile]

/-- What is dropped from the front of a text ends where the core starts. -/
theorem dropWhile_append_of_head? {p : Char → Bool} (hbefore : ∀ c ∈ before, p c = true)
    (hhead : ∀ c ∈ core.head?, p c = false) : (before ++ core).dropWhile p = core := by
  rw [List.dropWhile_append_of_pos hbefore]
  cases core with
  | nil => rfl
  | cons c core => rw [List.dropWhile_cons_of_neg (by simp [hhead c rfl])]

/-- A text between blanks is what is left when the blanks are trimmed off, if no blank stands at its
own ends. -/
theorem toList_trim (htext : text.toList = before ++ (core ++ after))
    (hbefore : ∀ c ∈ before, isBlank c = true) (hafter : ∀ c ∈ after, isBlank c = true)
    (hcore : core ≠ []) (hhead : ∀ c ∈ core.head?, isBlank c = false)
    (hlast : ∀ c ∈ core.getLast?, isBlank c = false) : (trim text).toList = core := by
  have hfront : text.toList.dropWhile isBlank = core ++ after := by
    rw [htext, dropWhile_append_of_head? hbefore]
    intro c hc
    rw [List.head?_append_of_ne_nil _ hcore] at hc
    exact hhead c hc
  rw [trim, String.toList_ofList, hfront, List.reverse_append, dropWhile_append_of_head?,
    List.reverse_reverse]
  · exact fun c hc => hafter c (List.mem_reverse.1 hc)
  · rwa [List.head?_reverse]

/-- The code of a small letter is 32 above that of its capital. -/
theorem toNat_toLower (c : Char) : c.toLower.toNat =
    if 65 ≤ c.toNat ∧ c.toNat ≤ 90 then c.toNat + 32 else c.toNat := by
  unfold Char.toLower
  split
  · rename_i h
    have hc : 65 ≤ c.toNat ∧ c.toNat ≤ 90 := h
    have hsum : (c.val + 32).toNat = (c.toNat + 32) % 2 ^ 32 := UInt32.toNat_add _ _
    refine hsum.trans ?_
    rw [if_pos hc]
    omega
  · rename_i h
    exact (if_neg h).symm

/-- The code of a capital is 32 below that of its small letter. -/
theorem toNat_toUpper (c : Char) : c.toUpper.toNat =
    if 97 ≤ c.toNat ∧ c.toNat ≤ 122 then c.toNat - 32 else c.toNat := by
  unfold Char.toUpper
  split
  · rename_i h
    have hc : 97 ≤ c.toNat ∧ c.toNat ≤ 122 := h
    have hsum : (c.val + (0 - 32)).toNat = (c.toNat + 4294967264) % 2 ^ 32 :=
      UInt32.toNat_add _ _
    refine hsum.trans ?_
    rw [if_pos hc]
    omega
  · rename_i h
    exact (if_neg h).symm

/-- A small letter. -/
def IsSmall (letter : Char) : Prop :=
  97 ≤ letter.toNat ∧ letter.toNat ≤ 122

/-- A character made small is a small letter when it is that letter or its capital. -/
theorem toLower_eq_iff (hletter : IsSmall letter) :
    c.toLower = letter ↔ c = letter ∨ c = letter.toUpper := by
  have hrange : 97 ≤ letter.toNat ∧ letter.toNat ≤ 122 := hletter
  rw [← Char.toNat_inj, ← Char.toNat_inj, ← Char.toNat_inj, toNat_toLower, toNat_toUpper,
    if_pos hrange]
  split <;> omega

/-- A text made small is a small word when its characters are the letters of the word or their
capitals. -/
theorem map_toLower_eq_iff {cs word : List Char} (hword : ∀ l ∈ word, IsSmall l) :
    cs.map Char.toLower = word ↔ List.Forall₂ (fun c l => c = l ∨ c = l.toUpper) cs word := by
  induction word generalizing cs with
  | nil => rw [List.map_eq_nil_iff, List.forall₂_nil_right_iff]
  | cons letter word ih =>
    rw [List.forall_mem_cons] at hword
    cases cs with
    | nil => simp
    | cons c cs => rw [List.map_cons, List.cons.injEq, toLower_eq_iff hword.1, ih hword.2,
        List.forall₂_cons]

end Text

/-! ## Maxima -/

/-- The decimal digits of a number, with or without zeros in front. -/
structure DigitsOf (n : Nat) (ds : List Char) : Prop where
  nonempty : ds ≠ []
  digits : ∀ c ∈ ds, c.isDigit = true
  value : Nat.ofDigitChars 10 ds 0 = n

/-- The texts that name a maximum: the digits of a number of 32 bits, with or without a plus sign in
front and between any blanks, and the word for none, in small letters or capitals. -/
inductive NamesMaximum : List Char → Maximum → Prop where
  | number {before sign ds after : List Char} {n : UInt32}
      (hbefore : ∀ c ∈ before, Text.isBlank c = true) (hsign : sign = [] ∨ sign = ['+'])
      (hds : DigitsOf n.toNat ds) (hafter : ∀ c ∈ after, Text.isBlank c = true) :
      NamesMaximum (before ++ (sign ++ (ds ++ after))) (.limited n)
  | word {cs : List Char}
      (h : List.Forall₂ (fun c l => c = l ∨ c = l.toUpper) cs unlimitedWord.toList) :
      NamesMaximum cs .unlimited

/-- The JSON values that denote a maximum: the digits of a number of 32 bits, and a string with a
text that names a maximum. -/
inductive DenotesMaximum : List Char → Maximum → Prop where
  | number {ds : List Char} {n : UInt32} (hds : DigitsOf n.toNat ds) :
      DenotesMaximum ds (.limited n)
  | string {cs : List Char} {text : String} {m : Maximum} (hcs : SpellsString (some text) cs)
      (h : NamesMaximum text.toList m) : DenotesMaximum cs m

variable {text : String} {cs ds : List Char} {tree : Tree} {room n : Nat} {m : Maximum}

/-- Digits denote a number when there are some and all are digits. -/
theorem digitsOf_iff : DigitsOf n ds ↔ (if !ds.isEmpty && ds.all Char.isDigit
    then some (Numeral.digitsValue ds) else none) = some n := by
  simp only [Option.ite_none_right_eq_some, Bool.and_eq_true, Bool.not_eq_true',
    List.isEmpty_eq_false_iff, List.all_eq_true, Option.some.injEq]
  exact ⟨fun h => ⟨⟨h.nonempty, h.digits⟩, h.value⟩, fun h => ⟨h.1.1, h.1.2, h.2⟩⟩

/-- A digit is no plus sign. -/
theorem DigitsOf.ne_plus (h : DigitsOf n ds) (rest : List Char) : ds ≠ '+' :: rest := by
  rintro rfl
  exact absurd (h.digits _ List.mem_cons_self) (by decide)

/-- A text denotes a number by its digits, with a plus in front or without. -/
theorem digitsValue?_eq_some_iff : digitsValue? text = some n ↔
    ∃ sign ds, text.toList = sign ++ ds ∧ (sign = [] ∨ sign = ['+']) ∧ DigitsOf n ds := by
  unfold digitsValue?
  split
  · rename_i rest htext
    rw [htext]
    dsimp only
    rw [← digitsOf_iff]
    constructor
    · exact fun h => ⟨['+'], rest, rfl, .inr rfl, h⟩
    · rintro ⟨_, ds, htext, rfl | rfl, h⟩
      · exact absurd htext.symm (h.ne_plus rest)
      · rwa [(List.cons.inj htext).2]
  · rename_i hplus
    dsimp only
    rw [← digitsOf_iff]
    constructor
    · exact fun h => ⟨[], _, rfl, .inl rfl, h⟩
    · rintro ⟨_, ds, htext, rfl | rfl, h⟩
      · rwa [htext]
      · exact absurd htext (hplus ds)

/-- The word for none is made of small letters. -/
theorem isSmall_of_mem_unlimitedWord : ∀ l ∈ unlimitedWord.toList, Text.IsSmall l := by
  have hall : (unlimitedWord.toList.all fun l => 97 ≤ l.toNat && l.toNat ≤ 122) = true := rfl
  intro l hl
  have hletter := List.all_eq_true.1 hall l hl
  rwa [Bool.and_eq_true, decide_eq_true_eq, decide_eq_true_eq] at hletter

/-- A text is the word up to case when its small letters are those of the word. -/
theorem sameIgnoringCase_iff_map : Text.sameIgnoringCase text unlimitedWord = true ↔
    text.toList.map Char.toLower = unlimitedWord.toList := by
  have hword : unlimitedWord.toList.map Char.toLower = unlimitedWord.toList := rfl
  rw [Text.sameIgnoringCase, beq_iff_eq, Text.lowerLatin, Text.lowerLatin, hword,
    String.ofList_toList, ← String.toList_inj, String.toList_ofList]

/-- A text is the word up to case when it has each letter of it, small or capital. -/
theorem sameIgnoringCase_iff : Text.sameIgnoringCase text unlimitedWord = true ↔
    List.Forall₂ (fun c l => c = l ∨ c = l.toUpper) text.toList unlimitedWord.toList :=
  sameIgnoringCase_iff_map.trans (Text.map_toLower_eq_iff isSmall_of_mem_unlimitedWord)

/-- The codes of the digits follow each other. -/
theorem toNat_of_isDigit {d : Char} (h : d.isDigit = true) : 48 ≤ d.toNat ∧ d.toNat ≤ 57 := by
  simp only [Char.isDigit, Bool.and_eq_true, decide_eq_true_eq] at h
  exact ⟨h.1, h.2⟩

/-- No digit of a number and no sign in front of it is a blank. -/
theorem DigitsOf.not_isBlank {sign : List Char} (h : DigitsOf n ds)
    (hsign : sign = [] ∨ sign = ['+']) : ∀ c ∈ sign ++ ds, Text.isBlank c = false := by
  have hdigits : ∀ c ∈ ds, Text.isBlank c = false := by
    intro c hc
    have hdigit := toNat_of_isDigit (h.digits c hc)
    simp only [Text.isBlank, Bool.or_eq_false_iff, Bool.and_eq_false_iff, decide_eq_false_iff_not,
      beq_eq_false_iff_ne]
    omega
  rcases hsign with rfl | rfl
  · exact hdigits
  · exact List.forall_mem_cons.2 ⟨rfl, hdigits⟩

/-- No digit is a letter of the word for none, so no text names two maxima. -/
theorem not_sameIgnoringCase {before sign after : List Char}
    (htext : text.toList = before ++ (sign ++ (ds ++ after))) (h : DigitsOf n ds) :
    ¬ Text.sameIgnoringCase text unlimitedWord = true := by
  intro hsame
  rcases List.exists_cons_of_ne_nil h.nonempty with ⟨d, more, rfl⟩
  have hdigit := toNat_of_isDigit (h.digits d List.mem_cons_self)
  have hmem : d.toLower ∈ unlimitedWord.toList := by
    rw [← sameIgnoringCase_iff_map.1 hsame, htext]
    exact List.mem_map_of_mem (by simp)
  have hsmall : 97 ≤ d.toLower.toNat ∧ d.toLower.toNat ≤ 122 := isSmall_of_mem_unlimitedWord _ hmem
  rw [Text.toNat_toLower] at hsmall
  split at hsmall <;> omega

/-- A text is read as the maximum that it names. -/
theorem Catalog.Maximum.ofText_eq_ok_iff :
    Maximum.ofText text = .ok m ↔ NamesMaximum text.toList m := by
  unfold Maximum.ofText
  split
  · rename_i hsame
    constructor
    · intro hm
      obtain rfl := Except.ok.inj hm
      exact .word (sameIgnoringCase_iff.1 hsame)
    · intro hnames
      generalize htext : text.toList = cs at hnames
      cases hnames with
      | number _ _ hds _ => exact absurd hsame (not_sameIgnoringCase htext hds)
      | word _ => rfl
  · rename_i hsame
    constructor
    · intro hm
      split at hm
      · rename_i n hdigits
        split at hm
        · rename_i hn
          obtain rfl := Except.ok.inj hm
          rcases digitsValue?_eq_some_iff.1 hdigits with ⟨sign, ds, hcore, hsign, hds⟩
          rcases Text.exists_trim text with ⟨before, after, hbefore, hafter, htext⟩
          rw [htext, hcore, List.append_assoc]
          refine .number hbefore hsign ?_ hafter
          rwa [UInt32.toNat_ofNat_of_lt' hn]
        · cases hm
      · cases hm
    · intro hnames
      generalize htext : text.toList = cs at hnames
      cases hnames with
      | @number before sign ds after n hbefore hsign hds hafter =>
        have hblank := hds.not_isBlank hsign
        have htext' : text.toList = before ++ ((sign ++ ds) ++ after) := by
          rw [htext, List.append_assoc]
        have hcore : (Text.trim text).toList = sign ++ ds := by
          refine Text.toList_trim htext' hbefore hafter ?_ ?_ ?_
          · exact List.append_ne_nil_of_right_ne_nil _ hds.nonempty
          · exact fun c hc => hblank c (List.mem_of_mem_head? hc)
          · exact fun c hc => hblank c (List.mem_of_mem_getLast? hc)
        rw [digitsValue?_eq_some_iff.2 ⟨sign, ds, hcore, hsign, hds⟩]
        dsimp only
        rw [if_pos n.toNat_lt, UInt32.ofNat_toNat]
      | word h => exact absurd (sameIgnoringCase_iff.2 (htext ▸ h)) hsame

/-- What denotes a maximum starts with a digit or a quote. -/
theorem DenotesMaximum.exists_cons (h : DenotesMaximum cs m) :
    ∃ c more, cs = c :: more ∧ (c.isDigit = true ∨ c = '"') := by
  cases h with
  | number hds =>
    rcases List.exists_cons_of_ne_nil hds.nonempty with ⟨d, more, rfl⟩
    exact ⟨d, more, rfl, .inl (hds.digits d List.mem_cons_self)⟩
  | string hcs _ =>
    rcases exists_cons_of_spellsString hcs with ⟨more, rfl⟩
    exact ⟨_, more, rfl, .inr rfl⟩

/-- What starts with neither a digit nor a quote denotes no maximum. -/
theorem not_denotesMaximum {c : Char} {more : List Char} (hdigit : c.isDigit = false)
    (hquote : c ≠ '"') : ¬ DenotesMaximum (c :: more) m := by
  intro h
  rcases h.exists_cons with ⟨d, more', hcons, hd | hd⟩
  · rw [← (List.cons.inj hcons).1, hdigit] at hd
    cases hd
  · exact hquote ((List.cons.inj hcons).1.trans hd)

/-- Of numerals the plain numbers are spelled by digits alone. -/
theorem natural?_eq_some_iff {numeral : Numeral} (h : SpellsNumeral numeral cs) :
    numeral.natural? = some n ↔ DigitsOf n cs := by
  have hother : ∀ {c}, c ∈ cs → c.isDigit = false → ¬ DigitsOf n cs := fun hc hdigit hds =>
    absurd (hds.digits _ hc) (Bool.eq_false_iff.1 hdigit)
  cases h with
  | negative => exact iff_of_false (by simp [Numeral.natural?]) (hother List.mem_cons_self rfl)
  | positive hwhole hfraction hexponent =>
    cases hfraction with
    | digits =>
      refine iff_of_false (by simp [Numeral.natural?]) (hother (c := '.') ?_ rfl)
      simp
    | without =>
      cases hexponent with
      | @digits letter negative sign ds hletter _ _ _ =>
        refine iff_of_false (by simp [Numeral.natural?]) (hother (c := letter) ?_ ?_)
        · simp
        · rcases hletter with rfl | rfl <;> rfl
      | without =>
        rw [List.append_nil, List.append_nil]
        constructor
        · exact fun hvalue => ⟨hwhole.nonempty, hwhole.digits, Option.some.inj hvalue⟩
        · exact fun hds => congrArg some hds.value

/-- A plain number of 32 bits can be taken into memory. -/
theorem inRange_of_natural? {numeral : Numeral} {n : UInt32}
    (h : numeral.natural? = some n.toNat) : numeral.inRange = true := by
  rcases numeral with ⟨negative, whole, fraction, exponent⟩
  rw [Numeral.natural?, Option.ite_none_left_eq_some] at h
  rcases h with ⟨hplain, hvalue⟩
  simp only [Bool.or_eq_true, not_or, Bool.not_eq_true, Option.isSome_eq_false_iff,
    Option.isNone_iff_eq_none] at hplain
  obtain ⟨⟨rfl, rfl⟩, rfl⟩ := hplain
  refine Numeral.inRange_of_lt ?_
  rw [Option.some.inj hvalue]
  exact n.toNat_lt

namespace Catalog.Maximum

/-- A maximum is decoded from a text, or from a plain number of 32 bits. -/
theorem decode_cases : decode room tree = .ok m ↔
    (∃ text, tree = .string (some text) ∧ ofText text = .ok m) ∨
    ∃ numeral, ∃ n : UInt32, tree = .number numeral ∧ numeral.natural? = some n.toNat ∧
      m = .limited n := by
  constructor
  · intro h
    unfold decode at h
    split at h
    · split at h
      · exact .inl ⟨_, rfl, h⟩
      · rcases Misread.map_eq_ok_iff.1 h with ⟨n, hn, rfl⟩
        rcases decodeUInt32_eq_ok_iff.1 hn with ⟨numeral, rfl, hnatural⟩
        exact .inr ⟨numeral, n, rfl, hnatural, rfl⟩
    · cases h
  · rintro (⟨text, rfl, htext⟩ | ⟨numeral, n, rfl, hnatural, rfl⟩)
    · exact (if_pos rfl).trans htext
    · have hholdable : (Tree.number numeral).holdable room = true := inRange_of_natural? hnatural
      have hcount : decodeUInt32 room (.number numeral) = .ok n :=
        decodeUInt32_eq_ok_iff.2 ⟨numeral, rfl, hnatural⟩
      unfold decode
      rw [if_pos hholdable]
      exact congrArg (Except.map limited) hcount

/-- A JSON value is decoded to the maximum that it denotes. -/
theorem decode_eq_ok_iff (h : Spells (.value tree) cs) :
    decode room tree = .ok m ↔ DenotesMaximum cs m := by
  rw [decode_cases]
  cases h with
  | @number numeral cs hnumeral =>
    constructor
    · rintro (⟨_, htext, -⟩ | ⟨_, n, hsame, hnatural, rfl⟩)
      · cases htext
      · obtain rfl := Tree.number.inj hsame
        exact .number ((natural?_eq_some_iff hnumeral).1 hnatural)
    · intro hdenotes
      cases hdenotes with
      | number hds => exact .inr ⟨_, _, rfl, (natural?_eq_some_iff hnumeral).2 hds, rfl⟩
      | string hcs _ =>
        rcases exists_cons_of_spellsString hcs with ⟨_, rfl⟩
        rcases exists_cons_of_spellsNumeral hnumeral with ⟨_, _, hcons, hc⟩
        rw [← (List.cons.inj hcons).1] at hc
        exact absurd hc (by decide)
  | @string given cs hstring =>
    constructor
    · rintro (⟨text, hsame, htext⟩ | ⟨_, _, hnumber, -⟩)
      · obtain rfl := Tree.string.inj hsame
        exact .string hstring (ofText_eq_ok_iff.1 htext)
      · cases hnumber
    · intro hdenotes
      cases hdenotes with
      | number hds =>
        rcases exists_cons_of_spellsString hstring with ⟨more, rfl⟩
        exact absurd (hds.digits _ List.mem_cons_self) (by decide)
      | string hcs hnames =>
        obtain rfl := eq_of_spellsString hstring hcs
        exact .inl ⟨_, rfl, ofText_eq_ok_iff.2 hnames⟩
  | _ =>
    refine iff_of_false ?_ (not_denotesMaximum rfl (by decide))
    rintro (⟨_, htext, -⟩ | ⟨_, _, hnumber, -⟩)
    · cases htext
    · cases hnumber

end Catalog.Maximum

/-! ## Maxima in a catalog -/

namespace Catalog

variable {value : Tree} {i j : Nat}

/-- The maximum of a cardinality is decoded from its place. -/
theorem Cardinality.decode_max {cardinality : Cardinality}
    (h : Cardinality.decode room tree = .ok cardinality)
    (hleads : (Step.field "max" 1).Leads tree value) :
    ∃ room', Maximum.decode room' value = .ok cardinality.max := by
  rcases Finds.record (R := fun cardinality m => Cardinality.max cardinality = m)
    (yields_map fun _ _ => rfl).finds h hleads with ⟨room', m, hm, rfl⟩
  exact ⟨room', hm⟩

/-- The cardinality of an operand is decoded from its place. -/
theorem OperandDef.decode_cardinality {operand : OperandDef}
    (h : OperandDef.decode room tree = .ok operand)
    (hleads : (Step.field "cardinality" 6).Leads tree value) :
    ∃ room', Cardinality.decode room' value = .ok operand.cardinality := by
  rcases Finds.record (R := fun operand cardinality => OperandDef.cardinality operand = cardinality)
    (yields_map fun _ _ _ _ _ _ _ _ => rfl).seq.seq.seq.seq.seq.finds.seq h hleads with
    ⟨room', cardinality, hcardinality, rfl⟩
  exact ⟨room', hcardinality⟩

/-- The operands of a command are decoded from their place. -/
theorem CommandDef.decode_operands {command : CommandDef}
    (h : CommandDef.decode room tree = .ok command)
    (hleads : (Step.field "operands" 9).Leads tree value) :
    ∃ room', decodeList OperandDef.decode room' value = .ok command.operands := by
  rcases Finds.record (R := fun command operands => CommandDef.operands command = operands)
    ((yields_map fun _ _ _ _ _ _ _ _ _ _ _ _ _ => rfl).seq.seq.seq.seq.seq.seq.seq.seq.finds
      |>.seq.seq.seq) h hleads with ⟨room', operands, hoperands, rfl⟩
  exact ⟨room', hoperands⟩

/-- The commands of a catalog are decoded from their place. -/
theorem Definitions.decode_commands {definitions : Definitions}
    (h : Definitions.decode room tree = .ok definitions)
    (hleads : (Step.field "commands" 0).Leads tree value) :
    ∃ room', decodeList CommandDef.decode room' value = .ok definitions.commands := by
  rcases Finds.record (R := fun definitions commands => Definitions.commands definitions = commands)
    (finds_map fun _ _ _ _ => rfl).seq.seq.seq h hleads with ⟨room', commands, hcommands, rfl⟩
  exact ⟨room', hcommands⟩

/-- The way to the maximum of an operand of a command in a catalog. -/
def maximumWay (i j : Nat) : List Step :=
  [.field "commands" 0, .item i, .field "operands" 9, .item j, .field "cardinality" 6,
    .field "max" 1]

/-- The maximum that is given for an operand is decoded to the maximum of that operand. -/
theorem Definitions.decode_maximum {definitions : Definitions}
    (h : Definitions.decode room tree = .ok definitions)
    (hleads : Leads (maximumWay i j) tree value) :
    ∃ command operand room', definitions.commands[i]? = some command ∧
      command.operands[j]? = some operand ∧
      Maximum.decode room' value = .ok operand.cardinality.max := by
  rcases hleads with ⟨_, hcommands, _, hcommand, _, hoperands, _, hoperand, _, hcardinality, _,
    hmax, rfl⟩
  rcases Definitions.decode_commands h hcommands with ⟨_, h⟩
  rcases exists_getElem?_of_decodeList h hcommand with ⟨_, command, hi, h⟩
  rcases CommandDef.decode_operands h hoperands with ⟨_, h⟩
  rcases exists_getElem?_of_decodeList h hoperand with ⟨_, operand, hj, h⟩
  rcases OperandDef.decode_cardinality h hcardinality with ⟨_, h⟩
  rcases Cardinality.decode_max h hmax with ⟨room', h⟩
  exact ⟨command, operand, room', hi, hj, h⟩

/-- A value is decoded to the maximum that it denotes and to no other.  Where it is given as the
maximum of an operand in a catalog, that is the maximum of this operand if the catalog is parsed,
and the catalog is refused as malformed if the value denotes no maximum. -/
theorem maximum_denoted :
    (∀ room tree cs m, Spells (.value tree) cs →
      (Maximum.decode room tree = .ok m ↔ DenotesMaximum cs m)) ∧
    ∀ text tree i j value cs, Spells (.spaced tree) text.toList →
      Leads (maximumWay i j) tree value → Spells (.value value) cs →
      (∀ definitions, parse text = .ok definitions →
        ∃ command operand, definitions.commands[i]? = some command ∧
          command.operands[j]? = some operand ∧ DenotesMaximum cs operand.cardinality.max) ∧
      ((∀ m, ¬ DenotesMaximum cs m) → ∃ why, parse text = .error [.malformedCatalog why] ∧
        (Fault.malformedCatalog why).report.code = "C001") := by
  refine ⟨fun room tree cs m h => Maximum.decode_eq_ok_iff h, ?_⟩
  intro text tree i j value cs hspells hleads hvalue
  have hparsed : ∀ definitions, parse text = .ok definitions →
      ∃ command operand, definitions.commands[i]? = some command ∧
        command.operands[j]? = some operand ∧ DenotesMaximum cs operand.cardinality.max := by
    intro definitions hparse
    rcases parse_eq_ok_iff.1 hparse with ⟨tree', hspells', hdecode⟩
    rw [eq_of_spells hspells' hspells] at hdecode
    rcases Definitions.decode_maximum hdecode hleads with ⟨command, operand, _, hi, hj, hmaximum⟩
    exact ⟨command, operand, hi, hj, (Maximum.decode_eq_ok_iff hvalue).1 hmaximum⟩
  refine ⟨hparsed, fun hnone => ?_⟩
  have hrefused : ∀ definitions, parse text ≠ .ok definitions := by
    intro definitions hparse
    rcases hparsed definitions hparse with ⟨_, operand, _, _, hdenotes⟩
    exact hnone _ hdenotes
  rcases parse_eq_error hrefused with ⟨why, hwhy⟩
  exact ⟨why, hwhy, rfl⟩

/-- A catalog with one operand and a maximum for it. -/
def bounded (maximum : Value) : Value :=
  .object [("commands", .array [.object [("shellCommand", .string "sort"),
    ("operands", .array [.object [("id", .string "file"),
      ("cardinality", .object [("max", maximum)])]])]])]

/-- In the bounded catalog the way to the maximum leads to it. -/
theorem leads_bounded (maximum : Value) :
    Leads (maximumWay 0 0) (bounded maximum).toTree maximum.toTree :=
  ⟨_, .member List.mem_cons_self, _, .item rfl, _, .member (List.mem_of_getElem? (i := 1) rfl), _,
    .item rfl, _, .member (List.mem_of_getElem? (i := 1) rfl), _, .member List.mem_cons_self, rfl⟩

theorem maximum_denoted_bounded :
    Maximum.decode 0 (.string (some "02")) = .ok (.limited 2) ∧
    (∃ definitions, parse (bounded (.string "02")).text = .ok definitions ∧
      ∃ command operand, definitions.commands[0]? = some command ∧
        command.operands[0]? = some operand ∧ operand.cardinality.max = .limited 2) ∧
    ∃ why, parse (bounded .null).text = .error [.malformedCatalog why] := by
  have hpieces : SpellsPieces [.char '0', .char '2'] ['0', '2'] :=
    .plain (by decide) (by decide) (by decide) (.plain (by decide) (by decide) (by decide) .nil)
  have hstring : SpellsString (some "02") ['"', '0', '2', '"'] := .quoted hpieces
  have hnames : NamesMaximum ([] ++ ([] ++ (['0', '2'] ++ []))) (.limited 2) :=
    .number (List.forall_mem_nil _) (.inl rfl) ⟨by simp, by simp, rfl⟩
      (List.forall_mem_nil _)
  have hdecode : Maximum.decode 0 (.string (some "02")) = .ok (.limited 2) :=
    (maximum_denoted.1 0 _ _ _ (.string hstring)).2 (.string hstring hnames)
  refine ⟨hdecode, ?_, ?_⟩
  · have hparse : ∃ definitions, parse (bounded (.string "02")).text = .ok definitions :=
      ⟨_, parse_eq_ok_iff.2 ⟨_, spells_text _, rfl⟩⟩
    rcases hparse with ⟨definitions, hparse⟩
    rcases (maximum_denoted.2 _ _ 0 0 _ _ (spells_text _) (leads_bounded (.string "02"))
      (.string hstring)).1 definitions hparse with
      ⟨command, operand, hcommand, hoperand, hmaximum⟩
    refine ⟨definitions, hparse, command, operand, hcommand, hoperand, ?_⟩
    have hsame := (maximum_denoted.1 0 _ _ _ (.string hstring)).2 hmaximum
    exact Except.ok.inj (hsame.symm.trans hdecode)
  · have hnone : ∀ m, ¬ DenotesMaximum ['n', 'u', 'l', 'l'] m :=
      fun _ => not_denotesMaximum rfl (by decide)
    rcases (maximum_denoted.2 _ _ 0 0 _ _ (spells_text (bounded .null)) (leads_bounded _)
      .null).2 hnone with ⟨why, hwhy, -⟩
    exact ⟨why, hwhy⟩

end Catalog

end ShellComposer
