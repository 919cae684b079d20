import Mathlib.Data.List.Induction
import ShellComposer.Proofs.Decoding
import ShellComposer.Proofs.Loaded
import ShellComposer.Settings

/-!
# What is saved can be loaded again

Definitions of a catalog, settings and kinds of blocks are read back from the JSON text that is
written for them, whatever texts and numbers they hold.  None of them nests deeply, so the limit of
decoding is never met.  A catalog that was loaded can be saved and loaded again, and is the same
catalog: commands that got their ids when it was loaded keep them.

Main results:

- Theorem `Maximum.rereads`: a maximum is read back, be it a number or the word for none.
- Theorems `CommandDef.rereads`, `ControlDef.rereads`, `OperatorDef.rereads` and others: definitions
  are read back.
- Theorem `Definitions.nesting_encode_le`: no more than eight arrays and objects nest in a catalog.
- Theorem `Definitions.normalize_normalize`: commands keep the ids that they were given.
- Theorem `reloads`: definitions, settings, kinds of blocks and loaded catalogs are the same again.
-/

namespace ShellComposer

open Json Json.Value Catalog
open Json.Fields (rereads_field)

/-- A text that may be left out is read back. -/
theorem rereads_text? (room : Nat) (text : Option String) :
    Rereads room (decodeNullable decodeString) (.ofText? text) text :=
  rereads_ofOption (fun _ => Value.noConfusion) (rereads_string room) text

/-! ## Rules and bounds -/

namespace Json.Numeral

/-- A number below the 53rd power of two is a double itself. -/
theorem roundToDouble_of_lt {n : Nat} (hn : n < Nat.pow 2 53) : roundToDouble n = n := by
  have hunit : n.log2 - 52 = 0 := by
    by_cases hzero : n = 0
    · rw [hzero, Nat.log2_zero]
    · have hlog := (Nat.log2_lt hzero).2 hn
      omega
  unfold roundToDouble
  rw [hunit]
  simp [Nat.mod_one]

/-- All digits are taken in where their number fits 64 bits. -/
theorem absorb_of_lt {digits : List Char} {value : Nat}
    (hvalue : Nat.ofDigitChars 10 digits value < UInt64.size) :
    absorb value digits = (Nat.ofDigitChars 10 digits value, []) := by
  induction digits generalizing value with
  | nil => rfl
  | cons digit rest ih =>
    have hmore : Nat.ofDigitChars 10 rest (10 * value + (digit.toNat - '0'.toNat)) <
      UInt64.size := hvalue
    have hfits : 10 * value + (digit.toNat - '0'.toNat) < UInt64.size := by
      refine Nat.lt_of_le_of_lt ?_ hmore
      rw [Nat.ofDigitChars_eq_ofDigitChars_zero]
      have hpow := Nat.le_mul_of_pos_left (10 * value + (digit.toNat - '0'.toNat))
        (Nat.pow_pos (n := rest.length) (by decide : 0 < 10))
      omega
    rw [absorb]
    exact (if_pos hfits).trans (ih hmore)

/-- A plain number of 32 bits lies in the range of doubles. -/
theorem inRange_of_lt {digits : List Char} (h : digitsValue digits < UInt32.size) :
    (⟨false, digits, none, none⟩ : Numeral).inRange = true := by
  have hbelow : ∀ power, 32 ≤ power → digitsValue digits < Nat.pow 2 power :=
    fun _ hpower => Nat.lt_of_lt_of_le h (Nat.pow_le_pow_right (n := 2) (by decide) hpower)
  have htaken : absorb 0 digits = (digitsValue digits, []) :=
    absorb_of_lt (hbelow 64 (by decide))
  have hleading :
      (⟨false, digits, none, none⟩ : Numeral).leading = (digitsValue digits, 0) := by
    unfold leading
    simp [htaken, absorb]
  have hone : roundToDouble (Nat.pow 10 (0 : Int).toNat) = 1 := roundToDouble_of_lt (by decide)
  unfold inRange
  rw [hleading]
  simp only [hone, Nat.mul_one, roundToDouble_of_lt (hbelow 53 (by decide))]
  split
  · rfl
  · rw [if_neg (by decide)]
    exact decide_eq_true (hbelow 1024 (by decide))

/-- The numbers of a catalog are within the range of numerals. -/
theorem inRange_ofNatural (n : UInt32) : (ofNatural n.toNat).inRange = true := by
  refine inRange_of_lt ?_
  rw [digitsValue_toDigits]
  exact n.toNat_lt

end Json.Numeral

namespace Catalog

/-- A rule about values is read back. -/
theorem ValueRule.rereads (room : Nat) (rule : ValueRule) :
    Rereads room decode rule.encode rule :=
  ((rereads_field (rereads_string _ rule.regex)).map ValueRule.mk
    |>.seq (rereads_field (rereads_string _ rule.errorMessage))).record (by decide)

/-- A rule about sequences is read back. -/
theorem SyntaxRule.rereads (room : Nat) (rule : SyntaxRule) :
    Rereads room decode rule.encode rule :=
  ((rereads_field (rereads_string _ rule.regexPattern)).map SyntaxRule.mk
    |>.seq (rereads_field (rereads_text? _ rule.errorMessage))).record (by decide)

/-- A maximum is read back, be it a number or the word for none. -/
theorem Maximum.rereads (room : Nat) (maximum : Maximum) :
    Rereads room decode maximum.encode maximum := by
  cases maximum with
  | limited count =>
    have hholdable : (Value.natural count.toNat).toTree.holdable room = true :=
      Numeral.inRange_ofNatural count
    have hcount : decodeUInt32 room (Value.natural count.toNat).toTree = .ok count :=
      rereads_uint32 room count
    refine rereads_of_flat rfl ?_
    unfold decode
    rw [encode, if_pos hholdable]
    exact congrArg (Except.map limited) hcount
  | unlimited =>
    have hword : Text.sameIgnoringCase unlimitedWord unlimitedWord = true := by decide +kernel
    exact rereads_of_flat rfl (if_pos hword)

/-- A bound that may be left out is read back. -/
theorem rereads_bound? (room : Nat) (bound : Option UInt32) :
    Rereads room (decodeNullable decodeUInt32) (encodeBound? bound) bound :=
  rereads_ofOption (fun _ => Value.noConfusion) (rereads_uint32 room) bound

/-- A cardinality is read back with both bounds. -/
theorem Cardinality.rereads (room : Nat) (cardinality : Cardinality) :
    Rereads room decode cardinality.encode cardinality :=
  ((rereads_field (rereads_uint32 _ cardinality.min)).map Cardinality.mk
    |>.seq (rereads_field (Maximum.rereads _ cardinality.max))).record (by decide)

/-- The type of a value is read back. -/
theorem ValueType.rereads (room : Nat) (valueType : ValueType) :
    Rereads room decode (.string valueType.word) valueType := by
  cases valueType <;> exact rereads_variant rfl room

/-! ## Commands -/

/-- The argument of an option is read back with its rules. -/
theorem ArgumentDef.rereads (room : Nat) (argument : ArgumentDef) :
    Rereads room decode argument.encode argument :=
  ((rereads_field (ValueType.rereads _ argument.valueType)).map ArgumentDef.mk
    |>.seq (rereads_field (rereads_string _ argument.label))
    |>.seq (rereads_field (rereads_text? _ argument.defaultValue))
    |>.seq (rereads_field (rereads_list (ValueRule.rereads _) argument.validations))).record
      (by decide)

/-- An option is read back with its argument. -/
theorem OptionDef.rereads (room : Nat) (option : OptionDef) :
    Rereads room decode option.encode option :=
  ((rereads_field (rereads_string _ option.flag)).map OptionDef.mk
    |>.seq (rereads_field (rereads_text? _ option.longFlag))
    |>.seq (rereads_field (rereads_string _ option.description))
    |>.seq (rereads_field (rereads_ofOption (fun _ => Value.noConfusion) (ArgumentDef.rereads _)
      option.argument))).record (by decide)

/-- An operand is read back with its cardinality and its rules. -/
theorem OperandDef.rereads (room : Nat) (operand : OperandDef) :
    Rereads room decode operand.encode operand :=
  ((rereads_field (rereads_string _ operand.id)).map OperandDef.mk
    |>.seq (rereads_field (rereads_string _ operand.label))
    |>.seq (rereads_field (rereads_string _ operand.description))
    |>.seq (rereads_field (rereads_string _ operand.color))
    |>.seq (rereads_field (ValueType.rereads _ operand.valueType))
    |>.seq (rereads_field (rereads_string _ operand.defaultValue))
    |>.seq (rereads_field (Cardinality.rereads _ operand.cardinality))
    |>.seq (rereads_field (rereads_list (ValueRule.rereads _) operand.validations))).record
      (by decide)

/-- A command is read back with its options and operands. -/
theorem CommandDef.rereads (room : Nat) (command : CommandDef) :
    Rereads room decode command.encode command :=
  ((rereads_field (rereads_text? _ command.givenId)).map CommandDef.mk
    |>.seq (rereads_field (rereads_string _ command.shellCommand))
    |>.seq (rereads_field (rereads_string _ command.label))
    |>.seq (rereads_field (rereads_string _ command.description))
    |>.seq (rereads_field (rereads_string _ command.color))
    |>.seq (rereads_field (rereads_string _ command.optionColor))
    |>.seq (rereads_field (rereads_list (OptionDef.rereads _) command.options))
    |>.seq (rereads_field (rereads_bound? _ command.optionsMin))
    |>.seq (rereads_field (rereads_list (rereads_texts _) command.exclusiveOptions))
    |>.seq (rereads_field (rereads_list (OperandDef.rereads _) command.operands))
    |>.seq (rereads_field (rereads_bound? _ command.operandsMin))
    |>.seq (rereads_field (rereads_list (SyntaxRule.rereads _) command.operandSyntaxRules))
    |>.seq (rereads_field (rereads_text? _ command.operandIdsSequenceDelimiter))).record (by decide)

/-! ## Controls and operators -/

/-- The placement of a symbol is read back. -/
theorem SymbolPlacement.rereads (room : Nat) (placement : SymbolPlacement) :
    Rereads room decode (.string placement.word) placement := by
  cases placement <;> exact rereads_variant rfl room

/-- So is one that may be left out. -/
theorem SymbolPlacement.rereads? (room : Nat) (placement : Option SymbolPlacement) :
    Rereads room (decodeNullable decode) (encode? placement) placement :=
  rereads_ofOption (fun _ => Value.noConfusion) (SymbolPlacement.rereads room) placement

/-- A slot is read back. -/
theorem SlotDef.rereads (room : Nat) (slot : SlotDef) :
    Rereads room decode slot.encode slot :=
  ((rereads_field (rereads_string _ slot.name)).map SlotDef.mk
    |>.seq (rereads_field (rereads_text? _ slot.label))
    |>.seq (rereads_field (rereads_string _ slot.check))
    |>.seq (rereads_field (rereads_text? _ slot.symbol))
    |>.seq (rereads_field (SymbolPlacement.rereads? _ slot.symbolPlacement))
    |>.seq (rereads_field (rereads_text? _ slot.syntaxPrefix))
    |>.seq (rereads_field (rereads_bool _ slot.obligatory))
    |>.seq (rereads_field (rereads_bool _ slot.breakLineBefore))).record (by decide)

/-- A control is read back with its slots. -/
theorem ControlDef.rereads (room : Nat) (control : ControlDef) :
    Rereads room decode control.encode control :=
  ((rereads_field (rereads_string _ control.id)).map ControlDef.mk
    |>.seq (rereads_field (rereads_string _ control.shellCommand))
    |>.seq (rereads_field (rereads_string _ control.label))
    |>.seq (rereads_field (rereads_string _ control.description))
    |>.seq (rereads_field (rereads_string _ control.color))
    |>.seq (rereads_field (rereads_text? _ control.syntaxEnd))
    |>.seq (rereads_field (rereads_list (SlotDef.rereads _) control.slots))).record (by decide)

/-- An operator is read back with its slots. -/
theorem OperatorDef.rereads (room : Nat) (operator : OperatorDef) :
    Rereads room decode operator.encode operator :=
  ((rereads_field (rereads_string _ operator.id)).map OperatorDef.mk
    |>.seq (rereads_field (rereads_string _ operator.label))
    |>.seq (rereads_field (rereads_string _ operator.description))
    |>.seq (rereads_field (rereads_string _ operator.color))
    |>.seq (rereads_field (rereads_list (SlotDef.rereads _) operator.slots))
    |>.seq (rereads_field (rereads_texts _ operator.slotsWithImplicitData))).record (by decide)

/-! ## Whole documents -/

/-- A category is read back with its items. -/
theorem CategoryDef.rereads (room : Nat) (category : CategoryDef) :
    Rereads room decode category.encode category :=
  ((rereads_field (rereads_string _ category.name)).map CategoryDef.mk
    |>.seq (rereads_field (rereads_texts _ category.commands))).record (by decide)

/-- All definitions are read back. -/
theorem Definitions.rereads (room : Nat) (definitions : Definitions) :
    Rereads room decode definitions.encode definitions :=
  ((rereads_field (rereads_list (CommandDef.rereads _) definitions.commands)).map Definitions.mk
    |>.seq (rereads_field (rereads_list (OperatorDef.rereads _) definitions.operators))
    |>.seq (rereads_field (rereads_list (ControlDef.rereads _) definitions.controls))
    |>.seq (rereads_field (rereads_list (CategoryDef.rereads _) definitions.categories))).record
      (by decide)

end Catalog

/-- Settings are read back. -/
theorem Settings.rereads (room : Nat) (settings : Settings) :
    Rereads room decode settings.encode settings :=
  ((rereads_field (rereads_string _ settings.workspaceId)).map Settings.mk
    |>.seq (rereads_field (rereads_string _ settings.defaultSequenceDelimiter))
    |>.seq (rereads_field (rereads_ofOption (fun _ => Value.noConfusion) (rereads_uint64 _)
      settings.maxReactionCycles))).record (by decide)

/-! ## Nesting -/

namespace Catalog

@[simp] theorem nesting_bound? (bound : Option UInt32) : (encodeBound? bound).nesting = 0 :=
  Nat.le_zero.1 (nesting_ofOption_le (fun _ => Nat.le_refl 0) bound)

@[simp] theorem SymbolPlacement.nesting_encode? (placement : Option SymbolPlacement) :
    (encode? placement).nesting = 0 :=
  Nat.le_zero.1 (nesting_ofOption_le (fun _ => Nat.le_refl 0) placement)

@[simp] theorem Maximum.nesting_encode (maximum : Maximum) : maximum.encode.nesting = 0 := by
  cases maximum <;> rfl

theorem ValueRule.nesting_encode_le (rule : ValueRule) : rule.encode.nesting ≤ 1 :=
  nesting_object_le (by simp)

theorem SyntaxRule.nesting_encode_le (rule : SyntaxRule) : rule.encode.nesting ≤ 1 :=
  nesting_object_le (by simp)

theorem Cardinality.nesting_encode_le (cardinality : Cardinality) :
    cardinality.encode.nesting ≤ 1 :=
  nesting_object_le (by simp)

theorem SlotDef.nesting_encode_le (slot : SlotDef) : slot.encode.nesting ≤ 1 :=
  nesting_object_le (by simp)

/-- An argument nests a level for its list of rules and one for each rule. -/
theorem ArgumentDef.nesting_encode_le (argument : ArgumentDef) : argument.encode.nesting ≤ 3 := by
  have hrules := nesting_ofList_le ValueRule.nesting_encode_le
    argument.validations
  refine nesting_object_le ?_
  simp [hrules]

/-- An option nests a level deeper than its argument. -/
theorem OptionDef.nesting_encode_le (option : OptionDef) : option.encode.nesting ≤ 4 := by
  have hargument := nesting_ofOption_le ArgumentDef.nesting_encode_le option.argument
  refine nesting_object_le ?_
  simp [hargument]

/-- An operand nests like an argument, by its list of rules. -/
theorem OperandDef.nesting_encode_le (operand : OperandDef) : operand.encode.nesting ≤ 3 := by
  have hcardinality := operand.cardinality.nesting_encode_le
  have hrules := nesting_ofList_le ValueRule.nesting_encode_le
    operand.validations
  refine nesting_object_le ?_
  simp [hrules, Nat.le_trans hcardinality]

/-- A command nests two levels deeper than its options. -/
theorem CommandDef.nesting_encode_le (command : CommandDef) : command.encode.nesting ≤ 6 := by
  have hoptions := nesting_ofList_le OptionDef.nesting_encode_le command.options
  have hexclusive := nesting_ofList_le nesting_ofTexts_le command.exclusiveOptions
  have hoperands := nesting_ofList_le OperandDef.nesting_encode_le command.operands
  have hrules := nesting_ofList_le SyntaxRule.nesting_encode_le
    command.operandSyntaxRules
  refine nesting_object_le ?_
  simp [hoptions, Nat.le_trans hexclusive, Nat.le_trans hoperands, Nat.le_trans hrules]

/-- A control nests two levels deeper than its slots. -/
theorem ControlDef.nesting_encode_le (control : ControlDef) : control.encode.nesting ≤ 3 := by
  have hslots := nesting_ofList_le SlotDef.nesting_encode_le control.slots
  refine nesting_object_le ?_
  simp [hslots]

/-- An operator nests two levels deeper than its slots. -/
theorem OperatorDef.nesting_encode_le (operator : OperatorDef) : operator.encode.nesting ≤ 3 := by
  have hslots := nesting_ofList_le SlotDef.nesting_encode_le operator.slots
  have himplicit := nesting_ofTexts_le operator.slotsWithImplicitData
  refine nesting_object_le ?_
  simp [hslots, Nat.le_trans himplicit]

theorem CategoryDef.nesting_encode_le (category : CategoryDef) : category.encode.nesting ≤ 2 := by
  have hcommands := nesting_ofTexts_le category.commands
  refine nesting_object_le ?_
  simp [hcommands]

/-- No more than eight arrays and objects nest in a catalog. -/
theorem Definitions.nesting_encode_le (definitions : Definitions) :
    definitions.encode.nesting ≤ 8 := by
  have hcommands := nesting_ofList_le CommandDef.nesting_encode_le definitions.commands
  have hoperators := nesting_ofList_le OperatorDef.nesting_encode_le definitions.operators
  have hcontrols := nesting_ofList_le ControlDef.nesting_encode_le definitions.controls
  have hcategories := nesting_ofList_le CategoryDef.nesting_encode_le definitions.categories
  refine nesting_object_le ?_
  simp [hcommands, Nat.le_trans hoperators, Nat.le_trans hcontrols, Nat.le_trans hcategories]

end Catalog

theorem Settings.nesting_encode_le (settings : Settings) : settings.encode.nesting ≤ 1 := by
  have hcycles : (ofOption (fun n : UInt64 => natural n.toNat) settings.maxReactionCycles).nesting
      ≤ 0 := nesting_ofOption_le (fun _ => Nat.le_refl 0) _
  refine nesting_object_le ?_
  simp [Nat.le_zero.1 hcycles]

/-! ## Kinds of blocks -/

namespace BlockKind

theorem nesting_encode (kind : BlockKind) : kind.encode.nesting = 1 := by
  cases kind <;> rfl

/-- A kind is read back from its name and its parts. -/
theorem rereads (room : Nat) (kind : BlockKind) : Rereads room decode kind.encode kind := by
  cases room with
  | zero => cases kind <;> rfl
  | succ room =>
    rw [Rereads, nesting_encode, if_pos (Nat.le_add_left 1 room)]
    cases kind <;> rfl

end BlockKind

/-! ## Loading again -/

/-- What nests no deeper than catalogs do is read back from its text. -/
theorem decodeText_eq_ok {α : Type} {decode : Decoder α} {written : Value} {a : α}
    (h : Rereads nestingLimit decode written a) (hflat : written.nesting ≤ 8) :
    decodeText decode written.text = .ok a := by
  rw [decodeText_text h, if_pos (Nat.le_trans hflat (by decide))]

namespace Catalog

/-- A command keeps the id that it was given. -/
theorem CommandDef.normalize_normalize (command : CommandDef) :
    command.normalize.normalize = command.normalize := by
  by_cases hmissing : (command.givenId.getD "").isEmpty = true
  · have hgiven : command.normalize = { command with givenId := some command.shellCommand } :=
      if_pos hmissing
    rw [hgiven, normalize]
    exact ite_self _
  · have hkept : command.normalize = command := if_neg hmissing
    rw [hkept, hkept]

/-- Commands keep the ids that they were given. -/
theorem Definitions.normalize_normalize (definitions : Definitions) :
    definitions.normalize.normalize = definitions.normalize := by
  have hcommands : (definitions.commands.map CommandDef.normalize).map CommandDef.normalize =
      definitions.commands.map CommandDef.normalize := by
    rw [List.map_map]
    exact List.map_congr_left fun command _ => command.normalize_normalize
  unfold normalize
  dsimp only
  rw [hcommands]

/-- Definitions are read back from their text. -/
theorem parse_text (definitions : Definitions) :
    parse definitions.encode.text = .ok definitions := by
  have hread : Definitions.ofText definitions.encode.text = .ok definitions :=
    decodeText_eq_ok (Definitions.rereads _ definitions) definitions.nesting_encode_le
  rw [parse, hread]

/-- A catalog that was loaded is loaded again from the text of its definitions. -/
theorem load_definitions {engine : Pattern.Engine} {text : String} {catalog : Catalog}
    (hload : load engine text = .ok catalog) :
    load engine catalog.definitions.encode.text = .ok catalog := by
  rcases compiled_of_load hload with ⟨definitions, -, hnone, rfl⟩
  have hstable := definitions.normalize_normalize
  have hagain : load engine definitions.normalize.encode.text =
      .ok (compile engine definitions.normalize.normalize) :=
    load_eq_ok (parse_text definitions.normalize) (by rw [hstable, hnone])
  rwa [hstable] at hagain

end Catalog

/-- Definitions, settings and kinds of blocks are read back from their texts, and a catalog that was
loaded is loaded again, from the text of its definitions. -/
theorem reloads :
    (∀ definitions : Definitions, parse definitions.encode.text = .ok definitions) ∧
    (∀ settings : Settings, Settings.ofText settings.encode.text = .ok settings) ∧
    (∀ kind : BlockKind, BlockKind.ofText kind.encode.text = .ok kind) ∧
    ∀ engine text catalog, load engine text = .ok catalog →
      load engine catalog.definitions.encode.text = .ok catalog := by
  refine ⟨parse_text, fun settings => ?_, fun kind => ?_, fun _ _ _ => load_definitions⟩
  · exact decodeText_eq_ok (Settings.rereads _ settings)
      (Nat.le_trans settings.nesting_encode_le (by decide))
  · exact decodeText_eq_ok (BlockKind.rereads _ kind)
      (Nat.le_trans (Nat.le_of_eq kind.nesting_encode) (by decide))

/-- A small catalog: a command without an id of its own, with an operand whose maximum is written as
a text. -/
def countedText : String :=
  "\x7b\"commands\": [\x7b\"shellCommand\": \"ls\", \"operands\": [\x7b\"id\": \"file\", " ++
    "\"cardinality\": \x7b\"max\": \" +2 \"\x7d\x7d]\x7d]\x7d"

@[inherit_doc countedText]
def counted : Definitions where
  commands := [⟨none, "ls", "", "", "", "", [], none, [],
    [⟨"file", "", "", "", .string, "", ⟨0, .limited 2⟩, []⟩], none, [], none⟩]
  operators := []
  controls := []
  categories := []

@[inherit_doc countedText]
def countedCatalog : Catalog :=
  .compile Pattern.search counted.normalize

/-- It loads, and what is written for it is another text that loads as the same catalog. -/
theorem counted_reloads :
    load Pattern.search countedText = .ok countedCatalog ∧
      countedCatalog.definitions.encode.text ≠ countedText ∧
      load Pattern.search countedCatalog.definitions.encode.text = .ok countedCatalog := by
  have hload : load Pattern.search countedText = .ok countedCatalog :=
    load_eq_ok (by decide +kernel) (by decide +kernel)
  have hother : countedCatalog.definitions.encode.text ≠ countedText := by decide +kernel
  exact ⟨hload, hother, reloads.2.2.2 _ _ _ hload⟩

end ShellComposer
