import ShellComposer.Catalog.Compiled
import ShellComposer.Proofs.Rearranging
import ShellComposer.Proofs.Spelled

/-!
# The many ways to write a catalog

Whoever writes a catalog may put the members of every object in any order, add members of their own,
and use the shorter or older names where there are some: the catalog is the same.  Only one thing
has to be kept to, which is to give every member once.  All records of a catalog keep to their
shapes, so this holds at any depth.

Main results:

- Definition `Definitions.shape`: where the records of a catalog stand, and the names of their
  fields.
- Theorem `Definitions.keepsTo`: catalogs keep to their shape.
- Theorem `parse_redrafted`: a rearranged catalog is parsed to the same definitions, and one that
  gives a member twice is refused.
-/

namespace ShellComposer

open Json Json.Fields Relation

/-! ## Values -/

section Values

variable {α : Type} {decode : Decoder α} {shape : Shape} {text : String} {a : α}

theorem keepsTo_string : KeepsTo .plain decodeString :=
  keepsTo_plain fun {room tree a} h => by
    unfold decodeString at h
    split at h
    · rfl
    · cases h

theorem keepsTo_bool : KeepsTo .plain decodeBool :=
  keepsTo_plain fun {room tree a} h => by
    unfold decodeBool at h
    split at h
    · rfl
    · cases h

/-- A number of 32 bits is decoded from a plain number that fits. -/
theorem decodeUInt32_eq_ok_iff {room : Nat} {tree : Tree} {n : UInt32} :
    decodeUInt32 room tree = .ok n ↔
      ∃ numeral, tree = .number numeral ∧ numeral.natural? = some n.toNat := by
  rw [decodeUInt32, Misread.map_eq_ok_iff]
  constructor
  · rintro ⟨value, hvalue, rfl⟩
    unfold decodeBelow at hvalue
    split at hvalue
    · rename_i numeral
      split at hvalue
      · rename_i value' hnatural
        split at hvalue
        · rename_i hlt
          obtain rfl := Except.ok.inj hvalue
          exact ⟨numeral, rfl, by rw [hnatural, UInt32.toNat_ofNat_of_lt' hlt]⟩
        · cases hvalue
      · cases hvalue
    · cases hvalue
  · rintro ⟨numeral, rfl, hnatural⟩
    refine ⟨n.toNat, ?_, UInt32.ofNat_toNat⟩
    rw [decodeBelow, hnatural]
    exact if_pos n.toNat_lt

theorem keepsTo_uint32 : KeepsTo .plain decodeUInt32 :=
  keepsTo_plain fun h => by
    rcases decodeUInt32_eq_ok_iff.1 h with ⟨numeral, rfl, -⟩
    rfl

theorem keepsTo_variant (variants : List (String × α)) : KeepsTo .plain (decodeVariant variants) :=
  keepsTo_plain fun {room tree a} h => by
    unfold decodeVariant at h
    split at h
    · rfl
    · rcases Misread.bind_eq_ok_iff.1 h with ⟨value, -, hvalue⟩
      split at hvalue
      · rfl
      · cases hvalue
    · cases h

theorem keepsTo_texts : KeepsTo (.list .plain) decodeTexts :=
  keepsTo_string.list

/-- A text is decoded when it spells a tree that is decoded. -/
theorem decodeText_eq_ok_iff (h : KeepsTo shape decode) : decodeText decode text = .ok a ↔
    ∃ tree, Spells (.spaced tree) text.toList ∧ decode nestingLimit tree = .ok a := by
  rcases hread : readTree text with ⟨tree, clean⟩
  constructor
  · intro hdecode
    rw [decodeText, hread] at hdecode
    rcases Misread.bind_eq_ok_iff.1 hdecode with ⟨value, hvalue, hclean⟩
    cases clean with
    | false => cases hclean
    | true =>
      obtain rfl := Except.ok.inj hclean
      exact ⟨tree, spells_of_readTree hread (h.proper hvalue).wellFormed, hvalue⟩
  · rintro ⟨tree', hspells, hvalue⟩
    rw [decodeText, readTree_of_spells hspells]
    exact Misread.bind_eq_ok_iff.2 ⟨a, hvalue, rfl⟩

/-- The text of a value spells its tree. -/
theorem spells_text (value : Value) : Spells (.spaced value.toTree) value.text.toList :=
  spells_of_readTree value.readTree_text value.wellFormed_toTree

end Values

namespace Catalog

/-! ## Rules and bounds -/

/-- A field with one name, of a value that holds no records. -/
def plainField (name : String) : FieldShape :=
  ([name], .plain)

/-- Where the records of a rule about a value stand; the other shapes say the same for the other
definitions. -/
def ValueRule.shape : Shape :=
  .record [plainField "regex", plainField "errorMessage"]

/-- Rules about values are decoded by their shape. -/
theorem ValueRule.keepsTo : KeepsTo shape decode :=
  ((keepTo_field keepsTo_string).map ValueRule.mk |>.seq (keepTo_field keepsTo_string)).record
    (by decide)

@[inherit_doc ValueRule.shape]
def SyntaxRule.shape : Shape :=
  .record [(["regexPattern", "pattern"], .plain), (["errorMessage", "message"], .plain)]

/-- Rules about sequences are decoded by their shape. -/
theorem SyntaxRule.keepsTo : KeepsTo shape decode :=
  ((keepTo_field keepsTo_string).map SyntaxRule.mk
    |>.seq (keepTo_field keepsTo_string.nullable)).record (by decide)

/-- A maximum is decoded as a plain value. -/
theorem Maximum.keepsTo : KeepsTo .plain decode :=
  keepsTo_plain fun {room tree a} h => by
    unfold decode at h
    split at h
    · split at h
      · rfl
      · rcases Misread.map_eq_ok_iff.1 h with ⟨n, hn, -⟩
        exact (keepsTo_uint32.proper hn).wellFormed
    · cases h

@[inherit_doc ValueRule.shape]
def Cardinality.shape : Shape :=
  .record [plainField "min", plainField "max"]

/-- Cardinalities are decoded by their shape. -/
theorem Cardinality.keepsTo : KeepsTo shape decode :=
  ((keepTo_field keepsTo_uint32).map Cardinality.mk |>.seq (keepTo_field Maximum.keepsTo)).record
    (by decide)

/-! ## Commands -/

@[inherit_doc ValueRule.shape]
def ArgumentDef.shape : Shape :=
  .record [plainField "type", plainField "label", plainField "defaultValue",
    (["validations"], .list ValueRule.shape)]

/-- Arguments are decoded by their shape. -/
theorem ArgumentDef.keepsTo : KeepsTo shape decode :=
  ((keepTo_field (keepsTo_variant _)).map ArgumentDef.mk
    |>.seq (keepTo_field keepsTo_string)
    |>.seq (keepTo_field keepsTo_string.nullable)
    |>.seq (keepTo_field ValueRule.keepsTo.list)).record (by decide)

@[inherit_doc ValueRule.shape]
def OptionDef.shape : Shape :=
  .record [plainField "flag", plainField "longFlag", plainField "description",
    (["argument"], ArgumentDef.shape)]

/-- Options are decoded by their shape. -/
theorem OptionDef.keepsTo : KeepsTo shape decode :=
  ((keepTo_field keepsTo_string).map OptionDef.mk
    |>.seq (keepTo_field keepsTo_string.nullable)
    |>.seq (keepTo_field keepsTo_string)
    |>.seq (keepTo_field ArgumentDef.keepsTo.nullable)).record (by decide)

@[inherit_doc ValueRule.shape]
def OperandDef.shape : Shape :=
  .record [plainField "id", plainField "label", plainField "description", plainField "color",
    plainField "type", plainField "defaultValue", (["cardinality"], Cardinality.shape),
    (["validations"], .list ValueRule.shape)]

/-- Operands are decoded by their shape. -/
theorem OperandDef.keepsTo : KeepsTo shape decode :=
  ((keepTo_field keepsTo_string).map OperandDef.mk
    |>.seq (keepTo_field keepsTo_string)
    |>.seq (keepTo_field keepsTo_string)
    |>.seq (keepTo_field keepsTo_string)
    |>.seq (keepTo_field (keepsTo_variant _))
    |>.seq (keepTo_field keepsTo_string)
    |>.seq (keepTo_field Cardinality.keepsTo)
    |>.seq (keepTo_field ValueRule.keepsTo.list)).record (by decide)

@[inherit_doc ValueRule.shape]
def CommandDef.shape : Shape :=
  .record [plainField "id", plainField "shellCommand", plainField "label", plainField "description",
    plainField "color", plainField "optionColor", (["options"], .list OptionDef.shape),
    plainField "optionsMin", (["exclusiveOptions"], .list (.list .plain)),
    (["operands"], .list OperandDef.shape), plainField "operandsMin",
    (["operandSyntaxRules"], .list SyntaxRule.shape),
    (["operandIdsSequenceDelimiter", "operandIdsSequenceSeparator"], .plain)]

/-- Commands are decoded by their shape. -/
theorem CommandDef.keepsTo : KeepsTo shape decode :=
  ((keepTo_field keepsTo_string.nullable).map CommandDef.mk
    |>.seq (keepTo_field keepsTo_string)
    |>.seq (keepTo_field keepsTo_string)
    |>.seq (keepTo_field keepsTo_string)
    |>.seq (keepTo_field keepsTo_string)
    |>.seq (keepTo_field keepsTo_string)
    |>.seq (keepTo_field OptionDef.keepsTo.list)
    |>.seq (keepTo_field keepsTo_uint32.nullable)
    |>.seq (keepTo_field keepsTo_texts.list)
    |>.seq (keepTo_field OperandDef.keepsTo.list)
    |>.seq (keepTo_field keepsTo_uint32.nullable)
    |>.seq (keepTo_field SyntaxRule.keepsTo.list)
    |>.seq (keepTo_field keepsTo_string.nullable)).record (by decide)

/-! ## Controls and operators -/

@[inherit_doc ValueRule.shape]
def SlotDef.shape : Shape :=
  .record [plainField "name", plainField "label", plainField "check", plainField "symbol",
    plainField "symbolPlacement", plainField "syntaxPrefix", plainField "obligatory",
    plainField "breakLineBefore"]

/-- Slots are decoded by their shape. -/
theorem SlotDef.keepsTo : KeepsTo shape decode :=
  ((keepTo_field keepsTo_string).map SlotDef.mk
    |>.seq (keepTo_field keepsTo_string.nullable)
    |>.seq (keepTo_field keepsTo_string)
    |>.seq (keepTo_field keepsTo_string.nullable)
    |>.seq (keepTo_field (keepsTo_variant _).nullable)
    |>.seq (keepTo_field keepsTo_string.nullable)
    |>.seq (keepTo_field keepsTo_bool)
    |>.seq (keepTo_field keepsTo_bool)).record (by decide)

@[inherit_doc ValueRule.shape]
def ControlDef.shape : Shape :=
  .record [plainField "id", plainField "shellCommand", plainField "label", plainField "description",
    plainField "color", plainField "syntaxEnd", (["slots"], .list SlotDef.shape)]

/-- Controls are decoded by their shape. -/
theorem ControlDef.keepsTo : KeepsTo shape decode :=
  ((keepTo_field keepsTo_string).map ControlDef.mk
    |>.seq (keepTo_field keepsTo_string)
    |>.seq (keepTo_field keepsTo_string)
    |>.seq (keepTo_field keepsTo_string)
    |>.seq (keepTo_field keepsTo_string)
    |>.seq (keepTo_field keepsTo_string.nullable)
    |>.seq (keepTo_field SlotDef.keepsTo.list)).record (by decide)

@[inherit_doc ValueRule.shape]
def OperatorDef.shape : Shape :=
  .record [plainField "id", plainField "label", plainField "description", plainField "color",
    (["slots"], .list SlotDef.shape), (["slotsWithImplicitData"], .list .plain)]

/-- Operators are decoded by their shape. -/
theorem OperatorDef.keepsTo : KeepsTo shape decode :=
  ((keepTo_field keepsTo_string).map OperatorDef.mk
    |>.seq (keepTo_field keepsTo_string)
    |>.seq (keepTo_field keepsTo_string)
    |>.seq (keepTo_field keepsTo_string)
    |>.seq (keepTo_field SlotDef.keepsTo.list)
    |>.seq (keepTo_field keepsTo_texts)).record (by decide)

/-! ## Whole documents -/

@[inherit_doc ValueRule.shape]
def CategoryDef.shape : Shape :=
  .record [plainField "name", (["commands"], .list .plain)]

/-- Categories are decoded by their shape. -/
theorem CategoryDef.keepsTo : KeepsTo shape decode :=
  ((keepTo_field keepsTo_string).map CategoryDef.mk |>.seq (keepTo_field keepsTo_texts)).record
    (by decide)

/-- Where the records of a catalog stand. -/
def Definitions.shape : Shape :=
  .record [(["commands"], .list CommandDef.shape), (["operators"], .list OperatorDef.shape),
    (["controls"], .list ControlDef.shape), (["categories"], .list CategoryDef.shape)]

/-- All definitions are read alike however they are rearranged, at any depth. -/
theorem Definitions.keepsTo : KeepsTo shape decode :=
  ((keepTo_field CommandDef.keepsTo.list).map Definitions.mk
    |>.seq (keepTo_field OperatorDef.keepsTo.list)
    |>.seq (keepTo_field ControlDef.keepsTo.list)
    |>.seq (keepTo_field CategoryDef.keepsTo.list)).record (by decide)

/-- A text is parsed when it spells a tree from which definitions are decoded. -/
theorem parse_eq_ok_iff {text : String} {definitions : Definitions} :
    parse text = .ok definitions ↔ ∃ tree, Spells (.spaced tree) text.toList ∧
      Definitions.decode nestingLimit tree = .ok definitions := by
  rw [← decodeText_eq_ok_iff Definitions.keepsTo, parse, Definitions.ofText]
  split
  · rename_i hok
    rw [hok, Except.ok.injEq, Except.ok.injEq]
  · rename_i herror
    rw [herror]
    simp only [reduceCtorEq]

/-- A text that is not parsed is refused as malformed. -/
theorem parse_eq_error {text : String} (h : ∀ definitions, parse text ≠ .ok definitions) :
    ∃ why, parse text = .error [.malformedCatalog why] := by
  cases hread : Definitions.ofText text with
  | ok definitions => exact absurd (by rw [parse, hread]) (h definitions)
  | error why => exact ⟨why, by rw [parse, hread]⟩

/-- A text that is parsed spells a tree, and whatever text spells that tree rearranged, anywhere and
in however many ways, is parsed to the same definitions.  A text in which a member is given twice
anywhere, be it under two names, is refused as malformed. -/
theorem parse_redrafted :
    (∀ text definitions, parse text = .ok definitions →
      ∃ tree, Spells (.spaced tree) text.toList ∧
        ∀ tree' text', ReflTransGen (Rearranged Definitions.shape) tree tree' →
          Spells (.spaced tree') text'.toList → parse text' = .ok definitions) ∧
    ∀ text tree, Spells (.spaced tree) text.toList → Repeats Definitions.shape tree →
      ∃ why, parse text = .error [.malformedCatalog why] ∧
        (Fault.malformedCatalog why).report.code = "C001" := by
  refine ⟨fun text definitions hparse => ?_, fun text tree hspells hrepeats => ?_⟩
  · rcases parse_eq_ok_iff.1 hparse with ⟨tree, hspells, hdecode⟩
    refine ⟨tree, hspells, fun tree' text' hrearranged hspells' => ?_⟩
    exact parse_eq_ok_iff.2 ⟨tree', hspells', Definitions.keepsTo.rearrange hdecode hrearranged⟩
  · have hrefused : ∀ definitions, parse text ≠ .ok definitions := by
      intro definitions hparse
      rcases parse_eq_ok_iff.1 hparse with ⟨tree', hspells', hdecode⟩
      rw [eq_of_spells hspells' hspells] at hdecode
      exact (Definitions.keepsTo.proper hdecode).once hrepeats
    rcases parse_eq_error hrefused with ⟨why, hwhy⟩
    exact ⟨why, hwhy, rfl⟩

/-- A catalog with one command, in the order of declaration. -/
def drafted : Value :=
  .object [("commands", .array [.object [("shellCommand", .string "sort"),
    ("operands", .array [.object [("id", .string "file")]]),
    ("operandIdsSequenceDelimiter", .string ",")]])]

/-- The same catalog in another order, with members of its own and an older name. -/
def redrafted : Value :=
  .object [("version", .natural 2),
    ("commands", .array [.object [("operandIdsSequenceSeparator", .string ","),
      ("operands", .array [.object [("id", .string "file"), ("notes", .array [])]]),
      ("shellCommand", .string "sort")]])]

/-- A catalog that gives the pattern of a rule twice, under both its names. -/
def repeating : Value :=
  .object [("commands", .array [.object [("shellCommand", .string "sort"),
    ("operandSyntaxRules", .array [.object [("pattern", .string "file"),
      ("regexPattern", .string "file")]])]])]

/-- What is rearranged in the only command of a catalog is rearranged in the catalog. -/
theorem rearranged_command {command command' : Tree}
    (h : Rearranged CommandDef.shape command command') :
    Rearranged Definitions.shape (.object [(some "commands", .array [command] true)] true)
      (.object [(some "commands", .array [command'] true)] true) :=
  @Rearranged.member _ (["commands"], .list CommandDef.shape) [] _ _ _ _ _ List.mem_cons_self
    List.mem_cons_self (@Rearranged.item _ [command] 0 _ _ _ rfl h)

/-- The second draft is the first one rearranged. -/
theorem rearranged_redrafted :
    ReflTransGen (Rearranged Definitions.shape) drafted.toTree redrafted.toTree := by
  have hoperand : Rearranged OperandDef.shape (.object [(some "id", .string (some "file"))] true)
      (.object [(some "id", .string (some "file")), (some "notes", .array [] true)] true) :=
    @Rearranged.inserted _ [_] [] _ _ _ (by decide) rfl
  refine .head (rearranged_command (@Rearranged.member _ (["operands"], .list OperandDef.shape) [_]
    _ _ _ _ _ (List.mem_of_getElem? (i := 9) rfl) List.mem_cons_self
    (@Rearranged.item _ _ 0 _ _ _ rfl hoperand))) ?_
  refine .head (rearranged_command (@Rearranged.renamed _
    (["operandIdsSequenceDelimiter", "operandIdsSequenceSeparator"], .plain) [_, _] _ _
    "operandIdsSequenceSeparator" _ _ (List.mem_of_getElem? (i := 12) rfl) List.mem_cons_self
    (by decide))) ?_
  refine .head (rearranged_command (.permuted (List.reverse_perm _).symm)) ?_
  exact .single (@Rearranged.inserted _ [] _ _ _ _ (by decide) rfl)

/-- The definitions of the catalog with one command. -/
def draftedDefinitions : Definitions :=
  { (default : Definitions) with
    commands := [{ (default : CommandDef) with
      shellCommand := "sort"
      operands := [{ (default : OperandDef) with id := "file", cardinality := .any }]
      operandIdsSequenceDelimiter := some "," }] }

theorem parse_drafts : parse drafted.text = .ok draftedDefinitions ∧
    parse redrafted.text = .ok draftedDefinitions ∧
    ∃ why, parse repeating.text = .error [.malformedCatalog why] := by
  have hparse : parse drafted.text = .ok draftedDefinitions :=
    parse_eq_ok_iff.2 ⟨drafted.toTree, spells_text drafted, by rfl⟩
  have hrepeats : Repeats Definitions.shape repeating.toTree :=
    @Repeats.member _ (["commands"], .list CommandDef.shape) _ _ _ _ List.mem_cons_self
      List.mem_cons_self List.mem_cons_self
    <| .item List.mem_cons_self
    <| @Repeats.member _ (["operandSyntaxRules"], .list SyntaxRule.shape) _ _ _ _
      (List.mem_of_getElem? (i := 11) rfl) List.mem_cons_self (List.mem_of_getElem? (i := 1) rfl)
    <| .item List.mem_cons_self
    <| @Repeats.twice _ (["regexPattern", "pattern"], .plain) [] [] _ _ _ _ _ _
      List.mem_cons_self (by decide) (by decide)
  refine ⟨hparse, ?_, ?_⟩
  · rcases parse_redrafted.1 _ _ hparse with ⟨tree, hspells, hredrafted⟩
    obtain rfl := eq_of_spells (spells_text drafted) hspells
    exact hredrafted _ _ rearranged_redrafted (spells_text redrafted)
  · rcases parse_redrafted.2 _ _ (spells_text repeating) hrepeats with ⟨why, hwhy, -⟩
    exact ⟨why, hwhy⟩

end Catalog

end ShellComposer
