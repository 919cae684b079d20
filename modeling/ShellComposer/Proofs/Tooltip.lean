import ShellComposer.Proofs.Reporting

/-!
# What the tooltip tells

The tooltip of a block is put together from four selections of its violations and a sorted rest.
The selections look at the ids, the rest looks at the categories, and still every violation is told
exactly once: each id belongs to one part of the tooltip, and the parts follow each other from top
to bottom.  The parts about something missing stand above the separator, the other parts below it.

Main results:

- Definition `ViolationId.part`: the part of the tooltip that a violation belongs to.
- Theorem `perm_parts`: the parts hold every violation exactly once.
- Definition `Violation.segment`: what is said of a violation.
- Theorem `warningText_tells`: the tooltip, segment by segment.
-/

namespace ShellComposer

/-! ## Beginnings of texts -/

namespace Text

/-- A beginning is dropped from a text that has it. -/
theorem dropBeginning_append (beginning rest : String) :
    dropBeginning (beginning ++ rest) beginning = rest := by
  have hprefix : beginning.toList.isPrefixOf (beginning ++ rest).toList = true := by
    rw [String.toList_append]
    exact List.isPrefixOf_iff_prefix.2 (List.prefix_append _ _)
  rw [dropBeginning, if_pos hprefix, String.toList_append, List.drop_left, String.ofList_toList]

/-- A text that has no such beginning stays whole. -/
theorem dropBeginning_eq_self {text beginning : String} (h : ∀ rest, text ≠ beginning ++ rest) :
    dropBeginning text beginning = text := by
  refine if_neg fun hprefix => ?_
  rcases List.isPrefixOf_iff_prefix.1 hprefix with ⟨rest, hrest⟩
  refine h (String.ofList rest) (String.toList_inj.1 ?_)
  rw [String.toList_append, String.toList_ofList, hrest]

end Text

/-! ## Parts of the tooltip -/

/-- The parts of a tooltip, from top to bottom. -/
inductive TooltipPart where
  | missingOperands
  | minOperands
  | minOptions
  | emptySlots
  | sequence
  | other
deriving DecidableEq

/-- The part of the tooltip that a violation belongs to. -/
def ViolationId.part : ViolationId → TooltipPart
  | missingOperand _ => .missingOperands
  | minOperands => .minOperands
  | minOptions => .minOptions
  | controlMissingSlot _ => .emptySlots
  | operatorEmptySlot _ => .emptySlots
  | sequence => .sequence
  | operatorStackedSlot _ => .sequence
  | operandRegex _ => .other
  | optionArgRegex _ => .other

variable {violations : List Violation} {id : ViolationId} {part : TooltipPart}

/-- The violations of a part, in the order given. -/
def inPart (part : TooltipPart) (violations : List Violation) : List Violation :=
  violations.filter fun violation => violation.id.part = part

/-- The violations above the separator: everything missing. -/
def upper (violations : List Violation) : List Violation :=
  inPart .missingOperands violations ++ inPart .minOperands violations ++
    inPart .minOptions violations ++ inPart .emptySlots violations

/-- The violations below the separator. -/
def lower (violations : List Violation) : List Violation :=
  inPart .sequence violations ++ inPart .other violations

/-- A part holds each of its violations as often as the list does. -/
theorem count_inPart (part : TooltipPart) (violations : List Violation) (violation : Violation) :
    (inPart part violations).count violation =
      if violation.id.part = part then violations.count violation else 0 := by
  by_cases hpart : violation.id.part = part
  · rw [if_pos hpart]
    exact List.count_filter (decide_eq_true hpart)
  · rw [if_neg hpart, List.count_eq_zero]
    exact fun hmem => hpart (of_decide_eq_true (List.mem_filter.1 hmem).2)

/-- Every violation is in one part, as often as it is given. -/
theorem perm_parts (violations : List Violation) :
    (upper violations ++ lower violations).Perm violations := by
  refine List.perm_iff_count.2 fun violation => ?_
  simp only [upper, lower, List.count_append, count_inPart]
  cases violation.id.part <;> simp

/-! ## Segments -/

/-- What a part of the tooltip says of a violation. -/
def TooltipPart.line (violation : Violation) : TooltipPart → String
  | missingOperands => "    - " ++ Text.dropBeginning violation.message missingOperandLead
  | minOperands => bullet violation
  | minOptions => bullet violation
  | emptySlots => bullet violation
  | sequence => "! " ++ violation.message
  | other => "! " ++ violation.message

/-- What the tooltip says of a violation. -/
def Violation.segment (violation : Violation) : String :=
  violation.id.part.line violation

/-- A message without the lead of messages about missing operands, when it has that lead. -/
inductive Unled : String → String → Prop where
  | led (rest : String) : Unled (missingOperandLead ++ rest) rest
  | whole {message : String} (h : ∀ rest, message ≠ missingOperandLead ++ rest) :
      Unled message message

theorem unled_dropBeginning (message : String) :
    Unled message (Text.dropBeginning message missingOperandLead) := by
  by_cases hled : ∃ rest, message = missingOperandLead ++ rest
  · rcases hled with ⟨rest, rfl⟩
    rw [Text.dropBeginning_append]
    exact .led rest
  · have hwhole : ∀ rest, message ≠ missingOperandLead ++ rest := not_exists.1 hled
    rw [Text.dropBeginning_eq_self hwhole]
    exact .whole hwhole

/-- The segments of a part are its lines. -/
theorem map_line_inPart (part : TooltipPart) (violations : List Violation) :
    (inPart part violations).map part.line = (inPart part violations).map Violation.segment :=
  List.map_congr_left fun violation hmem => by
    rw [Violation.segment, of_decide_eq_true (List.mem_filter.1 hmem).2]

/-! ## The four selections and the rest -/

theorem filter_isMissingOperand (violations : List Violation) :
    violations.filter Violation.isMissingOperand = inPart .missingOperands violations := by
  refine List.filter_congr fun violation _ => ?_
  rw [Violation.isMissingOperand]
  cases violation.id <;> rfl

theorem filter_isEmptySlot (violations : List Violation) :
    violations.filter Violation.isEmptySlot = inPart .emptySlots violations := by
  refine List.filter_congr fun violation _ => ?_
  rw [Violation.isEmptySlot]
  cases violation.id <;> rfl

/-- The heading stands over missing operands only. -/
def headings (violations : List Violation) : List String :=
  if inPart .missingOperands violations = [] then [] else [missingOperandsHeading]

/-- The lines for missing operands are their segments under a heading. -/
theorem missingOperandLines_eq (violations : List Violation) :
    missingOperandLines violations =
      headings violations ++ (inPart .missingOperands violations).map Violation.segment := by
  rw [missingOperandLines, filter_isMissingOperand, headings, ← map_line_inPart]
  cases inPart .missingOperands violations with
  | nil => rfl
  | cons first rest => rfl

/-- Where no id occurs twice, the first violation with an id is the only one. -/
theorem toList_find?_id (hids : (violations.map Violation.id).Nodup) :
    (violations.find? fun violation => violation.id == id).toList =
      violations.filter fun violation => violation.id == id := by
  induction violations with
  | nil => rfl
  | cons first rest ih =>
    rcases List.nodup_cons.1 hids with ⟨hfirst, hrest⟩
    rw [List.find?_cons, List.filter_cons]
    cases hid : first.id == id with
    | false => exact ih hrest
    | true =>
      have hothers : rest.filter (fun violation => violation.id == id) = [] := by
        refine List.filter_eq_nil_iff.2 fun violation hmem hsame => hfirst ?_
        rw [beq_iff_eq.1 hid, ← beq_iff_eq.1 hsame]
        exact List.mem_map_of_mem hmem
      rw [if_pos rfl, hothers]
      rfl

/-- So a part for one id is shown by the line about the first violation with that id. -/
theorem firstLine_eq (hids : (violations.map Violation.id).Nodup)
    (hpart : ∀ other : ViolationId, other.part = part ↔ other = id) :
    firstLine id violations = (inPart part violations).map bullet := by
  have hsame : (violations.filter fun violation => violation.id == id) = inPart part violations :=
    List.filter_congr fun violation _ => by simp only [hpart, beq_eq_decide]
  rw [firstLine, Option.toList_map, toList_find?_id hids, hsame]

theorem part_eq_minOperands_iff (id : ViolationId) :
    id.part = .minOperands ↔ id = .minOperands := by
  cases id <;> simp [ViolationId.part]

theorem part_eq_minOptions_iff (id : ViolationId) : id.part = .minOptions ↔ id = .minOptions := by
  cases id <;> simp [ViolationId.part]

/-- The lines about everything missing are the segments above the separator, under the heading of
the missing operands. -/
theorem missingLines_eq (hids : (violations.map Violation.id).Nodup) :
    missingLines violations =
      headings violations ++ (upper violations).map Violation.segment := by
  have hoperands : firstLine .minOperands violations =
      (inPart .minOperands violations).map Violation.segment :=
    (firstLine_eq hids part_eq_minOperands_iff).trans (map_line_inPart .minOperands violations)
  have hoptions : firstLine .minOptions violations =
      (inPart .minOptions violations).map Violation.segment :=
    (firstLine_eq hids part_eq_minOptions_iff).trans (map_line_inPart .minOptions violations)
  have hslots : (inPart .emptySlots violations).map bullet =
      (inPart .emptySlots violations).map Violation.segment :=
    map_line_inPart .emptySlots violations
  rw [missingLines, missingOperandLines_eq, hoperands, hoptions, filter_isEmptySlot, hslots, upper]
  simp only [List.map_append, List.append_assoc]

/-- What is not missing is what is in the wrong order, and then the rest. -/
theorem filter_ordered (violations : List Violation) :
    (ordered violations).filter (fun violation => violation.id.category != .missing) =
      lower violations := by
  have hmissing : (inCategory .missing violations).filter
      (fun violation => violation.id.category != .missing) = [] :=
    List.filter_eq_nil_iff.2 fun violation hmem => by simp [category_of_mem_inCategory hmem]
  have hkept : ∀ category ≠ ViolationCategory.missing,
      (inCategory category violations).filter
        (fun violation => violation.id.category != .missing) = inCategory category violations :=
    fun category hcategory => List.filter_eq_self.2 fun violation hmem => by
      simpa [category_of_mem_inCategory hmem] using hcategory
  have hsequence : inCategory .sequence violations = inPart .sequence violations :=
    List.filter_congr fun violation _ => by cases violation.id <;> rfl
  have hother : inCategory .other violations = inPart .other violations :=
    List.filter_congr fun violation _ => by cases violation.id <;> rfl
  rw [ordered_eq, List.filter_append, List.filter_append, hmissing, hkept .sequence (by decide),
    hkept .other (by decide), hsequence, hother, List.nil_append, lower]

/-- The lines about everything else are the segments below the separator. -/
theorem otherLines_eq (violations : List Violation) :
    otherLines violations = (lower violations).map Violation.segment := by
  have hsequence := map_line_inPart .sequence violations
  have hother := map_line_inPart .other violations
  rw [otherLines, filter_ordered, lower, List.map_append, List.map_append, ← hsequence, ← hother]
  rfl

/-! ## The whole tooltip -/

/-- The separator stands only between violations. -/
def separators (violations : List Violation) : List String :=
  if upper violations = [] ∨ lower violations = [] then [] else [separator]

/-- There are lines about something missing exactly when something is. -/
theorem missingLines_isEmpty (hids : (violations.map Violation.id).Nodup) :
    (missingLines violations).isEmpty = true ↔ upper violations = [] := by
  rw [List.isEmpty_iff, missingLines_eq hids, List.append_eq_nil_iff, List.map_eq_nil_iff]
  refine and_iff_right_of_imp fun hupper => if_pos ?_
  rw [upper, List.append_assoc, List.append_assoc] at hupper
  exact (List.append_eq_nil_iff.1 hupper).1

/-- The tooltip of violations with different ids tells each of them exactly once: first the missing
operands under their heading, the minimums and the empty slots, then, after a separator if something
stands on both sides of it, what is in the wrong order and the rest.  Missing operands are told
without the lead of their messages. -/
theorem warningText_tells (hsome : violations ≠ []) (hids : (violations.map Violation.id).Nodup) :
    warningText violations = some ("\n".intercalate
        (headings violations ++ (upper violations).map Violation.segment ++ separators violations ++
          (lower violations).map Violation.segment)) ∧
      (upper violations ++ lower violations).Perm violations ∧
      ∀ violation ∈ violations, violation.id.part = .missingOperands →
        ∃ told, Unled violation.message told ∧ violation.segment = "    - " ++ told := by
  have hnonempty : ¬ violations.isEmpty = true := fun hnil => hsome (List.isEmpty_iff.1 hnil)
  have hmiddle : (if (missingLines violations).isEmpty || (otherLines violations).isEmpty then []
      else [separator]) = separators violations := by
    refine if_congr ?_ rfl rfl
    rw [Bool.or_eq_true, missingLines_isEmpty hids, otherLines_eq, List.isEmpty_iff,
      List.map_eq_nil_iff]
  refine ⟨?_, perm_parts violations, fun violation _ hpart => ?_⟩
  · rw [warningText, if_neg hnonempty]
    simp only [hmiddle]
    rw [missingLines_eq hids, otherLines_eq]
  · exact ⟨_, unled_dropBeginning violation.message, by rw [Violation.segment, hpart]; rfl⟩

/-- Five violations of one block, recorded in no good order. -/
def jumbled : List Violation :=
  [⟨.operandRegex 0, "Digits only."⟩, ⟨.sequence, "Bad order."⟩,
    ⟨.minOptions, "Missing required options (1)."⟩,
    ⟨.missingOperand "target", "Where to?"⟩,
    ⟨.missingOperand "file", "Missing operand: File (needs 1)."⟩]

/-- The missing operands come first, and only one of their messages has a lead to lose. -/
theorem warningText_jumbled :
    jumbled ≠ [] ∧ (jumbled.map Violation.id).Nodup ∧
      warningText jumbled = some ("Missing operands:\n    - Where to?\n    - File (needs 1).\n" ++
        "* Missing required options (1).\n----------------\n! Bad order.\n! Digits only.") := by
  have hsome : jumbled ≠ [] := List.cons_ne_nil _ _
  have hids : (jumbled.map Violation.id).Nodup := by decide
  refine ⟨hsome, hids, ?_⟩
  rw [(warningText_tells hsome hids).1]
  decide +kernel

end ShellComposer
