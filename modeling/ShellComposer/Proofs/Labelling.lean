import ShellComposer.Proofs.Bookkeeping
import ShellComposer.Proofs.Mutating
import ShellComposer.Proofs.Rereading

/-!
# Ids are told apart by their texts

The text of an id begins with a fixed lead, one for each kind of id, and goes on with a name out of
the catalog, which may be any text, or with the number of a rule.  No lead is the beginning of
another one, so a text shows where its lead ends, whatever follows: it says of which kind the id is,
and then what the id is about.  The records of a block have different ids, and so they are shown
under different texts.

Main results:

- Definition `ViolationKind.lead` and theorem `ViolationKind.lead_append_inj`: a text begins with
  one lead only.
- Theorem `ViolationId.text_inj`: an id is known by its text.
- Definition `shownIds` and theorem `shown_apart`: no two records of a block are shown under one
  text.
-/

namespace ShellComposer

/-! ## Leads -/

/-- The kinds of ids. -/
inductive ViolationKind where
  | minOptions
  | minOperands
  | missingOperand
  | sequence
  | controlMissingSlot
  | operatorEmptySlot
  | operatorStackedSlot
  | operandRegex
  | optionArgRegex
deriving DecidableEq

namespace ViolationKind

/-- What the texts of all ids of a kind begin with. -/
def lead : ViolationKind → String
  | minOptions => "CARDINALITY_MIN_OPTIONS"
  | minOperands => "CARDINALITY_MIN_OPERANDS"
  | missingOperand => "CARDINALITY_MISSING_OPERAND_"
  | sequence => "SYNTAX_ERROR"
  | controlMissingSlot => "CONTROL_MISSING_SLOT_"
  | operatorEmptySlot => "OPERATOR_EMPTY_SLOT_"
  | operatorStackedSlot => "OPERATOR_STACKED_SLOT_"
  | operandRegex => "OPERAND_REGEX_"
  | optionArgRegex => "OPTION_ARG_REGEX_"

/-- No lead is the beginning of another one. -/
theorem eq_of_prefix_lead {kind kind' : ViolationKind}
    (h : kind.lead.toList <+: kind'.lead.toList) : kind = kind' := by
  revert h
  cases kind <;> cases kind' <;> decide

/-- So a text begins with one lead only, and with one text behind it. -/
theorem lead_append_inj {kind kind' : ViolationKind} {rest rest' : String}
    (h : kind.lead ++ rest = kind'.lead ++ rest') : kind = kind' ∧ rest = rest' := by
  have hchars : kind.lead.toList ++ rest.toList = kind'.lead.toList ++ rest'.toList := by
    rw [← String.toList_append, ← String.toList_append, h]
  have hkind : kind = kind' := by
    have hleft : kind.lead.toList <+: kind.lead.toList ++ rest.toList := List.prefix_append _ _
    have hright : kind'.lead.toList <+: kind.lead.toList ++ rest.toList :=
      hchars ▸ List.prefix_append _ _
    rcases List.prefix_or_prefix_of_prefix hleft hright with hprefix | hprefix
    · exact eq_of_prefix_lead hprefix
    · exact (eq_of_prefix_lead hprefix).symm
  subst hkind
  exact ⟨rfl, String.toList_inj.1 (List.append_cancel_left hchars)⟩

end ViolationKind

/-! ## Texts -/

namespace ViolationId

/-- The kind of an id. -/
def kind : ViolationId → ViolationKind
  | minOptions => .minOptions
  | minOperands => .minOperands
  | missingOperand _ => .missingOperand
  | sequence => .sequence
  | controlMissingSlot _ => .controlMissingSlot
  | operatorEmptySlot _ => .operatorEmptySlot
  | operatorStackedSlot _ => .operatorStackedSlot
  | operandRegex _ => .operandRegex
  | optionArgRegex _ => .optionArgRegex

/-- What the text of an id has behind the lead. -/
def detail : ViolationId → String
  | minOptions => ""
  | minOperands => ""
  | missingOperand operand => operand
  | sequence => ""
  | controlMissingSlot slot => slot
  | operatorEmptySlot slot => slot
  | operatorStackedSlot slot => slot
  | operandRegex rule => Nat.repr rule
  | optionArgRegex rule => Nat.repr rule

/-- The text of an id is the lead of its kind and its detail. -/
theorem text_eq_lead_append (id : ViolationId) : id.text = id.kind.lead ++ id.detail := by
  cases id with
  | minOptions => exact String.append_empty.symm
  | minOperands => exact String.append_empty.symm
  | sequence => exact String.append_empty.symm
  | _ => rfl

/-- The id of a kind with a detail. -/
def ofDetail (detail : String) : ViolationKind → ViolationId
  | .minOptions => minOptions
  | .minOperands => minOperands
  | .missingOperand => missingOperand detail
  | .sequence => sequence
  | .controlMissingSlot => controlMissingSlot detail
  | .operatorEmptySlot => operatorEmptySlot detail
  | .operatorStackedSlot => operatorStackedSlot detail
  | .operandRegex => operandRegex (Json.Numeral.digitsValue detail.toList)
  | .optionArgRegex => optionArgRegex (Json.Numeral.digitsValue detail.toList)

/-- An id is known by its kind and its detail. -/
theorem ofDetail_kind (id : ViolationId) : ofDetail id.detail id.kind = id := by
  have hnumber : ∀ rule : Nat, Json.Numeral.digitsValue (Nat.repr rule).toList = rule := by
    intro rule
    rw [Nat.toList_repr, Json.Numeral.digitsValue_toDigits]
  cases id with
  | operandRegex rule => exact congrArg operandRegex (hnumber rule)
  | optionArgRegex rule => exact congrArg optionArgRegex (hnumber rule)
  | _ => rfl

/-- An id is known by its text. -/
theorem text_inj {id id' : ViolationId} : id.text = id'.text ↔ id = id' := by
  constructor
  · intro htext
    rw [text_eq_lead_append, text_eq_lead_append] at htext
    rcases ViolationKind.lead_append_inj htext with ⟨hkind, hdetail⟩
    rw [← ofDetail_kind id, ← ofDetail_kind id', hkind, hdetail]
  · exact congrArg text

end ViolationId

/-! ## Records as they are shown -/

/-- The value of a member of an object. -/
def Json.Value.member? (name : String) : Json.Value → Option Json.Value
  | .object members => members.lookup name
  | _ => none

/-- The ids under which records are shown, each in the object of its record. -/
def shownIds (records : List Violation) : List (Option Json.Value) :=
  records.map fun record => record.encode.member? "id"

variable {records : List Violation}

/-- Records with different ids are shown under different texts. -/
theorem nodup_shownIds (h : (records.map Violation.id).Nodup) : (shownIds records).Nodup := by
  have hshown : shownIds records =
      (records.map Violation.id).map fun id => some (Json.Value.string id.text) := by
    rw [shownIds, List.map_map]
    rfl
  rw [hshown]
  refine h.map fun id id' hsame => ViolationId.text_inj.1 ?_
  exact Json.Value.string.inj (Option.some.inj hsame)

/-- A workspace keeps no two records of a block with one id. -/
theorem Workspace.Consistent.nodup_ids {w : Workspace} (h : w.Consistent) (id : BlockId) :
    ((w.violations id).map Violation.id).Nodup := by
  rw [h.violations_eq, Site.verdict]
  split
  · rw [lastRecords_eq_lastOfEach]
    exact nodup_ids_lastOfEach _
  · exact List.nodup_nil

/-- Two ids have the same text only if they are the same, whatever names and numbers they hold.  So
no two records of a block are shown under one text, in a ledger after any calls and in a workspace
after any changes. -/
theorem shown_apart :
    (∀ id id' : ViolationId, id.text = id'.text ↔ id = id') ∧
      (∀ (calls : List LedgerCall) (block : BlockId),
        (shownIds ((Ledger.afterCalls calls).get block)).Nodup) ∧
      ∀ (catalog : Catalog) (settings : Settings) (mutations : List Mutation) (block : BlockId),
        (shownIds ((Workspace.run catalog settings mutations).violations block)).Nodup := by
  refine ⟨fun id id' => ViolationId.text_inj, fun calls block => ?_, ?_⟩
  · refine nodup_shownIds ?_
    rw [Ledger.get_afterCalls]
    exact nodup_ids_lastOfEach _
  · intro catalog settings mutations block
    exact nodup_shownIds ((Workspace.run_consistent catalog settings mutations).nodup_ids block)

end ShellComposer
