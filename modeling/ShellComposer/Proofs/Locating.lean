import ShellComposer.Proofs.Rearranging

/-!
# Finding values in a document

A value deep in a document is reached step by step, through fields of records and items of lists.
Where the document is decoded, so is each of these values, and what it is decoded to is found at the
same place in the result.

Main results:

- Inductive type `Step` and definition `Leads`: the way to a value in a document.
- Structures `Fields.Yields` and `Fields.Finds`: what is known of all records that some fields make,
  and which part of them is decoded from which field.
- Theorem `Fields.Finds.record`: the value of a field is decoded to its part of the record.
- Theorem `exists_getElem?_of_decodeList`: an item is decoded to the item at its position.
-/

namespace ShellComposer.Json

/-! ## Ways -/

/-- A step into a document: to a field of a record, by its name or its position, or to an item of a
list. -/
inductive Step where
  | field (name : String) (position : Nat)
  | item (i : Nat)
deriving DecidableEq, Repr

/-- A step leads from a record to the value of a field, and from a list to one of its items. -/
inductive Step.Leads : Step → Tree → Tree → Prop where
  | member {name : String} {position : Nat} {members : List Member} {closed : Bool} {value : Tree}
      (h : (some name, value) ∈ members) :
      Leads (.field name position) (.object members closed) value
  | position {name : String} {position : Nat} {items : List Tree} {closed : Bool} {value : Tree}
      (h : items[position]? = some value) :
      Leads (.field name position) (.array items closed) value
  | item {i : Nat} {items : List Tree} {closed : Bool} {value : Tree}
      (h : items[i]? = some value) : Leads (.item i) (.array items closed) value

/-- Several steps lead from a document to a value in it. -/
def Leads : List Step → Tree → Tree → Prop
  | [], tree, value => tree = value
  | step :: steps, tree, value => ∃ next, step.Leads tree next ∧ Leads steps next value

/-! ## Lists -/

section Lists

variable {α : Type} {decode : Decoder α} {room i : Nat} {tree value : Tree} {as : List α}

/-- Each item of a list that is read is read as what stands in its place. -/
theorem exists_getElem?_of_forall₂ {R : Tree → α → Prop} {items : List Tree}
    (h : List.Forall₂ R items as) (hitem : items[i]? = some value) :
    ∃ a, as[i]? = some a ∧ R value a := by
  induction h generalizing i with
  | nil => simp at hitem
  | @cons item a items as hfirst _ ih =>
    cases i with
    | zero =>
      obtain rfl := Option.some.inj hitem
      exact ⟨a, rfl, hfirst⟩
    | succ i => exact ih hitem

/-- An item of a list is decoded to the item at its position. -/
theorem exists_getElem?_of_decodeList (h : decodeList decode room tree = .ok as)
    (hleads : (Step.item i).Leads tree value) :
    ∃ room' a, as[i]? = some a ∧ decode room' value = .ok a := by
  rcases decodeList_eq_ok_iff.1 h with ⟨room', items, rfl, rfl, hitems⟩
  cases hleads with
  | item hitem =>
    rcases exists_getElem?_of_forall₂ hitems hitem with ⟨a, ha, hdecode⟩
    exact ⟨room', a, ha, hdecode⟩

end Lists

/-! ## Fields -/

namespace Fields

variable {α β γ : Type} {room position count : Nat} {name : String} {others : List String}
variable {decode : Decoder α} {noMember noItem : Option α}

/-- What is known of all records that some fields make, and how many items they take. -/
structure Yields (fields : Fields α) (count : Nat) (P : α → Prop) : Prop where
  members : ∀ {room : Nat} {members : List Member} {a : α},
    fields.fromMembers room members = .value a → P a
  items : ∀ {room : Nat} {items rest : List Tree} {a : α},
    fields.fromItems room items = .ok (a, rest) → P a ∧ rest = items.drop count

/-- One of some fields is decoded to a part of the records that they make. -/
structure Finds (fields : Fields α) (name : String) (position : Nat) (decode : Decoder β)
    (R : α → β → Prop) : Prop where
  members : ∀ {room : Nat} {members : List Member} {a : α} {value : Tree},
    fields.fromMembers room members = .value a → (some name, value) ∈ members →
    ∃ b, decode room value = .ok b ∧ R a b
  items : ∀ {room : Nat} {items rest : List Tree} {a : α} {value : Tree},
    fields.fromItems room items = .ok (a, rest) → items[position]? = some value →
    ∃ b, decode room value = .ok b ∧ R a b

/-- A member with the name of a field is decoded as the field. -/
theorem decode_of_fromMembers_field {members : List Member} {a : α} {value : Tree}
    (h : (Fields.field name others decode noMember noItem).fromMembers room members = .value a)
    (hmember : (some name, value) ∈ members) : decode room value = .ok a := by
  have hgiven : value ∈ given (name :: others) members :=
    mem_given.2 ⟨name, List.mem_cons_self, hmember⟩
  rcases fromMembers_field_eq_value_iff.1 h with ⟨value', hvalue, hdecode⟩ | ⟨hnone, -⟩
  · rw [hvalue, List.mem_singleton] at hgiven
    rwa [hgiven]
  · rw [hnone] at hgiven
    cases hgiven

/-- A field given by position is decoded from the first item. -/
theorem fromItems_field {items rest : List Tree} {a : α}
    (h : (Fields.field name others decode noMember noItem).fromItems room items = .ok (a, rest)) :
    rest = items.drop 1 ∧ ∀ value, items[0]? = some value → decode room value = .ok a := by
  cases items with
  | nil =>
    unfold Fields.field at h
    dsimp only at h
    split at h
    · obtain ⟨-, rfl⟩ := Prod.mk.inj (Except.ok.inj h)
      exact ⟨rfl, fun _ hnone => nomatch hnone⟩
    · cases h
  | cons item more =>
    rcases Misread.bind_eq_ok_iff.1 h with ⟨b, hdecode, hresult⟩
    obtain ⟨rfl, rfl⟩ := Prod.mk.inj (Except.ok.inj hresult)
    refine ⟨rfl, fun value hvalue => ?_⟩
    rwa [← Option.some.inj hvalue]

section Combined

variable {first : Fields β} {combine : β → α → γ} {P : γ → Prop} {R : γ → α → Prop}

/-- One more field makes whatever is made of any value of it. -/
theorem Yields.both (h : first.Yields count fun b => ∀ a, P (combine b a)) :
    (Fields.both combine first (Fields.field name others decode noMember noItem)).Yields
      (count + 1) P where
  members hvalue := by
    rcases Outcome.both_eq_value_iff.1 hvalue with ⟨b, a, hfirst, -, rfl⟩
    exact h.members hfirst a
  items hitems := by
    rcases fromItems_both_eq_ok_iff.1 hitems with ⟨b, a, more, hfirst, hsecond, rfl⟩
    rcases h.items hfirst with ⟨hall, rfl⟩
    exact ⟨hall a, (fromItems_field hsecond).1.trans List.drop_drop⟩

/-- A field behind others is found at the position behind theirs. -/
theorem Yields.finds_both (h : first.Yields count fun b => ∀ a, R (combine b a) a) :
    (Fields.both combine first (Fields.field name others decode noMember noItem)).Finds name count
      decode R where
  members hvalue hmember := by
    rcases Outcome.both_eq_value_iff.1 hvalue with ⟨b, a, hfirst, hsecond, rfl⟩
    exact ⟨a, decode_of_fromMembers_field hsecond hmember, h.members hfirst a⟩
  items hitems hitem := by
    rcases fromItems_both_eq_ok_iff.1 hitems with ⟨b, a, more, hfirst, hsecond, rfl⟩
    rcases h.items hfirst with ⟨hall, rfl⟩
    refine ⟨a, (fromItems_field hsecond).2 _ ?_, hall a⟩
    rwa [List.getElem?_drop, Nat.add_zero]

end Combined

/-- What holds of nothing read holds of a constant. -/
theorem yields_constant {P : Prop} (h : P) : (constant ()).Yields 0 fun _ => P where
  members _ := h
  items hitems := ⟨h, (Prod.mk.inj (Except.ok.inj hitems)).2.symm⟩

/-- A first field makes whatever is made of any value of it. -/
theorem yields_map {f : α → β} {P : β → Prop} (h : ∀ a, P (f a)) :
    (f <$> Fields.field name others decode noMember noItem).Yields 1 P :=
  (yields_constant h).both

/-- A field more does not change what the fields before it yield. -/
theorem Yields.seq {functions : Fields (α → β)} {P : β → Prop}
    (h : functions.Yields count fun f => ∀ a, P (f a)) :
    (functions <*> Fields.field name others decode noMember noItem).Yields (count + 1) P :=
  h.both

/-- A first field is found at the first position. -/
theorem finds_map {f : α → β} {R : β → α → Prop} (h : ∀ a, R (f a) a) :
    (f <$> Fields.field name others decode noMember noItem).Finds name 0 decode R :=
  (yields_constant h).finds_both

/-- What the fields yield for any value of the last one, they find for the value that is read. -/
theorem Yields.finds {functions : Fields (α → β)} {R : β → α → Prop}
    (h : functions.Yields count fun f => ∀ a, R (f a) a) :
    (functions <*> Fields.field name others decode noMember noItem).Finds name count decode R :=
  h.finds_both

/-- A field is found no matter which fields are declared after it. -/
theorem Finds.seq {functions : Fields (α → β)} {fields : Fields α} {decode : Decoder γ}
    {R : β → γ → Prop} (h : functions.Finds name position decode fun f c => ∀ a, R (f a) c) :
    (functions <*> fields).Finds name position decode R where
  members hvalue hmember := by
    rcases Outcome.both_eq_value_iff.1 hvalue with ⟨f, a, hfunctions, -, rfl⟩
    rcases h.members hfunctions hmember with ⟨c, hc, hall⟩
    exact ⟨c, hc, hall a⟩
  items hitems hitem := by
    rcases fromItems_both_eq_ok_iff.1 hitems with ⟨f, a, more, hfunctions, -, rfl⟩
    rcases h.items hfunctions hitem with ⟨c, hc, hall⟩
    exact ⟨c, hc, hall a⟩

/-- The value of a field of a record is decoded to its part of the record. -/
theorem Finds.record {fields : Fields α} {decode : Decoder β} {R : α → β → Prop}
    (h : fields.Finds name position decode R) {tree value : Tree} {a : α}
    (hdecode : fields.decoder room tree = .ok a)
    (hleads : (Step.field name position).Leads tree value) :
    ∃ room' b, decode room' value = .ok b ∧ R a b := by
  rcases decoder_eq_ok_iff.1 hdecode with
    ⟨room', members, rfl, rfl, hvalue, -⟩ | ⟨room', items, rfl, rfl, hitems⟩
  · cases hleads with
    | member hmember => exact ⟨room', h.members hvalue hmember⟩
  · cases hleads with
    | position hitem => exact ⟨room', h.items hitems hitem⟩

end Fields

end ShellComposer.Json
