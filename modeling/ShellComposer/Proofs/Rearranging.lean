import Mathlib.Data.List.Nodup
import Mathlib.Data.List.Pairwise
import Mathlib.Data.List.Forall2
import Mathlib.Logic.Relation
import ShellComposer.Proofs.Decoding

/-!
# Rearranged documents

The members of a record may stand in any order, under any of their names, and with members that are
no fields between them.  A document can be rearranged in this way wherever a record stands in it,
and it is still decoded to the same value.  What cannot be decoded is a document in which a record
gives a field twice, be it under two names.  Where records stand is told by a shape, and a decoder
keeps to a shape when both hold; a decoder of records keeps to the shape of a record when its fields
keep to theirs.

Main results:

- Inductive type `Shape`: where records stand in a document, and under which names they give what.
- Inductive relations `Rearranged` and `Repeats`: a document rearranged in one place, and a document
  that repeats a field somewhere.
- Structure `KeepsTo`: a decoder keeps to a shape.
- Theorems `KeepsTo.list`, `KeepsTo.nullable`: so do decoders of lists and of what may be null.
- Structure `Fields.KeepTo` with `Fields.KeepTo.map`, `seq` and `record`: fields keep to their
  shapes, and a record to its own.
- Theorem `KeepsTo.rearrange`: a document is decoded to the same value however it is rearranged.
-/

namespace ShellComposer.Json

open Relation

/-! ## Shapes -/

/-- Where records stand in a document: nowhere, in the items of a list, or here, with fields that
have some names and a shape each. -/
inductive Shape where
  | plain
  | list (item : Shape)
  | record (fields : List (List String × Shape))

/-- The names of a field, and the shape of its value. -/
abbrev FieldShape := List String × Shape

/-- A document rearranged in one place: the members of a record in another order, one more member
that is no field, or a field under another of its names. -/
inductive Rearranged : Shape → Tree → Tree → Prop where
  | permuted {fields : List FieldShape} {members members' : List Member} {closed : Bool}
      (h : members.Perm members') :
      Rearranged (.record fields) (.object members closed) (.object members' closed)
  | inserted {fields : List FieldShape} {before after : List Member} {name : String} {value : Tree}
      {closed : Bool} (hname : ∀ field ∈ fields, name ∉ field.1)
      (hvalue : value.wellFormed = true) :
      Rearranged (.record fields) (.object (before ++ after) closed)
        (.object (before ++ (some name, value) :: after) closed)
  | renamed {fields : List FieldShape} {field : FieldShape} {before after : List Member}
      {name name' : String} {value : Tree} {closed : Bool} (hfield : field ∈ fields)
      (hname : name ∈ field.1) (hname' : name' ∈ field.1) :
      Rearranged (.record fields) (.object (before ++ (some name, value) :: after) closed)
        (.object (before ++ (some name', value) :: after) closed)
  | member {fields : List FieldShape} {field : FieldShape} {before after : List Member}
      {name : String} {value value' : Tree} {closed : Bool} (hfield : field ∈ fields)
      (hname : name ∈ field.1) (h : Rearranged field.2 value value') :
      Rearranged (.record fields) (.object (before ++ (some name, value) :: after) closed)
        (.object (before ++ (some name, value') :: after) closed)
  | position {fields : List FieldShape} {field : FieldShape} {items : List Tree} {i : Nat}
      {item item' : Tree} {closed : Bool} (hfield : fields[i]? = some field)
      (hitem : items[i]? = some item) (h : Rearranged field.2 item item') :
      Rearranged (.record fields) (.array items closed) (.array (items.set i item') closed)
  | item {shape : Shape} {items : List Tree} {i : Nat} {item item' : Tree} {closed : Bool}
      (hitem : items[i]? = some item) (h : Rearranged shape item item') :
      Rearranged (.list shape) (.array items closed) (.array (items.set i item') closed)

/-- A document in which some record gives a field twice, under one name or under two. -/
inductive Repeats : Shape → Tree → Prop where
  | twice {fields : List FieldShape} {field : FieldShape} {before between after : List Member}
      {name name' : String} {value value' : Tree} {closed : Bool} (hfield : field ∈ fields)
      (hname : name ∈ field.1) (hname' : name' ∈ field.1) :
      Repeats (.record fields) (.object
        (before ++ (some name, value) :: (between ++ (some name', value') :: after)) closed)
  | member {fields : List FieldShape} {field : FieldShape} {members : List Member} {name : String}
      {value : Tree} {closed : Bool} (hfield : field ∈ fields) (hname : name ∈ field.1)
      (hmember : (some name, value) ∈ members) (h : Repeats field.2 value) :
      Repeats (.record fields) (.object members closed)
  | position {fields : List FieldShape} {field : FieldShape} {items : List Tree} {i : Nat}
      {item : Tree} {closed : Bool} (hfield : fields[i]? = some field)
      (hitem : items[i]? = some item) (h : Repeats field.2 item) :
      Repeats (.record fields) (.array items closed)
  | item {shape : Shape} {items : List Tree} {item : Tree} {closed : Bool} (hitem : item ∈ items)
      (h : Repeats shape item) : Repeats (.list shape) (.array items closed)

/-- A document that is well formed and repeats no field. -/
structure Proper (shape : Shape) (tree : Tree) : Prop where
  wellFormed : tree.wellFormed = true
  once : ¬ Repeats shape tree

/-! ## What is decoded -/

namespace Misread

variable {α β : Type} {result : Except Misread α}

/-- What is made of a result succeeds when there is a result. -/
theorem map_eq_ok_iff {f : α → β} {b : β} :
    result.map f = .ok b ↔ ∃ a, result = .ok a ∧ f a = b := by
  cases result <;> simp [Except.map]

/-- Two steps in a row succeed when the first does, and the second with its result. -/
theorem bind_eq_ok_iff {next : α → Except Misread β} {b : β} :
    (result >>= next) = .ok b ↔ ∃ a, result = .ok a ∧ next a = .ok b := by
  cases result <;> simp [bind, Except.bind]

end Misread

/-- Items have no defects when none of them has. -/
theorem wellFormedItems_iff {items : List Tree} :
    Tree.wellFormedItems items = true ↔ ∀ item ∈ items, item.wellFormed = true := by
  induction items with
  | nil => simp [Tree.wellFormedItems]
  | cons item rest ih => rw [Tree.wellFormedItems, Bool.and_eq_true, ih, List.forall_mem_cons]

/-- Members have no defects when the value of none has. -/
theorem wellFormedMembers_iff {members : List Member} :
    Tree.wellFormedMembers members = true ↔ ∀ member ∈ members, member.2.wellFormed = true := by
  induction members with
  | nil => simp [Tree.wellFormedMembers]
  | cons member rest ih => rw [Tree.wellFormedMembers, Bool.and_eq_true, ih, List.forall_mem_cons]

section Decoders

variable {α β γ : Type} {room : Nat} {shape : Shape} {tree tree' : Tree} {items items' : List Tree}

/-- A decoder keeps to a shape when whatever it decodes is proper, and is decoded to the same value
when it is rearranged. -/
structure KeepsTo (shape : Shape) (decode : Decoder α) : Prop where
  proper : ∀ {room : Nat} {tree : Tree} {a : α}, decode room tree = .ok a → Proper shape tree
  rearranged : ∀ {room : Nat} {tree tree' : Tree} {a : α}, decode room tree = .ok a →
    Rearranged shape tree tree' → decode room tree' = .ok a

variable {decode : Decoder α} {a : α} {as : List α}

/-- A document is decoded to the same value however often it is rearranged. -/
theorem KeepsTo.rearrange (h : KeepsTo shape decode) (hdecode : decode room tree = .ok a)
    (hrearranged : ReflTransGen (Rearranged shape) tree tree') : decode room tree' = .ok a := by
  induction hrearranged with
  | refl => exact hdecode
  | tail _ hstep ih => exact h.rearranged ih hstep

/-- A value that is unchanged or rearranged is decoded to the same value. -/
theorem KeepsTo.unchanged_or_rearranged (h : KeepsTo shape decode)
    (hdecode : decode room tree = .ok a) (hrearranged : ReflGen (Rearranged shape) tree tree') :
    decode room tree' = .ok a := by
  cases hrearranged with
  | refl => exact hdecode
  | single hstep => exact h.rearranged hdecode hstep

/-- A plain value can neither be rearranged nor repeat a field. -/
theorem keepsTo_plain
    (h : ∀ {room : Nat} {tree : Tree} {a : α}, decode room tree = .ok a → tree.wellFormed = true) :
    KeepsTo .plain decode where
  proper hdecode := ⟨h hdecode, fun hrepeats => nomatch hrepeats⟩
  rearranged _ hrearranged := nomatch hrearranged

/-- Null has no parts, and what is decoded from it can be decoded from nothing else. -/
theorem KeepsTo.nullable (h : KeepsTo shape decode) : KeepsTo shape (decodeNullable decode) where
  proper {room tree a} hdecode := by
    unfold decodeNullable at hdecode
    split at hdecode
    · exact ⟨rfl, fun hrepeats => nomatch hrepeats⟩
    · rcases Misread.map_eq_ok_iff.1 hdecode with ⟨a, hdecode, -⟩
      exact h.proper hdecode
  rearranged {room tree tree' a} hdecode hrearranged := by
    have hnull : tree ≠ .null := by
      rintro rfl
      nomatch hrearranged
    have hnull' : tree' ≠ .null := by
      rintro rfl
      nomatch hrearranged
    rw [decodeNullable_of_ne_null hnull] at hdecode
    rw [decodeNullable_of_ne_null hnull']
    rcases Misread.map_eq_ok_iff.1 hdecode with ⟨a, hvalue, rfl⟩
    exact Misread.map_eq_ok_iff.2 ⟨a, h.rearranged hvalue hrearranged, rfl⟩

/-! ## Lists -/

/-- Items are decoded when each of them is. -/
theorem mapM_eq_ok_iff : items.mapM (decode room) = .ok as ↔
    List.Forall₂ (fun item a => decode room item = .ok a) items as := by
  induction items generalizing as with
  | nil => simp [pure, Except.pure, eq_comm]
  | cons item rest ih =>
    rw [List.mapM_cons, Misread.bind_eq_ok_iff, List.forall₂_cons_left_iff]
    refine exists_congr fun a => ?_
    simp only [Misread.bind_eq_ok_iff, ih, pure, Except.pure, Except.ok.injEq, eq_comm (b := as)]
    constructor
    · rintro ⟨hitem, as, hrest, rfl⟩
      exact ⟨as, hitem, hrest, rfl⟩
    · rintro ⟨as, hitem, hrest, rfl⟩
      exact ⟨hitem, as, hrest, rfl⟩

/-- A list is decoded when it is closed and all its items are decoded. -/
theorem decodeList_eq_ok_iff : decodeList decode room tree = .ok as ↔
    ∃ room' items, room = room' + 1 ∧ tree = .array items true ∧
      List.Forall₂ (fun item a => decode room' item = .ok a) items as := by
  constructor
  · intro hdecode
    unfold decodeList at hdecode
    split at hdecode
    · rename_i room items closed
      rcases Misread.bind_eq_ok_iff.1 hdecode with ⟨values, hvalues, hresult⟩
      cases closed with
      | false => exact absurd hresult (by simp [throw, throwThe, MonadExceptOf.throw])
      | true =>
        obtain rfl : values = as := Except.ok.inj hresult
        exact ⟨room, items, rfl, rfl, mapM_eq_ok_iff.1 hvalues⟩
    · cases hdecode
  · rintro ⟨room, items, rfl, rfl, hitems⟩
    rw [decodeList, mapM_eq_ok_iff.2 hitems]
    rfl

/-- In a list that is decoded, an item may be exchanged for one that is decoded as the same. -/
theorem forall₂_set {R : Tree → α → Prop} (h : List.Forall₂ R items as) {i : Nat}
    {item item' : Tree} (hitem : items[i]? = some item) (hset : ∀ a, R item a → R item' a) :
    List.Forall₂ R (items.set i item') as := by
  induction h generalizing i with
  | nil => simp at hitem
  | cons hfirst hrest ih =>
    cases i with
    | zero =>
      obtain rfl := Option.some.inj hitem
      exact .cons (hset _ hfirst) hrest
    | succ i => exact .cons hfirst (ih hitem)

/-- A list keeps to its shape when its items keep to theirs. -/
theorem KeepsTo.list (h : KeepsTo shape decode) : KeepsTo (.list shape) (decodeList decode) where
  proper {room tree as} hdecode := by
    rcases decodeList_eq_ok_iff.1 hdecode with ⟨room, items, rfl, rfl, hitems⟩
    have hproper : ∀ item ∈ items, Proper shape item :=
      ((List.forall₂_and_left _ _).1 (hitems.imp fun _ _ ha => ⟨h.proper ha, ha⟩)).1
    refine ⟨?_, fun hrepeats => ?_⟩
    · rw [Tree.wellFormed, wellFormedItems_iff.2 fun item hitem => (hproper item hitem).wellFormed]
      rfl
    · cases hrepeats with
      | item hitem hagain => exact (hproper _ hitem).once hagain
  rearranged {room tree tree' as} hdecode hrearranged := by
    rcases decodeList_eq_ok_iff.1 hdecode with ⟨room, items, rfl, rfl, hitems⟩
    cases hrearranged with
    | @item _ _ i item item' _ hitem hstep =>
      refine decodeList_eq_ok_iff.2 ⟨room, items.set i item', rfl, rfl, ?_⟩
      exact forall₂_set hitems hitem fun _ ha => h.rearranged ha hstep

end Decoders

/-! ## Fields -/

/-- Two outcomes have a value when each of them has. -/
theorem Outcome.both_eq_value_iff {α β γ : Type} {combine : α → β → γ} {first : Outcome α}
    {second : Outcome β} {c : γ} : Outcome.both combine first second = .value c ↔
      ∃ a b, first = .value a ∧ second = .value b ∧ combine a b = c := by
  cases first with
  | value a => cases second <;> simp [Outcome.both]
  | fault p cause =>
    cases second with
    | value b => simp [Outcome.both]
    | fault q cause' =>
      rw [Outcome.both]
      split <;> simp

namespace Fields

variable {α β γ : Type} {room : Nat} {names : List String} {members members' : List Member}
variable {before after : List Member} {name : String} {value : Tree} {field : FieldShape}
variable {shapes shapes' later : List FieldShape} {items items' rest : List Tree} {a : α}

/-- A member with one of the names has its value under them. -/
theorem valueUnder_of_mem (hname : name ∈ names) (value : Tree) :
    valueUnder names (some name, value) = some value :=
  if_pos (List.contains_iff_mem.2 hname)

/-- A member with another name has none under them. -/
theorem valueUnder_of_not_mem (hname : name ∉ names) (value : Tree) :
    valueUnder names (some name, value) = none :=
  if_neg fun hmem => hname (List.contains_iff_mem.1 hmem)

/-- What is given under some names is the value of a member with one of them. -/
theorem mem_given : value ∈ given names members ↔
    ∃ name ∈ names, (some name, value) ∈ members := by
  rw [given, List.mem_filterMap]
  constructor
  · rintro ⟨⟨_ | name, value'⟩, hmember, hvalue⟩
    · cases hvalue
    · rw [valueUnder, Option.ite_none_right_eq_some] at hvalue
      obtain rfl := Option.some.inj hvalue.2
      exact ⟨name, List.contains_iff_mem.1 hvalue.1, hmember⟩
  · rintro ⟨name, hname, hmember⟩
    exact ⟨_, hmember, valueUnder_of_mem hname value⟩

/-- A member more gives its value at its place, if it has one of the names. -/
theorem given_insert (before after : List Member) (member : Member) :
    given names (before ++ member :: after) =
      given names before ++ ((valueUnder names member).toList ++ given names after) := by
  rw [given, List.filterMap_append, List.filterMap_cons]
  cases valueUnder names member <;> rfl

/-- A field has a value when its member is given once and decoded, or left out and has a default. -/
theorem fromMembers_field_eq_value_iff {others : List String} {decode : Decoder α}
    {noMember noItem : Option α} :
    (Fields.field name others decode noMember noItem).fromMembers room members = .value a ↔
      (∃ value, given (name :: others) members = [value] ∧ decode room value = .ok a) ∨
      given (name :: others) members = [] ∧ noMember = some a := by
  unfold Fields.field
  rw [← map_fst_occurrences]
  dsimp only
  rcases occurrences (name :: others) members with _ | ⟨⟨value, position⟩, more⟩
  · cases noMember <;> simp [fromOccurrences]
  · simp only [fromOccurrences, List.map_cons]
    cases hdecode : decode room value with
    | error cause =>
      simp only [reduceCtorEq, false_iff]
      rintro (⟨_, hgiven, hok⟩ | ⟨hgiven, -⟩)
      · rw [← (List.cons.inj hgiven).1, hdecode] at hok
        cases hok
      · cases hgiven
    | ok result =>
      cases more with
      | nil => simp [hdecode]
      | cons again more => simp

/-- The values that an object gives for a field are proper, and there is at most one. -/
structure GivenProperly (field : FieldShape) (members : List Member) : Prop where
  once : (given field.1 members).length ≤ 1
  proper : ∀ value ∈ given field.1 members, Proper field.2 value

/-- Two objects give the same values for a field, in whatever order, some of them rearranged. -/
def Alike (field : FieldShape) (members members' : List Member) : Prop :=
  ∃ values, List.Forall₂ (ReflGen (Rearranged field.2)) (given field.1 members) values ∧
    values.Perm (given field.1 members')

/-- The items of an array are proper values for the fields at their positions. -/
def ProperItems : List FieldShape → List Tree → Prop
  | [], items => items = []
  | _ :: _, [] => True
  | field :: shapes, item :: rest => Proper field.2 item ∧ ProperItems shapes rest

/-- One of the items is rearranged as a value for the field at its position. -/
inductive RearrangedItem : List FieldShape → List Tree → List Tree → Prop where
  | here {field : FieldShape} {shapes : List FieldShape} {item item' : Tree} {rest : List Tree}
      (h : Rearranged field.2 item item') :
      RearrangedItem (field :: shapes) (item :: rest) (item' :: rest)
  | there {field : FieldShape} {shapes : List FieldShape} {item : Tree} {rest rest' : List Tree}
      (h : RearrangedItem shapes rest rest') :
      RearrangedItem (field :: shapes) (item :: rest) (item :: rest')

/-- Fields keep to their shapes when whatever they are read from gives proper values for them, and
they are read in the same way from other members and items alike.  Of several items the fields take
the first, and leave the rest to the fields that are declared later. -/
structure KeepTo (fields : Fields α) (shapes : List FieldShape) : Prop where
  names_eq : fields.names = shapes.flatMap Prod.fst
  givenProperly : ∀ {room : Nat} {members : List Member} {a : α},
    fields.fromMembers room members = .value a → ∀ field ∈ shapes, GivenProperly field members
  alike : ∀ {room : Nat} {members members' : List Member} {a : α},
    fields.fromMembers room members = .value a →
    (∀ field ∈ shapes, Alike field members members') → fields.fromMembers room members' = .value a
  properItems : ∀ {room : Nat} {items rest : List Tree} {a : α} {later : List FieldShape},
    fields.fromItems room items = .ok (a, rest) → ProperItems later rest →
    ProperItems (shapes ++ later) items
  rearrangedItem : ∀ {room : Nat} {items items' rest : List Tree} {a : α}
    {later : List FieldShape}, fields.fromItems room items = .ok (a, rest) →
    ReflGen (RearrangedItem (shapes ++ later)) items items' →
    ∃ rest', fields.fromItems room items' = .ok (a, rest') ∧
      ReflGen (RearrangedItem later) rest rest'

theorem keepTo_constant (a : α) : (constant a).KeepTo [] where
  names_eq := rfl
  givenProperly _ _ hfield := absurd hfield List.not_mem_nil
  alike h _ := h
  properItems h hrest := by
    obtain ⟨-, rfl⟩ := Prod.mk.inj (Except.ok.inj h)
    exact hrest
  rearrangedItem {_ _ items' _ _ _} h hitems := by
    obtain ⟨rfl, rfl⟩ := Prod.mk.inj (Except.ok.inj h)
    exact ⟨items', rfl, hitems⟩

/-- Two decoders take the items one after the other. -/
theorem fromItems_both_eq_ok_iff {c : γ} {combine : α → β → γ} {first : Fields α}
    {second : Fields β} : (both combine first second).fromItems room items = .ok (c, rest) ↔
      ∃ a b more, first.fromItems room items = .ok (a, more) ∧
        second.fromItems room more = .ok (b, rest) ∧ combine a b = c := by
  unfold both
  simp only [Misread.bind_eq_ok_iff, Prod.exists]
  constructor
  · rintro ⟨a, more, hfirst, b, rest', hsecond, hresult⟩
    obtain ⟨rfl, rfl⟩ := Prod.mk.inj (Except.ok.inj hresult)
    exact ⟨a, b, more, hfirst, hsecond, rfl⟩
  · rintro ⟨a, b, more, hfirst, hsecond, rfl⟩
    exact ⟨a, more, hfirst, b, rest, hsecond, rfl⟩

/-- Two groups of fields keep to their shapes when both do. -/
theorem KeepTo.both {first : Fields α} {second : Fields β} (h : first.KeepTo shapes)
    (h' : second.KeepTo shapes') (combine : α → β → γ) :
    (Fields.both combine first second).KeepTo (shapes ++ shapes') where
  names_eq := by
    rw [List.flatMap_append, ← h.names_eq, ← h'.names_eq]
    rfl
  givenProperly hmembers field hfield := by
    rcases Outcome.both_eq_value_iff.1 hmembers with ⟨a, b, hfirst, hsecond, -⟩
    rcases List.mem_append.1 hfield with hfield | hfield
    · exact h.givenProperly hfirst field hfield
    · exact h'.givenProperly hsecond field hfield
  alike hmembers halike := by
    rcases Outcome.both_eq_value_iff.1 hmembers with ⟨a, b, hfirst, hsecond, hcombine⟩
    rw [List.forall_mem_append] at halike
    exact Outcome.both_eq_value_iff.2
      ⟨a, b, h.alike hfirst halike.1, h'.alike hsecond halike.2, hcombine⟩
  properItems hitems hrest := by
    rcases fromItems_both_eq_ok_iff.1 hitems with ⟨a, b, more, hfirst, hsecond, -⟩
    rw [List.append_assoc]
    exact h.properItems hfirst (h'.properItems hsecond hrest)
  rearrangedItem hitems hrearranged := by
    -- An item that the first group does not take is still rearranged among those it leaves.
    rcases fromItems_both_eq_ok_iff.1 hitems with ⟨a, b, more, hfirst, hsecond, hcombine⟩
    rw [List.append_assoc] at hrearranged
    rcases h.rearrangedItem hfirst hrearranged with ⟨more', hfirst', hmore⟩
    rcases h'.rearrangedItem hsecond hmore with ⟨rest', hsecond', hrest⟩
    exact ⟨rest', fromItems_both_eq_ok_iff.2 ⟨a, b, more', hfirst', hsecond', hcombine⟩, hrest⟩

/-- What is made of some fields keeps to their shapes. -/
theorem KeepTo.map {fields : Fields α} (h : fields.KeepTo shapes) (f : α → β) :
    (f <$> fields).KeepTo shapes :=
  (keepTo_constant ()).both h fun _ a => f a

/-- Fields one after the other keep to their shapes. -/
theorem KeepTo.seq {functions : Fields (α → β)} {fields : Fields α} (h : functions.KeepTo shapes)
    (h' : fields.KeepTo shapes') : (functions <*> fields).KeepTo (shapes ++ shapes') :=
  h.both h' fun f a => f a

/-- A field keeps to its shape when its decoder does. -/
theorem keepTo_field {shape : Shape} {others : List String} {decode : Decoder α}
    {noMember noItem : Option α} (h : KeepsTo shape decode) :
    (Fields.field name others decode noMember noItem).KeepTo [(name :: others, shape)] where
  names_eq := (List.append_nil _).symm
  givenProperly hmembers field hfield := by
    obtain rfl := List.mem_singleton.1 hfield
    rcases fromMembers_field_eq_value_iff.1 hmembers with ⟨value, hgiven, hvalue⟩ | ⟨hgiven, -⟩
    · refine ⟨?_, ?_⟩
      · rw [hgiven]
        exact Nat.le_refl 1
      · rw [hgiven]
        exact List.forall_mem_singleton.2 (h.proper hvalue)
    · refine ⟨?_, ?_⟩
      · rw [hgiven]
        exact Nat.zero_le 1
      · rw [hgiven]
        exact List.forall_mem_nil _
  alike hmembers halike := by
    rcases halike _ List.mem_cons_self with ⟨values, hvalues, hperm⟩
    refine fromMembers_field_eq_value_iff.2 ?_
    rcases fromMembers_field_eq_value_iff.1 hmembers with
      ⟨value, hgiven, hvalue⟩ | ⟨hgiven, habsent⟩
    · rw [hgiven, List.forall₂_cons_left_iff] at hvalues
      rcases hvalues with ⟨value', more, hrearranged, hmore, rfl⟩
      obtain rfl := List.forall₂_nil_left_iff.1 hmore
      exact .inl ⟨value', (List.singleton_perm.1 hperm).symm,
        h.unchanged_or_rearranged hvalue hrearranged⟩
    · rw [hgiven, List.forall₂_nil_left_iff] at hvalues
      rw [hvalues] at hperm
      exact .inr ⟨List.nil_perm.1 hperm, habsent⟩
  properItems {room items rest a later} hitems hrest := by
    cases items with
    | nil => trivial
    | cons item more =>
      rcases Misread.bind_eq_ok_iff.1 hitems with ⟨value, hvalue, hresult⟩
      obtain ⟨rfl, rfl⟩ := Prod.mk.inj (Except.ok.inj hresult)
      exact ⟨h.proper hvalue, hrest⟩
  rearrangedItem {room items items' rest a later} hitems hrearranged := by
    cases hrearranged with
    | refl => exact ⟨rest, hitems, .refl⟩
    | single hstep =>
      cases hstep with
      | here hitem =>
        rcases Misread.bind_eq_ok_iff.1 hitems with ⟨value, hvalue, hresult⟩
        obtain ⟨rfl, rfl⟩ := Prod.mk.inj (Except.ok.inj hresult)
        refine ⟨_, Misread.bind_eq_ok_iff.2 ⟨value, h.rearranged hvalue hitem, rfl⟩, .refl⟩
      | there hmore =>
        rcases Misread.bind_eq_ok_iff.1 hitems with ⟨value, hvalue, hresult⟩
        obtain ⟨rfl, rfl⟩ := Prod.mk.inj (Except.ok.inj hresult)
        exact ⟨_, Misread.bind_eq_ok_iff.2 ⟨value, hvalue, rfl⟩, .single hmore⟩

/-! ## Records -/

/-- A member of a record: a field, or a well-formed member to be skipped. -/
def IsMember (names : List String) (member : Member) : Prop :=
  ∃ name, member.1 = some name ∧ (name ∈ names ∨ member.2.wellFormed = true)

/-- No member is stray when the object is closed and each member has one of the names. -/
theorem strayPosition_eq_none_iff {closed : Bool} : strayPosition names members closed = none ↔
    closed = true ∧ ∀ member ∈ members, IsMember names member := by
  unfold strayPosition
  dsimp only
  cases hfound : members.findIdx? _ with
  | some position =>
    rcases List.findIdx?_eq_some_iff_getElem.1 hfound with ⟨hlt, hstray, -⟩
    simp only [reduceCtorEq, false_iff, not_and]
    intro _ hall
    rcases hall _ (List.getElem_mem hlt) with ⟨name, hname, hkept⟩
    rw [hname] at hstray
    rcases hkept with hkept | hkept
    · simp [hkept] at hstray
    · simp [hkept] at hstray
  | none =>
    have hall : ∀ member ∈ members, IsMember names member := by
      intro member hmember
      have hstray := List.findIdx?_eq_none_iff.1 hfound member hmember
      rcases member with ⟨_ | name, value⟩
      · cases hstray
      · refine ⟨name, rfl, ?_⟩
        simpa only [Bool.and_eq_false_iff, Bool.not_eq_false', List.contains_iff_mem] using hstray
    cases closed
    · simp
    · exact ⟨fun _ => ⟨rfl, hall⟩, fun _ => rfl⟩

/-- A record is decoded from a closed object whose members are fields or can be skipped, or from a
closed array with no more items than fields. -/
theorem decoder_eq_ok_iff {fields : Fields α} {tree : Tree} : fields.decoder room tree = .ok a ↔
    (∃ room' members, room = room' + 1 ∧ tree = .object members true ∧
      fields.fromMembers room' members = .value a ∧
      ∀ member ∈ members, IsMember fields.names member) ∨
    ∃ room' items, room = room' + 1 ∧ tree = .array items true ∧
      fields.fromItems room' items = .ok (a, []) := by
  constructor
  · intro hdecode
    unfold decoder at hdecode
    split at hdecode
    · rename_i room members closed
      unfold ofObject at hdecode
      split at hdecode
      · rename_i hvalue hstray
        obtain rfl := Except.ok.inj hdecode
        rcases strayPosition_eq_none_iff.1 hstray with ⟨rfl, hmembers⟩
        exact .inl ⟨room, members, rfl, rfl, hvalue, hmembers⟩
      all_goals cases hdecode
    · rename_i room items closed
      rcases Misread.bind_eq_ok_iff.1 hdecode with ⟨⟨result, rest⟩, hitems, hresult⟩
      dsimp only at hresult
      split at hresult
      · rename_i hend
        rw [Bool.and_eq_true, List.isEmpty_iff] at hend
        obtain rfl := Except.ok.inj hresult
        obtain ⟨rfl, rfl⟩ := hend
        exact .inr ⟨room, items, rfl, rfl, hitems⟩
      · cases hresult
    · cases hdecode
  · rintro (⟨room, members, rfl, rfl, hvalue, hmembers⟩ | ⟨room, items, rfl, rfl, hitems⟩)
    · rw [decoder, ofObject, hvalue, strayPosition_eq_none_iff.2 ⟨rfl, hmembers⟩]
    · rw [decoder, ofArray, hitems]
      rfl

/-- A name is a name of one field only. -/
theorem eq_of_mem_names (hnodup : (shapes.flatMap Prod.fst).Nodup) {field' : FieldShape}
    (hfield : field ∈ shapes) (hfield' : field' ∈ shapes) (hname : name ∈ field.1)
    (hname' : name ∈ field'.1) : field = field' := by
  by_contra hne
  have hdisjoint := (List.nodup_flatMap.1 hnodup).2
  have hsymm : Std.Symm (Function.onFun List.Disjoint (Prod.fst : FieldShape → List String)) :=
    ⟨fun _ _ h => List.disjoint_symm h⟩
  exact hdisjoint.forall hfield hfield' hne hname hname'

/-- Objects that differ in one member give alike values when the two members do. -/
theorem alike_of_rel {member member' : Member}
    (h : Option.Rel (ReflGen (Rearranged field.2)) (valueUnder field.1 member)
      (valueUnder field.1 member')) :
    Alike field (before ++ member :: after) (before ++ member' :: after) := by
  have hsame : ∀ members, List.Forall₂ (ReflGen (Rearranged field.2)) (given field.1 members)
      (given field.1 members) := fun members => List.forall₂_same.2 fun _ _ => .refl
  have hvalues : List.Forall₂ (ReflGen (Rearranged field.2)) (valueUnder field.1 member).toList
      (valueUnder field.1 member').toList := by
    revert h
    generalize valueUnder field.1 member = given
    generalize valueUnder field.1 member' = given'
    rintro (hvalue | _)
    · exact .cons hvalue .nil
    · exact .nil
  refine ⟨given field.1 (before ++ member' :: after), ?_, .refl _⟩
  rw [given_insert, given_insert]
  exact List.rel_append (hsame before) (List.rel_append hvalues (hsame after))

/-- A rearranged object gives alike values for all fields, and its members are still fields or can
be skipped. -/
theorem alike_of_rearranged {tree' : Tree} (hnodup : (shapes.flatMap Prod.fst).Nodup)
    (h : Rearranged (.record shapes) (.object members true) tree') :
    ∃ members', tree' = .object members' true ∧
      (∀ field ∈ shapes, Alike field members members') ∧
      ((∀ member ∈ members, IsMember (shapes.flatMap Prod.fst) member) →
        ∀ member ∈ members', IsMember (shapes.flatMap Prod.fst) member) := by
  cases h with
  | @permuted _ _ members' _ hperm =>
    refine ⟨members', rfl, fun field _ => ?_, fun hmembers member hmember => ?_⟩
    · exact ⟨_, List.forall₂_same.2 fun _ _ => .refl, hperm.filterMap _⟩
    · exact hmembers member (hperm.mem_iff.2 hmember)
  | @inserted _ before after name value _ hname hvalue =>
    refine ⟨_, rfl, fun field hfield => ?_, fun hmembers => ?_⟩
    · refine ⟨_, List.forall₂_same.2 fun _ _ => .refl, ?_⟩
      rw [given_insert, valueUnder_of_not_mem (hname field hfield), given, List.filterMap_append]
      exact .refl _
    · rw [List.forall_mem_append] at hmembers
      rw [List.forall_mem_append, List.forall_mem_cons]
      exact ⟨hmembers.1, ⟨name, rfl, .inr hvalue⟩, hmembers.2⟩
  | @renamed _ field before after name name' value _ hfield hname hname' =>
    refine ⟨_, rfl, fun field' hfield' => alike_of_rel ?_, fun hmembers => ?_⟩
    · by_cases hmem : name ∈ field'.1
      · obtain rfl := eq_of_mem_names hnodup hfield hfield' hname hmem
        rw [valueUnder_of_mem hname, valueUnder_of_mem hname']
        exact .some .refl
      · have hmem' : name' ∉ field'.1 := by
          intro hmem'
          obtain rfl := eq_of_mem_names hnodup hfield hfield' hname' hmem'
          exact hmem hname
        rw [valueUnder_of_not_mem hmem, valueUnder_of_not_mem hmem']
        exact .none
    · rw [List.forall_mem_append, List.forall_mem_cons] at hmembers ⊢
      exact ⟨hmembers.1, ⟨name', rfl, .inl (List.mem_flatMap.2 ⟨field, hfield, hname'⟩)⟩,
        hmembers.2.2⟩
  | @member _ field before after name value value' _ hfield hname h =>
    refine ⟨_, rfl, fun field' hfield' => alike_of_rel ?_, fun hmembers => ?_⟩
    · by_cases hmem : name ∈ field'.1
      · obtain rfl := eq_of_mem_names hnodup hfield hfield' hname hmem
        rw [valueUnder_of_mem hname, valueUnder_of_mem hname]
        exact .some (.single h)
      · rw [valueUnder_of_not_mem hmem, valueUnder_of_not_mem hmem]
        exact .none
    · rw [List.forall_mem_append, List.forall_mem_cons] at hmembers ⊢
      exact ⟨hmembers.1, ⟨name, rfl, .inl (List.mem_flatMap.2 ⟨field, hfield, hname⟩)⟩,
        hmembers.2.2⟩

/-- Rearranging one item rearranges the list. -/
theorem rearrangedItem_set {i : Nat} {item item' : Tree} (hfield : shapes[i]? = some field)
    (hitem : items[i]? = some item) (h : Rearranged field.2 item item') :
    RearrangedItem shapes items (items.set i item') := by
  induction shapes generalizing items i with
  | nil => simp at hfield
  | cons first shapes ih =>
    cases items with
    | nil => simp at hitem
    | cons item rest =>
      cases i with
      | zero =>
        obtain rfl := Option.some.inj hfield
        obtain rfl := Option.some.inj hitem
        exact .here h
      | succ i => exact .there (ih hfield hitem)

/-- Proper items have no defects. -/
theorem ProperItems.wellFormed (h : ProperItems shapes items) :
    ∀ item ∈ items, item.wellFormed = true := by
  induction shapes generalizing items with
  | nil =>
    obtain rfl : items = [] := h
    exact List.forall_mem_nil _
  | cons first shapes ih =>
    cases items with
    | nil => exact List.forall_mem_nil _
    | cons item rest => exact List.forall_mem_cons.2 ⟨h.1.wellFormed, ih h.2⟩

/-- Nothing is repeated in proper items. -/
theorem ProperItems.once (h : ProperItems shapes items) {i : Nat} {item : Tree}
    (hfield : shapes[i]? = some field) (hitem : items[i]? = some item) :
    ¬ Repeats field.2 item := by
  induction shapes generalizing items i with
  | nil => simp at hfield
  | cons first shapes ih =>
    cases items with
    | nil => simp at hitem
    | cons item rest =>
      cases i with
      | zero =>
        obtain rfl := Option.some.inj hfield
        obtain rfl := Option.some.inj hitem
        exact h.1.once
      | succ i => exact ih h.2 hfield hitem

/-- A record keeps to its shape when its fields keep to theirs and have different names. -/
theorem KeepTo.record {fields : Fields α} (h : fields.KeepTo shapes) (hnames : fields.names.Nodup) :
    KeepsTo (.record shapes) fields.decoder where
  proper hdecode := by
    rcases decoder_eq_ok_iff.1 hdecode with
      ⟨room, members, rfl, rfl, hvalue, hmembers⟩ | ⟨room, items, rfl, rfl, hitems⟩
    · have hgiven := h.givenProperly hvalue
      refine ⟨?_, fun hrepeats => ?_⟩
      · rw [Tree.wellFormed, wellFormedMembers_iff.2]
        · rfl
        -- A field is well formed because it was decoded, another member because it was skipped.
        rintro ⟨_, value⟩ hmember
        rcases hmembers _ hmember with ⟨name, rfl, hknown | hwell⟩
        · rw [h.names_eq, List.mem_flatMap] at hknown
          rcases hknown with ⟨field, hfield, hname⟩
          exact ((hgiven field hfield).proper value (mem_given.2 ⟨name, hname, hmember⟩)).wellFormed
        · exact hwell
      · cases hrepeats with
        | @twice _ field before between after name name' value value' _ hfield hname hname' =>
          have honce := (hgiven field hfield).once
          rw [given_insert, given_insert, valueUnder_of_mem hname,
            valueUnder_of_mem hname'] at honce
          simp only [List.length_append, Option.toList_some, List.length_singleton] at honce
          omega
        | @member _ field _ name value _ hfield hname hmember hagain =>
          have hvalue := (hgiven field hfield).proper value (mem_given.2 ⟨name, hname, hmember⟩)
          exact hvalue.once hagain
    · have hproper : ProperItems (shapes ++ []) items := h.properItems hitems rfl
      rw [List.append_nil] at hproper
      refine ⟨?_, fun hrepeats => ?_⟩
      · rw [Tree.wellFormed, wellFormedItems_iff.2 hproper.wellFormed]
        rfl
      · cases hrepeats with
        | position hfield hitem hagain => exact hproper.once hfield hitem hagain
  rearranged hdecode hrearranged := by
    rcases decoder_eq_ok_iff.1 hdecode with
      ⟨room, members, rfl, rfl, hvalue, hmembers⟩ | ⟨room, items, rfl, rfl, hitems⟩
    · -- Where values stand in the object does not matter, as every field only sees what it is given.
      rw [h.names_eq] at hnames hmembers
      rcases alike_of_rearranged hnames hrearranged with ⟨members', rfl, halike, hmembers'⟩
      refine decoder_eq_ok_iff.2 (.inl ⟨room, members', rfl, rfl, h.alike hvalue halike, ?_⟩)
      rw [h.names_eq]
      exact hmembers' hmembers
    · cases hrearranged with
      | position hfield hitem hstep =>
        have hstep' := rearrangedItem_set hfield hitem hstep
        rw [← List.append_nil shapes] at hstep'
        rcases h.rearrangedItem hitems (.single hstep') with ⟨rest, hitems', hrest⟩
        cases hrest with
        | refl => exact decoder_eq_ok_iff.2 (.inr ⟨room, _, rfl, rfl, hitems'⟩)
        | single hnone => nomatch hnone

end Fields

end ShellComposer.Json
