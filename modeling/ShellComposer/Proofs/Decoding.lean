import ShellComposer.Json.Decoder
import ShellComposer.Proofs.Rereading

/-!
# What is written is decoded

Whatever is written for a value is decoded to that value again, as long as it does not nest too many
arrays and objects, and is malformed text otherwise; it is never decoded to anything else.  A record
is put together from its fields, so this is shown field by field: where all fields have different
names and every member that is written has the name of its field, each field finds its own member,
or none where none was written.

Main results:

- Definition `Value.nesting`: how many arrays and objects nest in a value.
- Definition `Rereads`: what is written for a value is decoded to it, if it does not nest too deep.
- Theorems `rereads_string`, `rereads_uint32`, `rereads_list` and others: values that are no
  records.
- Structure `Fields.Rereads` with `Fields.Rereads.map`, `seq`: fields find their members.
- Theorem `Fields.Rereads.record`: so a record is reread when its fields are.
- Theorem `decodeText_text`: a value that is reread is decoded from its text.
-/

namespace ShellComposer.Json

variable {α β γ : Type} {room : Nat}

/-! ## Nesting -/

namespace Value

mutual
/-- How many arrays and objects nest in a value. -/
def nesting : Value → Nat
  | array items => nestingItems items + 1
  | object members => nestingMembers members + 1
  | _ => 0

/-- How many nest at most in one of several items. -/
def nestingItems : List Value → Nat
  | [] => 0
  | item :: rest => max (nesting item) (nestingItems rest)

/-- How many nest at most in one of several members. -/
def nestingMembers : List (String × Value) → Nat
  | [] => 0
  | member :: rest => max (nesting member.2) (nestingMembers rest)
end

/-- Items nest within a depth when each of them does. -/
theorem nestingItems_le_iff {items : List Value} :
    nestingItems items ≤ room ↔ ∀ item ∈ items, item.nesting ≤ room := by
  induction items with
  | nil => simp [nestingItems]
  | cons item rest ih => rw [nestingItems, Nat.max_le, ih, List.forall_mem_cons]

/-- Members nest within a depth when the value of each does. -/
theorem nestingMembers_le_iff {members : List (String × Value)} :
    nestingMembers members ≤ room ↔ ∀ member ∈ members, member.2.nesting ≤ room := by
  induction members with
  | nil => simp [nestingMembers]
  | cons member rest ih => rw [nestingMembers, Nat.max_le, ih, List.forall_mem_cons]

@[simp] theorem nesting_natural (n : Nat) : (natural n).nesting = 0 :=
  rfl

@[simp] theorem nesting_string (text : String) : (string text).nesting = 0 :=
  rfl

@[simp] theorem nesting_bool (b : Bool) : (bool b).nesting = 0 :=
  rfl

/-- What may be left out nests no deeper than when it is given. -/
theorem nesting_ofOption_le {write : α → Value} (h : ∀ a, (write a).nesting ≤ room)
    (given : Option α) : (ofOption write given).nesting ≤ room := by
  cases given with
  | none => exact Nat.zero_le room
  | some a => exact h a

/-- A list nests one level deeper than its items. -/
theorem nesting_ofList_le {write : α → Value} (h : ∀ a, (write a).nesting ≤ room)
    (items : List α) : (ofList write items).nesting ≤ room + 1 := by
  refine Nat.add_le_add_right (nestingItems_le_iff.2 fun item hitem => ?_) 1
  rcases List.mem_map.1 hitem with ⟨a, _, rfl⟩
  exact h a

@[simp] theorem nesting_text? (text : Option String) : (ofText? text).nesting = 0 :=
  Nat.le_zero.1 (nesting_ofOption_le (fun _ => Nat.le_refl 0) text)

theorem nesting_ofTexts_le (texts : List String) : (ofTexts texts).nesting ≤ 1 :=
  nesting_ofList_le (fun _ => Nat.le_refl 0) texts

/-- An object adds one to what nests in its members. -/
theorem nesting_object_le {members : List (String × Value)}
    (h : ∀ member ∈ members, member.2.nesting ≤ room) : (object members).nesting ≤ room + 1 :=
  Nat.add_le_add_right (nestingMembers_le_iff.2 h) 1

end Value

open Value

/-! ## Values -/

/-- What is written for a value is decoded to it again where it does not nest too deep, and is
malformed where it does. -/
def Rereads (room : Nat) (decode : Decoder α) (written : Value) (a : α) : Prop :=
  decode room written.toTree = if written.nesting ≤ room then .ok a else .error .malformed

variable {decode : Decoder α} {written : Value} {a : α}

/-- A value that is reread is decoded from its text. -/
theorem decodeText_text (h : Rereads nestingLimit decode written a) :
    decodeText decode written.text =
      if written.nesting ≤ nestingLimit then .ok a else .error .malformed := by
  rw [decodeText, readTree_text]
  dsimp only
  rw [h]
  split <;> rfl

/-- Where nothing nests, there is always room. -/
theorem rereads_of_flat (hflat : written.nesting = 0) (h : decode room written.toTree = .ok a) :
    Rereads room decode written a := by
  rw [Rereads, h, hflat, if_pos (Nat.zero_le room)]

theorem rereads_string (room : Nat) (text : String) :
    Rereads room decodeString (.string text) text :=
  rereads_of_flat rfl rfl

theorem rereads_bool (room : Nat) (b : Bool) : Rereads room decodeBool (.bool b) b :=
  rereads_of_flat rfl rfl

/-- A number below the bound is read back. -/
theorem decodeBelow_natural {bound n : Nat} (hn : n < bound) (room : Nat) :
    decodeBelow bound room (natural n).toTree = .ok n := by
  rw [toTree, decodeBelow, Numeral.natural?_ofNatural]
  exact if_pos hn

theorem rereads_uint32 (room : Nat) (n : UInt32) :
    Rereads room decodeUInt32 (.natural n.toNat) n := by
  refine rereads_of_flat rfl ?_
  rw [decodeUInt32, decodeBelow_natural n.toNat_lt, Except.map, UInt32.ofNat_toNat]

theorem rereads_uint64 (room : Nat) (n : UInt64) :
    Rereads room decodeUInt64 (.natural n.toNat) n := by
  refine rereads_of_flat rfl ?_
  rw [decodeUInt64, decodeBelow_natural n.toNat_lt, Except.map, UInt64.ofNat_toNat]

/-- A variant is reread from its name. -/
theorem rereads_variant {variants : List (String × α)} {name : String}
    (hname : variants.lookup name = some a) (room : Nat) :
    Rereads room (decodeVariant variants) (.string name) a := by
  refine rereads_of_flat rfl ?_
  rw [toTree, decodeVariant, variant, hname]

/-- So is a variant with content when its content is. -/
theorem rereads_tagged {variants : List (String × Decoder α)} {name : String}
    (hname : variants.lookup name = some decode) (h : Rereads (room - 1) decode written a) :
    Rereads room (decodeTagged variants) (.object [(name, written)]) a := by
  cases room with
  | zero => rfl
  | succ room =>
    have hroom : (object [(name, written)]).nesting ≤ room + 1 ↔ written.nesting ≤ room := by
      simp [nesting, nestingMembers]
    have hcontent : decode room written.toTree =
      if written.nesting ≤ room then .ok a else .error .malformed := h
    rw [Rereads, toTree, toMembers, toMembers, decodeTagged, variant, hname]
    simp only [hroom, bind, Except.bind]
    rw [hcontent]
    by_cases hfits : written.nesting ≤ room
    · rw [if_pos hfits]
      rfl
    · rw [if_neg hfits]

/-- What is made of a value is reread when the value is. -/
theorem Rereads.map (h : Rereads room decode written a) (f : α → β) :
    Rereads room (fun room tree => (decode room tree).map f) written (f a) := by
  rw [Rereads, h]
  split <;> rfl

theorem toTree_ne_null (hwritten : written ≠ .null) : written.toTree ≠ .null := by
  cases written <;> first | exact absurd rfl hwritten | exact Tree.noConfusion

/-- What is not null is decoded as it is. -/
theorem decodeNullable_of_ne_null {tree : Tree} (htree : tree ≠ .null) :
    decodeNullable decode room tree = (decode room tree).map some := by
  cases tree <;> first | rfl | exact absurd rfl htree

/-- A value that may be missing is reread when a value that is there is. -/
theorem rereads_ofOption {write : α → Value} (hwrite : ∀ a, write a ≠ .null)
    (h : ∀ a, Rereads room decode (write a) a) (given : Option α) :
    Rereads room (decodeNullable decode) (ofOption write given) given := by
  cases given with
  | none => exact rereads_of_flat rfl rfl
  | some a =>
    have htree : (write a).toTree ≠ .null := toTree_ne_null (hwrite a)
    rw [Rereads, ofOption, decodeNullable_of_ne_null htree, h]
    split <;> rfl

/-- The items of a list are read back if they nest within the room that is left. -/
theorem mapM_toTrees {write : α → Value} (h : ∀ a, Rereads room decode (write a) a)
    (items : List α) : (toTrees (items.map write)).mapM (decode room) =
      if nestingItems (items.map write) ≤ room then .ok items else .error .malformed := by
  induction items with
  | nil => rfl
  | cons item rest ih =>
    rw [List.map_cons, toTrees, List.mapM_cons, h item, ih, nestingItems]
    simp only [Nat.max_le]
    by_cases hfirst : (write item).nesting ≤ room
    · by_cases hrest : nestingItems (rest.map write) ≤ room
      · rw [if_pos hfirst, if_pos hrest, if_pos ⟨hfirst, hrest⟩]
        rfl
      · rw [if_pos hfirst, if_neg hrest, if_neg fun hboth : _ ∧ _ => hrest hboth.2]
        rfl
    · rw [if_neg hfirst, if_neg fun hboth : _ ∧ _ => hfirst hboth.1]
      rfl

/-- A list is reread when its items are. -/
theorem rereads_list {write : α → Value} (h : ∀ a, Rereads (room - 1) decode (write a) a)
    (items : List α) : Rereads room (decodeList decode) (ofList write items) items := by
  cases room with
  | zero => rfl
  | succ room =>
    have hitems : (toTrees (items.map write)).mapM (decode room) =
      if nestingItems (items.map write) ≤ room then .ok items else .error .malformed :=
        mapM_toTrees h items
    have hroom : (ofList write items).nesting ≤ room + 1 ↔
      nestingItems (items.map write) ≤ room := Nat.add_le_add_iff_right
    rw [Rereads, ofList, toTree, decodeList, hitems]
    rw [ofList] at hroom
    simp only [hroom]
    split <;> rfl

theorem rereads_texts (room : Nat) (texts : List String) :
    Rereads room decodeTexts (ofTexts texts) texts :=
  rereads_list (rereads_string _) texts

/-! ## Fields -/

/-- What reading a field comes to where what is written for it fits: its value, and malformed text
where it does not fit. -/
def Outcome.Rereads (fits : Prop) (a : α) : Outcome α → Prop
  | value result => fits ∧ result = a
  | fault _ cause => ¬ fits ∧ cause = .malformed

/-- Of two fields that are both reread, both come to their values or one is malformed. -/
theorem Outcome.Rereads.both {fits fits' : Prop} {b : β} {first : Outcome α} {second : Outcome β}
    (h : first.Rereads fits a) (h' : second.Rereads fits' b) (combine : α → β → γ) :
    (Outcome.both combine first second).Rereads (fits ∧ fits') (combine a b) := by
  cases first with
  | value result =>
    obtain ⟨hfits, rfl⟩ := h
    cases second with
    | value result' =>
      obtain ⟨hfits', rfl⟩ := h'
      exact ⟨⟨hfits, hfits'⟩, rfl⟩
    | fault position cause => exact ⟨fun hboth => h'.1 hboth.2, h'.2⟩
  | fault position cause =>
    cases second with
    | value result' => exact ⟨fun hboth => h.1 hboth.1, h.2⟩
    | fault position' cause' =>
      have hfault : ¬ (fits ∧ fits') := fun hboth => h.1 hboth.1
      rw [Outcome.both]
      split
      · exact ⟨hfault, h'.2⟩
      · exact ⟨hfault, h.2⟩

namespace Fields

/-- The members of an object with one of the given names. -/
def membersNamed (names : List String) (members : List (String × Value)) :
    List (String × Value) :=
  members.filter fun member => names.contains member.1

variable {names names' : List String} {members : List (String × Value)}

/-- Members that all have one of the names are all kept. -/
theorem membersNamed_eq_self (h : ∀ member ∈ members, member.1 ∈ names) :
    membersNamed names members = members :=
  List.filter_eq_self.2 fun member hmember => List.contains_iff_mem.2 (h member hmember)

/-- Of members that have none of the names nothing is kept. -/
theorem membersNamed_eq_nil (h : ∀ member ∈ members, member.1 ∉ names) :
    membersNamed names members = [] :=
  List.filter_eq_nil_iff.2 fun member hmember hname =>
    h member hmember (List.contains_iff_mem.1 hname)

/-- The members with some names are selected from each of two lists. -/
theorem membersNamed_append (members members' : List (String × Value)) :
    membersNamed names (members ++ members') =
      membersNamed names members ++ membersNamed names members' :=
  List.filter_append ..

/-- To find members with some of the names, the members with all the names are enough. -/
theorem membersNamed_membersNamed (h : ∀ name ∈ names, name ∈ names')
    (members : List (String × Value)) :
    membersNamed names (membersNamed names' members) = membersNamed names members := by
  rw [membersNamed, membersNamed, membersNamed, List.filter_filter]
  refine List.filter_congr fun member _ => ?_
  by_cases hname : member.1 ∈ names
  · simp [hname, h member.1 hname]
  · simp [hname]

/-- Some fields are reread from the members that were written for them, whatever else the object
holds, if all fields have different names. -/
structure Rereads (room : Nat) (fields : Fields α) (written : List (String × Value)) (a : α) :
    Prop where
  named : ∀ member ∈ written, member.1 ∈ fields.names
  reread : fields.names.Nodup → ∀ members, membersNamed fields.names members = written →
    (fields.fromMembers room (toMembers members)).Rereads
      (∀ member ∈ written, member.2.nesting ≤ room) a

variable {fields : Fields α}

/-- What takes no members is read back without any. -/
theorem rereads_constant (room : Nat) (a : α) : (constant a).Rereads room [] a := by
  refine ⟨fun _ hmember => absurd hmember List.not_mem_nil, fun _ _ _ => ⟨?_, rfl⟩⟩
  exact fun _ hmember => absurd hmember List.not_mem_nil

/-- Two groups of fields are reread when both are, and members with names of the one are written
before those with names of the other. -/
theorem Rereads.both {first : Fields α} {second : Fields β} {written' : List (String × Value)}
    {written : List (String × Value)} {b : β}
    (h : first.Rereads room written a) (h' : second.Rereads room written' b)
    (combine : α → β → γ) :
    (Fields.both combine first second).Rereads room (written ++ written') (combine a b) := by
  refine ⟨fun member hmember => ?_, fun hnodup members hmembers => ?_⟩
  · refine List.mem_append.2 ((List.mem_append.1 hmember).imp ?_ ?_)
    · exact h.named member
    · exact h'.named member
  · have hnames : (first.names ++ second.names).Nodup := hnodup
    rcases List.nodup_append.1 hnames with ⟨hfirst, hsecond, hdisjoint⟩
    have hmembers' : membersNamed (first.names ++ second.names) members = written ++ written' :=
      hmembers
    have hown : membersNamed first.names members = written := by
      rw [← membersNamed_membersNamed (fun _ => List.mem_append_left _), hmembers',
        membersNamed_append, membersNamed_eq_self h.named, membersNamed_eq_nil, List.append_nil]
      exact fun member hmember hname =>
        hdisjoint _ hname _ (h'.named member hmember) rfl
    have hown' : membersNamed second.names members = written' := by
      rw [← membersNamed_membersNamed (fun _ => List.mem_append_right _), hmembers',
        membersNamed_append, membersNamed_eq_self h'.named, membersNamed_eq_nil, List.nil_append]
      exact fun member hmember hname =>
        hdisjoint _ (h.named member hmember) _ hname rfl
    have hboth := (h.reread hfirst members hown).both (h'.reread hsecond members hown') combine
    rwa [← List.forall_mem_append] at hboth

variable {written : List (String × Value)}

/-- What is made of some fields is reread when they are. -/
theorem Rereads.map (h : fields.Rereads room written a) (f : α → β) :
    (f <$> fields).Rereads room written (f a) :=
  (rereads_constant room ()).both h fun _ a => f a

/-- Fields one after the other are reread when all are. -/
theorem Rereads.seq {functions : Fields (α → β)} {f : α → β} {written' : List (String × Value)}
    (h : functions.Rereads room written f) (h' : fields.Rereads room written' a) :
    (functions <*> fields).Rereads room (written ++ written') (f a) :=
  h.both h' fun f a => f a

/-- The members of a written object are read member by member. -/
theorem toMembers_eq_map (members : List (String × Value)) :
    toMembers members = members.map fun member => (some member.1, member.2.toTree) := by
  induction members with
  | nil => rfl
  | cons member rest ih => rw [toMembers, ih, List.map_cons]

/-- The value of a member, if it has one of the given names. -/
def valueUnder (names : List String) (member : Member) : Option Tree :=
  match member.1 with
  | some name => if names.contains name then some member.2 else none
  | none => none

/-- The values that an object gives under some names. -/
def given (names : List String) (members : List Member) : List Tree :=
  members.filterMap (valueUnder names)

/-- The trees that occur under some names are those given under them. -/
theorem map_fst_occurrences (names : List String) (members : List Member) :
    (occurrences names members).map Prod.fst = given names members := by
  unfold occurrences given
  generalize 0 = start
  induction members generalizing start with
  | nil => rfl
  | cons member rest ih =>
    rw [List.zipIdx_cons, List.filterMap_cons, List.filterMap_cons, valueUnder]
    rcases member with ⟨_ | name, value⟩
    · exact ih (start + 1)
    · by_cases hname : names.contains name = true
      · simp only [hname, if_true]
        exact congrArg (value :: ·) (ih (start + 1))
      · simp only [hname]
        exact ih (start + 1)

/-- What is given under some names in a written object are the values of its members with these
names. -/
theorem given_toMembers (names : List String) (members : List (String × Value)) :
    given names (toMembers members) =
      (membersNamed names members).map fun member => member.2.toTree := by
  induction members with
  | nil => rfl
  | cons member rest ih =>
    rw [toMembers, given, List.filterMap_cons, valueUnder, membersNamed, List.filter_cons]
    by_cases hname : names.contains member.1 = true
    · simp only [hname, if_true]
      exact congrArg (member.2.toTree :: ·) ih
    · simp only [hname]
      exact ih

/-- What occurs under some names in a written object are the values of its members with these names.
-/
theorem map_occurrences (names : List String) (members : List (String × Value)) :
    (occurrences names (toMembers members)).map Prod.fst =
      (membersNamed names members).map fun member => member.2.toTree :=
  (map_fst_occurrences names _).trans (given_toMembers names members)

variable {name : String} {others : List String} {given : Value} {noItem : Option α}

/-- A field is reread from the one member with its name. -/
theorem rereads_field (h : Json.Rereads room decode given a) {noMember : Option α} :
    (field name others decode noMember noItem).Rereads room [(name, given)] a := by
  refine ⟨fun member hmember => ?_, fun _ members hmembers => ?_⟩
  · obtain rfl := List.mem_singleton.1 hmember
    exact List.mem_cons_self
  · have htrees := map_occurrences (name :: others) members
    have hmembers' : membersNamed (name :: others) members = [(name, given)] := hmembers
    rw [hmembers', List.map_singleton, List.map_eq_singleton_iff] at htrees
    rcases htrees with ⟨⟨tree, position⟩, hoccurs, htree⟩
    have hroom : (∀ member ∈ [(name, given)], member.2.nesting ≤ room) ↔ given.nesting ≤ room :=
      List.forall_mem_singleton
    have hread : decode room tree = if given.nesting ≤ room then .ok a else .error .malformed :=
      (congrArg (decode room) htree).trans h
    unfold field
    dsimp only
    rw [hoccurs, hroom, fromOccurrences, hread]
    by_cases hfits : given.nesting ≤ room
    · rw [if_pos hfits]
      exact ⟨hfits, rfl⟩
    · rw [if_neg hfits]
      exact ⟨hfits, rfl⟩

/-- A field that may be left out is reread from its absence. -/
theorem rereads_absent (room : Nat) (decode : Decoder α) :
    (field name others decode (some a) noItem).Rereads room [] a := by
  refine ⟨fun _ hmember => absurd hmember List.not_mem_nil, fun _ members hmembers => ?_⟩
  have htrees := map_occurrences (name :: others) members
  have hmembers' : membersNamed (name :: others) members = [] := hmembers
  rw [hmembers', List.map_nil, List.map_eq_nil_iff] at htrees
  have hread : (field name others decode (some a) noItem).fromMembers room (toMembers members) =
      .value a := by
    unfold field
    dsimp only
    rw [htrees, fromOccurrences]
  rw [hread]
  exact ⟨fun _ hmember => absurd hmember List.not_mem_nil, rfl⟩

/-- A member that is left out when there is nothing to write is reread. -/
theorem rereads_ifPresent {write : α → Value} (hwrite : ∀ a, write a ≠ .null)
    (h : ∀ a, Json.Rereads room decode (write a) a) (given : Option α) :
    (optional name decode).Rereads room (memberIfPresent name write given) given := by
  cases given with
  | none => exact rereads_absent room _
  | some a => exact rereads_field (rereads_ofOption hwrite h (some a))

/-- An object in which only fields are written has nothing else in it. -/
theorem strayPosition_toMembers (h : ∀ member ∈ written, member.1 ∈ names) :
    strayPosition names (toMembers written) true = none := by
  unfold strayPosition
  dsimp only
  rw [List.findIdx?_eq_none_iff.2]
  · rfl
  · intro member hmember
    rw [toMembers_eq_map, List.mem_map] at hmember
    rcases hmember with ⟨given, hgiven, rfl⟩
    simp [h given hgiven]

/-- A record is reread when its fields are. -/
theorem Rereads.record (h : fields.Rereads (room - 1) written a) (hnames : fields.names.Nodup) :
    Json.Rereads room fields.decoder (.object written) a := by
  cases room with
  | zero => rfl
  | succ room =>
    have hread : (fields.fromMembers room (toMembers written)).Rereads
      (∀ member ∈ written, member.2.nesting ≤ room) a :=
        h.reread hnames written (membersNamed_eq_self h.named)
    have hroom : (object written).nesting ≤ room + 1 ↔
        ∀ member ∈ written, member.2.nesting ≤ room := by
      rw [← nestingMembers_le_iff]
      exact Nat.add_le_add_iff_right
    rw [Json.Rereads, toTree, decoder, ofObject, strayPosition_toMembers h.named]
    simp only [hroom]
    cases hfrom : fields.fromMembers room (toMembers written) with
    | value result =>
      rw [hfrom] at hread
      rw [if_pos hread.1, ← hread.2]
    | fault position cause =>
      rw [hfrom] at hread
      rw [if_neg hread.1, ← hread.2]

end Fields

end ShellComposer.Json
