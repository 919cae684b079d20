import ShellComposer.Proofs.Spelling

/-!
# What is read is spelled

A text that is read without a flaw spells the tree that is read from it.  So the reader accepts no
text that is not JSON.

Main results:

- Structure `SoundReading` and theorem `soundReading`: what is read without a flaw, after any number
  of steps, is spelled.
- Theorem `spells_of_readTree`: a text that is read without a flaw spells its tree.
-/

namespace ShellComposer.Json

variable {rest cs : List Char} {steps : Nat}

/-! ## What is read -/

/-- A text starts with blanks or none. -/
theorem exists_gap (cs : List Char) : ∃ gap, IsGap gap ∧ cs = gap ++ skipGap cs :=
  ⟨cs.takeWhile isGap, List.all_eq_true.1 List.all_takeWhile,
    List.takeWhile_append_dropWhile.symm⟩

/-- What it takes for a reading to be sound: whatever it reads without a flaw is spelled. -/
structure SoundReading (steps : Nat) : Prop where
  value : ∀ {cs tree rest}, readValue steps cs = (tree, rest) → tree.wellFormed = true →
    ∃ gap vs, IsGap gap ∧ Spells (.value tree) vs ∧ cs = gap ++ (vs ++ rest)
  items : ∀ {cs items rest}, readItems steps cs = (items, true, rest) →
    Tree.wellFormedItems items = true → ∃ is, Spells (.items items) is ∧ cs = is ++ ']' :: rest
  members : ∀ {cs members rest}, readMembers steps cs = (members, true, rest) →
    Tree.wellFormedMembers members = true →
      ∃ ms, Spells (.members members) ms ∧ cs = ms ++ '\x7d' :: rest

variable {tree : Tree} {items : List Tree} {members : List Member}

/-- Brackets with nothing but blanks between them spell the empty array. -/
theorem spells_emptyArray (hclosed : skipGap cs = ']' :: rest) :
    ∃ vs, Spells (.value (.array [] true)) vs ∧ '[' :: cs = vs ++ rest := by
  rcases exists_gap cs with ⟨gap, hgap, hcs⟩
  refine ⟨_, .emptyArray hgap, ?_⟩
  rw [hcs, hclosed]
  simp

/-- Braces with nothing but blanks between them spell the empty object. -/
theorem spells_emptyObject (hclosed : skipGap cs = '\x7d' :: rest) :
    ∃ vs, Spells (.value (.object [] true)) vs ∧ '\x7b' :: cs = vs ++ rest := by
  rcases exists_gap cs with ⟨gap, hgap, hcs⟩
  refine ⟨_, .emptyObject hgap, ?_⟩
  rw [hcs, hclosed]
  simp

/-- What an array is read from spells it, if what its items are read from spells them. -/
theorem SoundReading.spells_array (h : SoundReading steps) {closed : Bool}
    (hitems : readItems steps (skipGap cs) = (items, closed, rest))
    (hwell : (Tree.array items closed).wellFormed = true) :
    ∃ vs, Spells (.value (.array items closed)) vs ∧ '[' :: cs = vs ++ rest := by
  rw [Tree.wellFormed, Bool.and_eq_true] at hwell
  obtain rfl := hwell.2
  rw [readItems_skipGap] at hitems
  rcases h.items hitems hwell.1 with ⟨is, his, rfl⟩
  exact ⟨_, .array his, by simp⟩

/-- What an object is read from spells it, if what its members are read from spells them. -/
theorem SoundReading.spells_object (h : SoundReading steps) {closed : Bool}
    (hmembers : readMembers steps (skipGap cs) = (members, closed, rest))
    (hwell : (Tree.object members closed).wellFormed = true) :
    ∃ vs, Spells (.value (.object members closed)) vs ∧ '\x7b' :: cs = vs ++ rest := by
  rw [Tree.wellFormed, Bool.and_eq_true] at hwell
  obtain rfl := hwell.2
  rw [readMembers_skipGap] at hmembers
  rcases h.members hmembers hwell.1 with ⟨ms, hms, rfl⟩
  exact ⟨_, .object hms, by simp⟩

/-- What a value is read from spells it, if what its parts are read from spells them. -/
theorem SoundReading.readValue_succ (h : SoundReading steps)
    (hread : readValue (steps + 1) cs = (tree, rest)) (hwell : tree.wellFormed = true) :
    ∃ vs, Spells (.value tree) vs ∧ skipGap cs = vs ++ rest := by
  rw [readValue] at hread
  split at hread
  · rename_i heq
    obtain ⟨rfl, rfl⟩ := Prod.mk.inj hread
    exact ⟨_, .null, heq⟩
  · rename_i heq
    obtain ⟨rfl, rfl⟩ := Prod.mk.inj hread
    exact ⟨_, .yes, heq⟩
  · rename_i heq
    obtain ⟨rfl, rfl⟩ := Prod.mk.inj hread
    exact ⟨_, .no, heq⟩
  · rename_i quoted heq
    split at hread
    · rename_i text rest' hstring
      obtain ⟨rfl, rfl⟩ := Prod.mk.inj hread
      rcases spellsString_of_readString hstring with ⟨front, hfront, rfl⟩
      exact ⟨_, .string hfront, heq⟩
    · obtain ⟨rfl, rfl⟩ := Prod.mk.inj hread
      simp [Tree.wellFormed] at hwell
  · rename_i opened heq
    rw [heq]
    split at hread
    · rename_i rest' hclosed
      obtain ⟨rfl, rfl⟩ := Prod.mk.inj hread
      exact spells_emptyArray hclosed
    · rcases hitems : readItems steps (skipGap opened) with ⟨items, closed, rest'⟩
      rw [hitems] at hread
      obtain ⟨rfl, rfl⟩ := Prod.mk.inj hread
      exact h.spells_array hitems hwell
  · rename_i opened heq
    rw [heq]
    split at hread
    · rename_i rest' hclosed
      obtain ⟨rfl, rfl⟩ := Prod.mk.inj hread
      exact spells_emptyObject hclosed
    · rcases hmembers : readMembers steps (skipGap opened) with ⟨members, closed, rest'⟩
      rw [hmembers] at hread
      obtain ⟨rfl, rfl⟩ := Prod.mk.inj hread
      exact h.spells_object hmembers hwell
  · rename_i heq
    split at hread
    · rename_i numeral rest' hnumeral
      obtain ⟨rfl, rfl⟩ := Prod.mk.inj hread
      rcases Numeral.spellsNumeral_of_read hnumeral with ⟨ns, hns, hfront⟩
      exact ⟨ns, .number hns, hfront⟩
    · obtain ⟨rfl, rfl⟩ := Prod.mk.inj hread
      simp [Tree.wellFormed] at hwell

/-- A value that is read is spelled behind the blanks in front of it, with any blanks after it. -/
theorem SoundReading.spaced (h : SoundReading steps) {after : List Char}
    (hread : readValue steps cs = (tree, rest)) (hwell : tree.wellFormed = true)
    (hafter : skipGap rest = after) :
    ∃ vs, Spells (.spaced tree) vs ∧ cs = vs ++ after := by
  rcases h.value hread hwell with ⟨gap, vs, hgap, hvs, rfl⟩
  rcases exists_gap rest with ⟨gap', hgap', hrest⟩
  refine ⟨gap ++ (vs ++ gap'), .spaced hgap hvs hgap', ?_⟩
  rw [hrest, hafter]
  simp

/-- The same holds of the items of an array. -/
theorem SoundReading.readItems_succ (h : SoundReading steps)
    (hread : readItems (steps + 1) cs = (items, true, rest))
    (hwell : Tree.wellFormedItems items = true) :
    ∃ is, Spells (.items items) is ∧ cs = is ++ ']' :: rest := by
  rw [readItems] at hread
  rcases hitem : readValue steps cs with ⟨item, more⟩
  rw [hitem] at hread
  dsimp only at hread
  split at hread
  · split at hread
    · rename_i more' hcomma
      rcases hmore : readItems steps more' with ⟨items', closed, rest'⟩
      rw [hmore] at hread
      obtain ⟨rfl, hrest⟩ := Prod.mk.inj hread
      obtain ⟨rfl, rfl⟩ := Prod.mk.inj hrest
      rw [Tree.wellFormedItems, Bool.and_eq_true] at hwell
      rcases h.items hmore hwell.2 with ⟨is, his, rfl⟩
      rcases h.spaced hitem hwell.1 hcomma with ⟨vs, hvs, rfl⟩
      exact ⟨vs ++ ',' :: is, .moreItems hvs his, by simp⟩
    · rename_i hclosing
      obtain ⟨rfl, hrest⟩ := Prod.mk.inj hread
      obtain rfl := (Prod.mk.inj hrest).2
      rw [Tree.wellFormedItems, Bool.and_eq_true] at hwell
      rcases h.spaced hitem hwell.1 hclosing with ⟨vs, hvs, rfl⟩
      exact ⟨vs, .lastItem hvs, rfl⟩
    · simp at hread
  · simp at hread

/-- The same holds of the members of an object. -/
theorem SoundReading.readMembers_succ (h : SoundReading steps)
    (hread : readMembers (steps + 1) cs = (members, true, rest))
    (hwell : Tree.wellFormedMembers members = true) :
    ∃ ms, Spells (.members members) ms ∧ cs = ms ++ '\x7d' :: rest := by
  rw [readMembers] at hread
  rcases exists_gap cs with ⟨before, hbefore, hcs⟩
  split at hread
  · rename_i quoted hquote
    split at hread
    · simp at hread
    · rename_i name named hname
      rcases spellsString_of_readString hname with ⟨ns, hns, rfl⟩
      rcases exists_gap named with ⟨after, hafter, hnamed⟩
      split at hread
      · rename_i vs hcolon
        rcases hvalue : readValue steps vs with ⟨value, more⟩
        rw [hvalue] at hread
        -- The text up to the colon, before whatever is spelled behind it.
        have hfront : ∀ ws, vs = ws → cs = before ++ ('"' :: ns ++ (after ++ ':' :: ws)) := by
          rintro ws rfl
          rw [hcs, hquote, hnamed, hcolon]
          simp
        dsimp only at hread
        split at hread
        · split at hread
          · rename_i more' hcomma
            rcases hmore : readMembers steps more' with ⟨members', closed, rest'⟩
            rw [hmore] at hread
            obtain ⟨rfl, hrest⟩ := Prod.mk.inj hread
            obtain ⟨rfl, rfl⟩ := Prod.mk.inj hrest
            rw [Tree.wellFormedMembers, Bool.and_eq_true] at hwell
            rcases h.members hmore hwell.2 with ⟨ms, hms, rfl⟩
            rcases h.spaced hvalue hwell.1 hcomma with ⟨ws, hws, hvs⟩
            refine ⟨_, .moreMembers (.member hbefore hns hafter hws) hms, ?_⟩
            rw [hfront _ hvs]
            simp
          · rename_i hclosing
            obtain ⟨rfl, hrest⟩ := Prod.mk.inj hread
            obtain rfl := (Prod.mk.inj hrest).2
            rw [Tree.wellFormedMembers, Bool.and_eq_true] at hwell
            rcases h.spaced hvalue hwell.1 hclosing with ⟨ws, hws, hvs⟩
            refine ⟨_, .lastMember (.member hbefore hns hafter hws), ?_⟩
            rw [hfront _ hvs]
            simp
          · simp at hread
        · simp at hread
      · simp at hread
  · simp at hread

/-- Reading is sound, after however many steps. -/
theorem soundReading (steps : Nat) : SoundReading steps := by
  induction steps with
  | zero =>
    refine ⟨fun hread hwell => ?_, fun hread _ => ?_, fun hread _ => ?_⟩
    · obtain rfl := (Prod.mk.inj hread).1
      exact absurd hwell Bool.false_ne_true
    · exact absurd (Prod.mk.inj (Prod.mk.inj hread).2).1 Bool.false_ne_true
    · exact absurd (Prod.mk.inj (Prod.mk.inj hread).2).1 Bool.false_ne_true
  | succ steps ih =>
    refine ⟨fun {cs} _ _ hread hwell => ?_, ih.readItems_succ, ih.readMembers_succ⟩
    rcases ih.readValue_succ hread hwell with ⟨vs, hvs, hskip⟩
    rcases exists_gap cs with ⟨gap, hgap, hcs⟩
    exact ⟨gap, vs, hgap, hvs, by rw [hcs, hskip]⟩

/-- A text that is read without a flaw spells the tree that is read from it. -/
theorem spells_of_readTree {text : String} (hread : readTree text = (tree, true))
    (hwell : tree.wellFormed = true) : Spells (.spaced tree) text.toList := by
  rw [readTree] at hread
  rcases hvalue : readValue (2 * text.toList.length + 2) text.toList with ⟨tree', rest⟩
  simp only [hvalue] at hread
  obtain ⟨rfl, hclean⟩ := Prod.mk.inj hread
  rcases (soundReading _).spaced hvalue hwell (List.isEmpty_iff.1 hclean) with ⟨vs, hvs, hcs⟩
  rwa [hcs, List.append_nil]

end ShellComposer.Json
