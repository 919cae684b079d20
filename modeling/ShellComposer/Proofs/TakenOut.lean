import ShellComposer.Proofs.Reaction
import ShellComposer.Proofs.Unplugging

/-!
# Blocks taken out of a graph

Blocks that are taken out of their chains hang nowhere and lead nowhere, and every chain goes on
without them.  So do the blocks that links lead to from the script, as long as the blocks taken out
hold nothing in slots of their own.  Everything else is as it was.

Main results:

- Structure `TakenOut`: some blocks have been taken out of a graph, and nothing else has changed.
- Theorems `TakenOut.trans` and `TakenOut.unplug`: one block after the other.
- Theorem `TakenOut.target?_eq`: where links lead without the blocks taken out.
- Theorem `TakenOut.linked_iff`: what the script leads to without them.
-/

namespace ShellComposer

namespace BlockGraph

open Relation

variable {g g' : BlockGraph} {a b d id source owner : BlockId} {outlet : Outlet} {slot : String}
variable {gone : List BlockId}

/-! ## What a block is and where it leads -/

/-- What a block stands for, its fields and its slots. -/
def content? (g : BlockGraph) (id : BlockId) :
    Option (BlockKind × List (String × String) × List Slot) :=
  (g.get? id).map fun block => (block.kind, block.fields, block.slots)

theorem shape?_of_content? (h : g'.content? id = g.content? id) : g'.shape? id = g.shape? id := by
  have hshape : ∀ g : BlockGraph, g.shape? id =
      (g.content? id).map fun content => (content.1, content.2.2) := by
    intro g
    unfold shape? content?
    rw [Option.map_map]
    rfl
  rw [hshape, hshape, h]

theorem content?_of_blocks (h : g'.blocks = g.blocks) (id : BlockId) :
    g'.content? id = g.content? id := by
  unfold content? get?
  rw [h]

/-- Refreshing the flags leaves the content of every block. -/
theorem content?_refresh (g : BlockGraph) (id : BlockId) :
    g.refresh.2.content? id = g.content? id := by
  unfold content?
  rw [get?_refresh, Option.map_map]
  rfl

/-- Where the way along a chain starts. -/
theorem Sound.head?_onward (h : g.Sound) (id : BlockId) (outlet : Outlet) :
    (g.onward id outlet).head? = g.target? id outlet := by
  have htraces := h.traces_onward id outlet
  cases hread : g.target? id outlet with
  | none =>
    rw [hread] at htraces
    rw [show g.onward id outlet = [] from htraces]
    rfl
  | some head =>
    rw [hread] at htraces
    rcases Orbit.exists_cons htraces with ⟨rest, hcons⟩
    rw [hcons, List.head?_cons]

/-- What an outlet leads to hangs somewhere. -/
theorem Sound.parent_ne_none_of_mem_onward (h : g.Sound) (hmem : b ∈ g.onward id outlet) :
    g.parent b ≠ none := by
  rcases TransGen.tail'_iff.1 (h.leads_of_mem_onward hmem) with ⟨source, -, outlet', hlink⟩
  intro hnone
  exact parent_eq_none_iff.1 hnone _ hlink rfl

/-! ## Blocks taken out -/

/-- Some blocks have been taken out of a graph, and nothing else has changed. -/
structure TakenOut (gone : List BlockId) (g g' : BlockGraph) : Prop where
  /-- All blocks are there with their kinds, fields and slots. -/
  content_eq : ∀ id, g'.content? id = g.content? id
  /-- The id for the next block is the same. -/
  nextId_eq : g'.nextId = g.nextId
  /-- From the other blocks every chain goes on without those taken out. -/
  onward_eq : ∀ id outlet, id ∉ gone →
    g'.onward id outlet = (g.onward id outlet).filter (· ∉ gone)
  /-- The blocks taken out hang nowhere and lead nowhere. -/
  loose : ∀ id ∈ gone, g'.parent id = none ∧ ∀ outlet, g'.target? id outlet = none

namespace TakenOut

/-- A graph is itself with nothing taken out. -/
theorem none (g : BlockGraph) : TakenOut [] g g where
  content_eq := fun _ => rfl
  nextId_eq := rfl
  onward_eq := by simp
  loose := by simp

/-- Enabling blocks takes none out. -/
theorem refresh (g : BlockGraph) : TakenOut [] g g.refresh.2 where
  content_eq := content?_refresh g
  nextId_eq := rfl
  onward_eq := by
    intro id outlet _
    have hsize : g.refresh.2.size = g.size := List.length_map _
    have hsame : g.refresh.2.onward id outlet = g.onward id outlet := by
      unfold onward
      have hread : g.refresh.2.target? id outlet = g.target? id outlet := rfl
      rw [hread]
      cases g.target? id outlet with
      | none => rfl
      | some head =>
        unfold chain chainFrom
        rw [hsize]
        rfl
    rw [hsame]
    simp
  loose := by simp

/-- A block that hangs somewhere and holds nothing in slots of its own is taken out. -/
theorem unplug (h : g.Sound) (hheld : ⟨source, outlet, d⟩ ∈ g.links)
    (hbare : ∀ name, g.target? d (.slot name) = Option.none) : TakenOut [d] g (g.unplug d) where
  content_eq := content?_of_blocks (g.blocks_unplug d)
  nextId_eq := g.nextId_unplug d
  onward_eq := by
    intro id outlet hne
    rw [List.mem_singleton] at hne
    rw [h.onward_unplug hheld fun hboth => hne hboth.1]
    simp only [List.mem_singleton]
  loose := by
    intro id hid
    obtain rfl : id = d := List.mem_singleton.1 hid
    rcases h.loose_unplug hheld with ⟨hparent, hnext⟩
    refine ⟨hparent, fun outlet => ?_⟩
    cases outlet with
    | next => exact hnext
    | slot name =>
      rw [h.target?_unplug hheld (by simp), hbare name]
      rfl

variable {gone' : List BlockId} {g'' : BlockGraph}

/-- A block that hung nowhere still does. -/
theorem parent_eq_none (h : TakenOut gone g g') (hsound : g.Sound) (hsound' : g'.Sound)
    (hloose : g.parent id = Option.none) : g'.parent id = Option.none := by
  cases hparent : g'.parent id with
  | none => rfl
  | some place =>
    rcases place with ⟨source, outlet⟩
    have hlink := mem_links_of_parent hparent
    have hkept : source ∉ gone := by
      intro hgone
      have hnone := (h.loose source hgone).2 outlet
      exact target?_eq_none_iff.1 hnone id hlink
    have hmem := hsound'.mem_onward_of_link hlink
    rw [h.onward_eq source outlet hkept] at hmem
    exact absurd hloose (hsound.parent_ne_none_of_mem_onward (List.mem_of_mem_filter hmem))

/-- Further blocks are taken out. -/
theorem trans (h : TakenOut gone g g') (h' : TakenOut gone' g' g'') (hsound' : g'.Sound)
    (hsound'' : g''.Sound) : TakenOut (gone ++ gone') g g'' where
  content_eq := fun id => (h'.content_eq id).trans (h.content_eq id)
  nextId_eq := h'.nextId_eq.trans h.nextId_eq
  onward_eq := by
    intro id outlet hkept
    rw [List.mem_append, not_or] at hkept
    rw [h'.onward_eq id outlet hkept.2, h.onward_eq id outlet hkept.1, List.filter_filter]
    refine List.filter_congr fun other _ => ?_
    rw [Bool.eq_iff_iff]
    simp [and_comm]
  loose := by
    intro id hgone
    by_cases hlater : id ∈ gone'
    · exact h'.loose id hlater
    · have hearlier : id ∈ gone := (List.mem_append.1 hgone).resolve_right hlater
      rcases h.loose id hearlier with ⟨hparent, htarget⟩
      refine ⟨h'.parent_eq_none hsound' hsound'' hparent, fun outlet => ?_⟩
      have honward : g'.onward id outlet = [] := by
        unfold onward
        rw [htarget outlet]
        rfl
      rw [← hsound''.head?_onward, h'.onward_eq id outlet hlater, honward]
      rfl

/-- The chain in a slot is as it was, without the blocks taken out. -/
theorem slotChain_eq (h : TakenOut gone g g') (howner : owner ∉ gone) (slot : String) :
    g'.slotChain owner slot = (g.slotChain owner slot).filter (· ∉ gone) :=
  h.onward_eq owner (.slot slot) howner

/-- An outlet leads to the first block along its chain that was not taken out. -/
theorem target?_eq (h : TakenOut gone g g') (hsound' : g'.Sound) (hid : id ∉ gone)
    (outlet : Outlet) : g'.target? id outlet = (g.onward id outlet).find? (· ∉ gone) := by
  rw [← hsound'.head?_onward, h.onward_eq id outlet hid, List.head?_filter]

/-- The script leads to the blocks that it led to, without those taken out. -/
theorem linked_iff (h : TakenOut gone g g') (hsound : g.Sound) (hsound' : g'.Sound)
    (hroot : root ∉ gone)
    (hbare : ∀ d ∈ gone, ∀ name, g.target? d (.slot name) = Option.none) :
    ReflTransGen g'.Leads root id ↔ ReflTransGen g.Leads root id ∧ id ∉ gone := by
  constructor
  · intro hpath
    induction hpath with
    | refl => exact ⟨.refl, hroot⟩
    | tail _ hstep ih =>
      rcases hstep with ⟨outlet, hlink⟩
      have hmem := hsound'.mem_onward_of_link hlink
      rw [h.onward_eq _ outlet ih.2, List.mem_filter] at hmem
      exact ⟨ih.1.trans (hsound.leads_of_mem_onward hmem.1).to_reflTransGen, by simpa using hmem.2⟩
  · rintro ⟨hpath, hid⟩
    have honward : ∀ {a b outlet}, ReflTransGen g'.Leads root a → a ∉ gone →
        b ∈ g.onward a outlet → b ∉ gone → ReflTransGen g'.Leads root b := by
      intro a b outlet hreach ha hmem hb
      have hmem' : b ∈ g'.onward a outlet := by
        rw [h.onward_eq a outlet ha]
        exact List.mem_filter.2 ⟨hmem, by simpa using hb⟩
      exact hreach.trans (hsound'.leads_of_mem_onward hmem').to_reflTransGen
    -- along the path: a block taken out is on the chain behind one that was not
    have hbehind : id ∉ gone ∧ ReflTransGen g'.Leads root id ∨
        ∃ a outlet, a ∉ gone ∧ ReflTransGen g'.Leads root a ∧ id ∈ g.onward a outlet := by
      clear hid
      induction hpath with
      | refl => exact .inl ⟨hroot, .refl⟩
      | @tail b c _ hstep ih =>
        rcases hstep with ⟨outlet, hlink⟩
        have hmem := hsound.mem_onward_of_link hlink
        by_cases hb : b ∈ gone
        · have hnext : outlet = .next := by
            cases outlet with
            | next => rfl
            | slot name => exact absurd hlink (target?_eq_none_iff.1 (hbare b hb name) c)
          subst hnext
          rcases ih with ⟨hkept, -⟩ | ⟨a, outlet, ha, hreach, hmem'⟩
          · exact absurd hb hkept
          · exact .inr ⟨a, outlet, ha, hreach, hsound.next_mem_onward hmem' hlink⟩
        · have hreach : ReflTransGen g'.Leads root b := by
            rcases ih with ⟨-, hreach⟩ | ⟨a, outlet', ha, hreach, hmem'⟩
            · exact hreach
            · exact honward hreach ha hmem' hb
          exact .inr ⟨b, outlet, hb, hreach, hmem⟩
    rcases hbehind with ⟨-, hreach⟩ | ⟨a, outlet, ha, hreach, hmem⟩
    · exact hreach
    · exact honward hreach ha hmem hid

end TakenOut

end BlockGraph

end ShellComposer
