import ShellComposer.Proofs.GraphRuns
import ShellComposer.Proofs.Moving
import ShellComposer.Proofs.Searching

/-!
# Deleting blocks

A block is deleted in two steps.  First it is isolated: it leaves its place to the block that
follows, and stands alone with what its slots hold.  No link then enters or leaves this part of the
graph, and the part goes as a whole.  What belongs to it is listed while the list is read, each
block after the one that leads to it.

Main results:

- Definition `isolate` and theorem `Sound.leftAlone_isolate`: a block that stands alone.
- Inductive relation `Inside` and theorem `Sound.mem_withContents_iff`: what goes with a block.
- Definition `Apart` and theorem `Apart.onward_delete`: a part of the graph without links to the
  rest.
- Definition `doomed` and theorems `Sound.ends_doomed`, `Sound.inTurn_doomed`: what is listed, and
  in which order.
- Structure `Deleted` and theorem `remove_deletes`: what becomes of a graph that any calls led to.
-/

namespace ShellComposer

open BlockGraph

namespace BlockGraph

open Relation

variable {g g' : BlockGraph} {a b id top owner head after : BlockId} {outlet : Outlet}
variable {slot : String} {link : Link} {part : List BlockId}

/-! ## A block that stands alone -/

/-- The graph with a block taken out of its place and no block behind it. -/
def isolate (g : BlockGraph) (id : BlockId) : BlockGraph :=
  (g.unplug id).dropOutlet id .next

/-- A graph stays sound when a block is taken out by itself. -/
theorem Sound.isolate (h : g.Sound) (id : BlockId) : (g.isolate id).Sound :=
  (h.unplug id).dropOutlet id .next

/-- No block is lost when one is taken out by itself. -/
theorem contains_isolate : (g.isolate id).contains b = g.contains b := by
  rw [contains, BlockGraph.isolate, dropOutlet, blocks_unplug, contains]

/-- When a block is isolated, the links at it go, but for those that leave its slots.  A link over
the gap takes their place. -/
theorem Sound.mem_links_isolate (h : g.Sound) : link ∈ (g.isolate id).links ↔
    (link ∈ g.links ∧ link.target ≠ id ∧ ¬(link.source = id ∧ link.outlet = .next)) ∨
      (⟨id, .next, link.target⟩ ∈ g.links ∧ ⟨link.source, link.outlet, id⟩ ∈ g.links) := by
  rw [BlockGraph.isolate, mem_links_dropOutlet]
  cases hparent : g.parent id with
  | none =>
    rw [unplug_eq_self hparent]
    have hloose := parent_eq_none_iff.1 hparent
    constructor
    · rintro ⟨hmem, hother⟩
      exact .inl ⟨hmem, hloose link hmem, hother⟩
    · rintro (⟨hmem, -, hother⟩ | ⟨-, hheld⟩)
      · exact ⟨hmem, hother⟩
      · exact absurd rfl (hloose _ hheld)
  | some place =>
    rcases place with ⟨source, outlet⟩
    have hheld := mem_links_of_parent hparent
    rw [h.mem_links_unplug hheld]
    constructor
    · rintro ⟨hold | ⟨hfollows, rfl, rfl⟩, -⟩
      · exact .inl hold
      · exact .inr ⟨hfollows, hheld⟩
    · rintro (⟨hmem, htarget, hother⟩ | ⟨hfollows, hplace⟩)
      · exact ⟨.inl ⟨hmem, htarget, hother⟩, hother⟩
      · have hsame := h.eq_of_target hplace hheld rfl
        rw [Link.mk.injEq] at hsame
        refine ⟨.inr ⟨hfollows, hsame.1, hsame.2.1⟩, fun hboth => ?_⟩
        rw [hboth.1] at hplace
        exact h.not_mem_links_self hplace

/-- Every other outlet leads where it led, over the block that is isolated. -/
theorem Sound.target?_isolate (h : g.Sound) (hother : ¬(a = id ∧ outlet = .next)) :
    (g.isolate id).target? a outlet = g.skip id (g.target? a outlet) := by
  rw [BlockGraph.isolate, target?_dropOutlet fun hboth => hother ⟨hboth.1.symm, hboth.2.symm⟩]
  cases hparent : g.parent id with
  | none => rw [unplug_eq_self hparent, skip_of_loose hparent]
  | some place => exact h.target?_unplug (mem_links_of_parent hparent) hother

/-- The block that followed hangs where the block that is isolated hung, and every other block where
it did. -/
theorem Sound.parent_isolate (h : g.Sound) (hne : b ≠ id) :
    (g.isolate id).parent b = if g.next id = some b then g.parent id else g.parent b := by
  apply Option.ext
  rintro ⟨source, outlet⟩
  rw [(h.isolate id).parent_eq_some_iff, h.mem_links_isolate]
  by_cases hfollows : g.next id = some b
  · have hlink := mem_links_of_target? hfollows
    rw [if_pos hfollows, h.parent_eq_some_iff]
    constructor
    · rintro (⟨hmem, -, hother⟩ | ⟨-, hplace⟩)
      · have hsame := h.eq_of_target hmem hlink rfl
        rw [Link.mk.injEq] at hsame
        exact absurd ⟨hsame.1, hsame.2.1⟩ hother
      · exact hplace
    · exact fun hplace => .inr ⟨hlink, hplace⟩
  · rw [if_neg hfollows, h.parent_eq_some_iff]
    constructor
    · rintro (⟨hmem, -, -⟩ | ⟨hlink, -⟩)
      · exact hmem
      · exact absurd (h.target?_eq_some_iff.2 hlink) hfollows
    · refine fun hmem => .inl ⟨hmem, hne, ?_⟩
      rintro ⟨rfl, rfl⟩
      exact hfollows (h.target?_eq_some_iff.2 hmem)

/-- A block that is isolated leaves alone. -/
theorem Sound.leftAlone_isolate (h : g.Sound) (id : BlockId) : LeftAlone id g (g.isolate id) := by
  refine h.leftAlone_of_target (h.isolate id) (g.blocks_unplug id) (g.nextId_unplug id) ?_
    target?_dropOutlet_self fun _ _ hother => h.target?_isolate hother
  cases hparent : g.parent id with
  | none =>
    refine parent_eq_none_of_subset ?_ hparent
    rw [BlockGraph.isolate, unplug_eq_self hparent]
    exact List.filter_sublist.subset
  | some place =>
    have hloose := (h.loose_unplug (mem_links_of_parent hparent)).1
    exact parent_eq_none_of_subset List.filter_sublist.subset hloose

/-! ## What a block has inside -/

/-- The blocks that the slots of a block hold, and those that the slots of such blocks hold. -/
inductive Inside (g : BlockGraph) (top : BlockId) : BlockId → Prop where
  | held {id : BlockId} {slot : String} (inside : id ∈ g.slotChain top slot) : Inside g top id
  | deeper {owner id : BlockId} {slot : String} (above : Inside g top owner)
      (inside : id ∈ g.slotChain owner slot) : Inside g top id

/-- A block inside another one is in a slot of it, or of a block inside it. -/
theorem Inside.exists_slotChain (hin : g.Inside top id) :
    ∃ owner slot, (owner = top ∨ g.Inside top owner) ∧ id ∈ g.slotChain owner slot := by
  cases hin with
  | held inside => exact ⟨top, _, .inl rfl, inside⟩
  | deeper above inside => exact ⟨_, _, .inr above, inside⟩

/-- A block leads to what it has inside. -/
theorem WellLinked.leads_of_inside (h : g.WellLinked) (hin : g.Inside top id) :
    TransGen g.Leads top id := by
  induction hin with
  | held inside => exact h.leads_of_mem_slotChain inside
  | deeper _ inside ih => exact ih.trans (h.leads_of_mem_slotChain inside)

/-- What a block has inside does not lead back to it. -/
theorem WellLinked.not_leads_of_inside (h : g.WellLinked) (hin : a = top ∨ g.Inside top a) :
    ¬ TransGen g.Leads a top := by
  rcases hin with rfl | hin
  · exact h.acyclic a
  · exact fun hback => h.acyclic top ((h.leads_of_inside hin).trans hback)

/-- No block is inside itself. -/
theorem WellLinked.ne_of_inside (h : g.WellLinked) (hin : g.Inside top id) : id ≠ top := by
  rintro rfl
  exact h.acyclic _ (h.leads_of_inside hin)

/-- What follows a block is not inside it. -/
theorem Sound.not_inside_of_follows (h : g.Sound) (htop : g.contains top = true)
    (hmem : b ∈ g.chainFrom top) : ¬ g.Inside top b := by
  intro hin
  rcases hin.exists_slotChain with ⟨owner, slot, howner, hslot⟩
  have hhere : b ∈ g.chainAt (.slot owner slot) := hslot
  have hback : top ∈ g.slotChain owner slot := h.mem_chainAt_of_mem_chainFrom htop hmem hhere
  exact h.not_leads_of_inside howner (h.leads_of_mem_slotChain hback)

/-- A block that is isolated has inside what it had. -/
theorem Sound.inside_isolate_iff (h : g.Sound) : (g.isolate id).Inside id b ↔ g.Inside id b := by
  have hslot : ∀ {owner slot b}, b ∈ (g.isolate id).slotChain owner slot ↔
      b ∈ g.slotChain owner slot ∧ b ≠ id := by
    intro owner slot b
    rw [(h.leftAlone_isolate id).slotChain_eq, List.mem_filter, decide_eq_true_iff]
  constructor
  · intro hin
    induction hin with
    | held inside => exact .held (hslot.1 inside).1
    | deeper _ inside ih => exact .deeper ih (hslot.1 inside).1
  · intro hin
    induction hin with
    | held inside => exact .held (hslot.2 ⟨inside, h.ne_of_inside (.held inside)⟩)
    | deeper above inside ih =>
      exact .deeper ih (hslot.2 ⟨inside, h.ne_of_inside (.deeper above inside)⟩)

/-! ## Listing what a block has inside -/

/-- A link from a slot leads to the chain that the slot holds. -/
theorem WellLinked.chainFrom_eq_slotChain (h : g.WellLinked)
    (hlink : ⟨owner, .slot slot, head⟩ ∈ g.links) : g.chainFrom head = g.slotChain owner slot := by
  rw [slotChain, slotHead, h.target?_eq_some_iff.2 hlink, chain]

/-- The links from the slots of a block. -/
theorem mem_slotLinks_iff :
    link ∈ (g.links.filter fun link => link.source == a && link.outlet.isSlot) ↔
      ∃ slot head, link = ⟨a, .slot slot, head⟩ ∧ link ∈ g.links := by
  rcases link with ⟨source, _ | _, target⟩ <;>
    simp [Outlet.isSlot, and_comm]

/-- The contents of a block are what its slots hold. -/
theorem WellLinked.mem_slotContents_iff (h : g.WellLinked) :
    b ∈ g.slotContents a ↔ ∃ slot, b ∈ g.slotChain a slot := by
  rw [slotContents, List.mem_flatMap]
  constructor
  · rintro ⟨link, hmem, hchain⟩
    rcases mem_slotLinks_iff.1 hmem with ⟨slot, head, rfl, hlink⟩
    exact ⟨slot, h.chainFrom_eq_slotChain hlink ▸ hchain⟩
  · rintro ⟨slot, hchain⟩
    rcases h.mem_slotChain_iff.1 hchain with ⟨head, hlink, -⟩
    exact ⟨_, mem_slotLinks_iff.2 ⟨slot, head, rfl, hlink⟩, h.chainFrom_eq_slotChain hlink ▸ hchain⟩

/-- The slots of a block hold no block twice. -/
theorem Sound.nodup_slotContents (h : g.Sound) (a : BlockId) : (g.slotContents a).Nodup := by
  rw [slotContents, List.nodup_flatMap]
  refine ⟨fun link _ => h.nodup_chainFrom link.target, ?_⟩
  refine ((List.pairwise_map.1 h.one_outgoing).filter _).imp_of_mem ?_
  intro link link' hmem hmem' hne b hb hb'
  rcases mem_slotLinks_iff.1 hmem with ⟨slot, head, rfl, hlink⟩
  rcases mem_slotLinks_iff.1 hmem' with ⟨slot', head', rfl, hlink'⟩
  have hhere : b ∈ g.slotChain a slot := h.chainFrom_eq_slotChain hlink ▸ hb
  have hthere : b ∈ g.slotChain a slot' := h.chainFrom_eq_slotChain hlink' ▸ hb'
  exact hne (by rw [(h.slotChain_unique hhere hthere).2])

/-- Slots hold each block in one place only, and a block that hangs nowhere in none. -/
theorem Sound.branches_slotContents (h : g.Sound) (hloose : g.parent id = none) :
    Branches g.slotContents id where
  nodup := h.nodup_slotContents
  unique := by
    intro a b c ha hb
    rcases h.mem_slotContents_iff.1 ha with ⟨slot, hslot⟩
    rcases h.mem_slotContents_iff.1 hb with ⟨slot', hslot'⟩
    exact (h.slotChain_unique hslot hslot').1
  first_free := by
    intro a hmem
    rcases h.mem_slotContents_iff.1 hmem with ⟨slot, hslot⟩
    exact h.parent_ne_none_of_mem_onward hslot hloose

/-- The blocks of a chain come in turn, after the block that leads to the first of them. -/
theorem Orbit.inTurn {xs : List BlockId} (h : Orbit g.next head xs) (hhead : g.Leads a head) :
    InTurn g.Leads [a] xs := by
  induction h generalizing a with
  | last _ => exact ⟨⟨a, List.mem_cons_self, hhead⟩, trivial⟩
  | more hgo _ ih =>
    refine ⟨⟨a, List.mem_cons_self, hhead⟩, ?_⟩
    have hrest := ih ⟨.next, mem_links_of_target? hgo⟩
    exact hrest.of_subset (List.subset_append_right _ _)

/-- What the slots of a block hold comes in turn after the block. -/
theorem Sound.inTurn_slotContents (h : g.Sound) (a : BlockId) :
    InTurn g.Leads [a] (g.slotContents a) := by
  refine InTurn.flatMap fun link hmem => ?_
  rcases mem_slotLinks_iff.1 hmem with ⟨slot, head, rfl, hlink⟩
  exact (h.chain_orbit (h.ends_present _ hlink).2).inTurn ⟨_, hlink⟩

/-- A block that hangs nowhere is listed with all that it has inside.  The list comes to an end. -/
theorem Sound.ends_withContents (h : g.Sound) (hid : g.contains id = true)
    (hloose : g.parent id = none) :
    Search.Ends (Search.readNext g.slotContents) id (g.withContents id) := by
  refine (h.branches_slotContents hloose).ends_rows (mem_ids_iff.2 hid) (fun a b hmem => ?_)
    (Nat.le_of_eq length_ids)
  rcases h.mem_slotContents_iff.1 hmem with ⟨slot, hslot⟩
  exact mem_ids_iff.2 (h.present_of_leads (h.leads_of_mem_slotChain hslot)).1

/-- A block is listed with all that it has inside. -/
theorem Sound.mem_withContents_iff (h : g.Sound) (hid : g.contains id = true)
    (hloose : g.parent id = none) : b ∈ g.withContents id ↔ b = id ∨ g.Inside id b := by
  have hbranches := h.branches_slotContents hloose
  rw [(hbranches.orderly_of_ends (h.ends_withContents hid hloose)).mem_found_iff]
  constructor
  · intro hpath
    induction hpath with
    | refl => exact .inl rfl
    | tail _ hstep ih =>
      rcases h.mem_slotContents_iff.1 hstep with ⟨slot, hslot⟩
      rcases ih with rfl | hin
      · exact .inr (.held hslot)
      · exact .inr (.deeper hin hslot)
  · rintro (rfl | hin)
    · exact .refl
    · induction hin with
      | held inside => exact .single (h.mem_slotContents_iff.2 ⟨_, inside⟩)
      | deeper _ inside ih => exact ih.tail (h.mem_slotContents_iff.2 ⟨_, inside⟩)

/-! ## A part without links to the rest -/

/-- Links neither enter nor leave a part of the graph. -/
def Apart (g : BlockGraph) (part : List BlockId) : Prop :=
  ∀ link ∈ g.links, link.source ∈ part ↔ link.target ∈ part

/-- A block with nothing above it and none behind it stands apart with what it has inside. -/
theorem Sound.apart_withContents (h : g.Sound) (hid : g.contains id = true)
    (hloose : g.parent id = none) (hlast : g.next id = none) : g.Apart (g.withContents id) := by
  rintro ⟨a, outlet, b⟩ hlink
  rw [h.mem_withContents_iff hid hloose, h.mem_withContents_iff hid hloose]
  constructor
  · intro hin
    right
    cases outlet with
    | slot slot =>
      have hslot : b ∈ g.slotChain a slot := h.mem_onward_of_link hlink
      rcases hin with rfl | hin
      · exact .held hslot
      · exact .deeper hin hslot
    | next =>
      rcases hin with rfl | hin
      · exact absurd hlink (target?_eq_none_iff.1 hlast b)
      · cases hin with
        | held inside => exact .held (h.next_mem_onward inside hlink)
        | deeper above inside => exact .deeper above (h.next_mem_onward inside hlink)
  · intro hin
    have hne : b ≠ id := fun hsame => parent_eq_none_iff.1 hloose _ hlink hsame
    rcases (hin.resolve_left hne).exists_slotChain with ⟨owner, slot, howner, hslot⟩
    -- the one link to the block comes from the owner of the slot or from a block in it
    rcases h.mem_slotChain_iff.1 hslot with ⟨head, hfirst, hpath⟩
    rcases hpath.cases_tail with rfl | ⟨before, hbefore, hstep⟩
    · obtain rfl : a = owner := congrArg Link.source (h.eq_of_target hlink hfirst rfl)
      exact howner
    · have hsame := h.eq_of_target hlink (mem_links_of_target? hstep) rfl
      obtain rfl : a = before := congrArg Link.source hsame
      have hinside : a ∈ g.slotChain owner slot := h.mem_slotChain_iff.2 ⟨head, hfirst, hbefore⟩
      rcases howner with rfl | howner
      · exact .inr (.held hinside)
      · exact .inr (.deeper howner hinside)

namespace Apart

variable (hapart : g.Apart part)

include hapart

/-- The links that go from deleted blocks are deleted with them. -/
theorem mem_links_delete :
    link ∈ (g.delete part).links ↔ link ∈ g.links ∧ link.source ∉ part := by
  rw [BlockGraph.mem_links_delete]
  constructor
  · exact fun ⟨hmem, hsource, _⟩ => ⟨hmem, hsource⟩
  · exact fun ⟨hmem, hsource⟩ => ⟨hmem, hsource, fun htarget => hsource ((hapart _ hmem).2 htarget)⟩

variable (h : g.Sound) (hroot : root ∉ part)

include h hroot

/-- What hangs from a block that is kept stays there. -/
theorem target?_delete (ha : a ∉ part) (outlet : Outlet) :
    (g.delete part).target? a outlet = g.target? a outlet := by
  apply Option.ext
  intro target
  rw [(h.delete hroot).target?_eq_some_iff, hapart.mem_links_delete, h.target?_eq_some_iff]
  exact and_iff_left ha

/-- A block that is kept stays where it hangs. -/
theorem parent_delete (hb : b ∉ part) : (g.delete part).parent b = g.parent b := by
  apply Option.ext
  rintro ⟨source, outlet⟩
  rw [(h.delete hroot).parent_eq_some_iff, hapart.mem_links_delete, h.parent_eq_some_iff]
  exact and_iff_left_of_imp fun hlink hsource => hb ((hapart _ hlink).1 hsource)

/-- From a block that is left, chains go on as they did. -/
theorem onward_delete (ha : a ∉ part) (outlet : Outlet) :
    (g.delete part).onward a outlet = g.onward a outlet := by
  have hkept : ∀ b ∈ g.onward a outlet, b ∉ part := by
    intro b hb
    have hpath := h.leads_of_mem_onward hb
    clear hb
    induction hpath with
    | single hstep =>
      rcases hstep with ⟨_, hlink⟩
      exact fun hin => ha ((hapart _ hlink).2 hin)
    | tail _ hstep ih =>
      rcases hstep with ⟨_, hlink⟩
      exact fun hin => ih ((hapart _ hlink).2 hin)
  have hbefore := traces_iff_stretch.1 (h.traces_onward a outlet)
  have hafter := (h.delete hroot).traces_onward a outlet
  rw [hapart.target?_delete h hroot ha] at hafter
  refine hafter.unique (traces_iff_stretch.2 (hbefore.congr fun b hb => ?_))
  exact hapart.target?_delete h hroot (hkept b hb) .next

/-- A chain that starts with a block that is kept is kept as a whole. -/
theorem chainFrom_delete (hhead : g.contains head = true) (hkept : head ∉ part) :
    (g.delete part).chainFrom head = g.chainFrom head := by
  have hthere : (g.delete part).contains head = true := by
    rcases contains_iff.1 hhead with ⟨block, hblock⟩
    exact contains_iff.2 ⟨block, by rw [get?_delete, if_neg hkept, hblock]⟩
  rw [(h.delete hroot).chainFrom_eq_cons hthere, hapart.onward_delete h hroot hkept,
    h.chainFrom_eq_cons hhead]

end Apart

/-! ## What goes with a block -/

/-- The blocks that go when a block is deleted. -/
def doomed (g : BlockGraph) (id : BlockId) : List BlockId :=
  (g.isolate id).withContents id

/-- They are listed by a loop that comes to an end. -/
theorem Sound.ends_doomed (h : g.Sound) (hid : g.contains id = true) :
    Search.Ends (Search.readNext (g.isolate id).slotContents) id (g.doomed id) :=
  (h.isolate id).ends_withContents (by rwa [contains_isolate]) (h.leftAlone_isolate id).parent_eq

/-- No block is doomed twice. -/
theorem Sound.nodup_doomed (h : g.Sound) (hid : g.contains id = true) : (g.doomed id).Nodup := by
  have hbranches := (h.isolate id).branches_slotContents (h.leftAlone_isolate id).parent_eq
  have hnodup := (hbranches.orderly_of_ends (h.ends_doomed hid)).nodup
  rwa [Search.found, List.append_nil] at hnodup

/-- They are the block and what it has inside. -/
theorem Sound.mem_doomed_iff (h : g.Sound) (hid : g.contains id = true) :
    b ∈ g.doomed id ↔ b = id ∨ g.Inside id b := by
  rw [doomed, (h.isolate id).mem_withContents_iff (by rwa [contains_isolate])
    (h.leftAlone_isolate id).parent_eq, h.inside_isolate_iff]

/-- The script block is never doomed. -/
theorem Sound.root_not_mem_doomed (h : g.Sound) (hne : id ≠ root) : root ∉ g.doomed id :=
  (h.isolate id).root_not_mem_withContents hne

/-- Each of them but the block itself comes after the one that leads to it. -/
theorem Sound.inTurn_doomed (h : g.Sound) (hid : g.contains id = true) :
    ∃ contents, g.doomed id = id :: contents ∧ InTurn g.Leads [id] contents := by
  rcases (h.ends_doomed hid).inTurn (h.isolate id).inTurn_slotContents with
    ⟨contents, hcons, hturn⟩
  refine ⟨contents, hcons, hturn.imp fun a ha b hleads => ?_⟩
  rw [List.singleton_append, ← hcons, h.mem_doomed_iff hid] at ha
  rcases hleads with ⟨outlet, hlink⟩
  rcases h.mem_links_isolate.1 hlink with ⟨hold, -, -⟩ | ⟨-, hplace⟩
  · exact ⟨outlet, hold⟩
  · -- the link over the gap does not leave what goes, or it would lead back to the block
    exact absurd (.single ⟨outlet, hplace⟩) (h.not_leads_of_inside ha)

/-- After the block is taken out, no link joins the doomed blocks to the others. -/
theorem Sound.apart_doomed (h : g.Sound) (hid : g.contains id = true) :
    (g.isolate id).Apart (g.doomed id) :=
  (h.isolate id).apart_withContents (by rwa [contains_isolate])
    (h.leftAlone_isolate id).parent_eq (h.leftAlone_isolate id).next_eq

/-- None of the blocks that follow goes. -/
theorem Sound.not_mem_doomed_of_follows (h : g.Sound) (hid : g.contains id = true)
    (hmem : b ∈ g.onward id .next) : b ∉ g.doomed id := by
  rw [h.mem_doomed_iff hid]
  rintro (rfl | hin)
  · exact h.not_mem_onward_self hmem
  · refine h.not_inside_of_follows hid ?_ hin
    rw [h.chainFrom_eq_cons hid]
    exact List.mem_cons_of_mem _ hmem

/-! ## What has come of a block deleted -/

/-- A block has been deleted with everything that it has inside. -/
structure Deleted (id : BlockId) (doomed : List BlockId) (g g' : BlockGraph) : Prop where
  /-- The block is listed first, and each further block after the one that leads to it. -/
  in_turn : ∃ contents, doomed = id :: contents ∧ InTurn g.Leads [id] contents
  /-- No block is listed twice. -/
  nodup : doomed.Nodup
  /-- What is listed is the block and all that it has inside. -/
  mem_iff : ∀ b, b ∈ doomed ↔ b = id ∨ g.Inside id b
  /-- What is listed is gone, and all other blocks are as they were. -/
  get?_eq : ∀ b, g'.get? b = if b ∈ doomed then none else g.get? b
  /-- The id for the next block is the same. -/
  nextId_eq : g'.nextId = g.nextId
  /-- No link is left at a block that is gone. -/
  links_kept : ∀ link ∈ g'.links, link.source ∉ doomed ∧ link.target ∉ doomed
  /-- The other blocks lead where they led, over the block that was deleted. -/
  target?_eq : ∀ a outlet, a ∉ doomed → g'.target? a outlet = g.skip id (g.target? a outlet)
  /-- The block that followed hangs where the block hung, the other blocks where they did. -/
  parent_eq : ∀ b, b ∉ doomed →
    g'.parent b = if g.next id = some b then g.parent id else g.parent b
  /-- The other slots hold what they held, without the block. -/
  slotChain_eq : ∀ owner slot, owner ∉ doomed →
    g'.slotChain owner slot = (g.slotChain owner slot).filter (· ≠ id)
  /-- From the other blocks every chain goes on without the block. -/
  stack_eq : ∀ head, g.contains head = true → head ∉ doomed →
    g'.chainFrom head = (g.chainFrom head).filter (· ≠ id)
  /-- None of the blocks that followed is gone, and they follow each other as they did. -/
  following_kept : ∀ after, g.next id = some after →
    g'.chainFrom after = g.chainFrom after ∧ ∀ b ∈ g.chainFrom after, b ∉ doomed

/-- A block is isolated and then deleted with what it has inside. -/
theorem Sound.deleted (h : g.Sound) (hid : g.contains id = true) (hne : id ≠ root) :
    Deleted id (g.doomed id) g ((g.isolate id).delete (g.doomed id)) := by
  have hsound := h.isolate id
  have halone := h.leftAlone_isolate id
  have hroot := h.root_not_mem_doomed hne
  have hapart := h.apart_doomed hid
  have hne_of_kept : ∀ {b}, b ∉ g.doomed id → b ≠ id := fun hkept hsame =>
    hkept ((h.mem_doomed_iff hid).2 (.inl hsame))
  have hstack : ∀ head, g.contains head = true → head ∉ g.doomed id →
      ((g.isolate id).delete (g.doomed id)).chainFrom head =
        (g.chainFrom head).filter (· ≠ id) := by
    intro head hhead hkept
    rw [hapart.chainFrom_delete hsound hroot (by rwa [contains_isolate]) hkept]
    exact halone.stack_eq head (hne_of_kept hkept) hhead
  constructor
  case in_turn => exact h.inTurn_doomed hid
  case nodup => exact h.nodup_doomed hid
  case mem_iff => exact fun _ => h.mem_doomed_iff hid
  case get?_eq =>
    intro b
    rw [get?_delete, get?, get?, halone.blocks_eq]
  case nextId_eq => exact halone.nextId_eq
  case links_kept => exact fun link hlink => (mem_links_delete.1 hlink).2
  case target?_eq =>
    intro a outlet ha
    rw [hapart.target?_delete hsound hroot ha]
    exact h.target?_isolate fun hboth => hne_of_kept ha hboth.1
  case parent_eq =>
    intro b hb
    rw [hapart.parent_delete hsound hroot hb]
    exact h.parent_isolate (hne_of_kept hb)
  case slotChain_eq =>
    intro owner slot howner
    exact (hapart.onward_delete hsound hroot howner (.slot slot)).trans
      (halone.slotChain_eq owner slot)
  case stack_eq => exact hstack
  case following_kept =>
    intro after hafter
    have honward : g.onward id .next = g.chainFrom after := by rw [onward, ← next, hafter, chain]
    rw [← honward]
    have hthere := (h.ends_present _ (mem_links_of_target? hafter)).2
    have hfollows := h.mem_onward_of_link (mem_links_of_target? hafter)
    refine ⟨?_, fun b hb => h.not_mem_doomed_of_follows hid hb⟩
    rw [hstack after hthere (h.not_mem_doomed_of_follows hid hfollows), ← honward,
      filter_ne_eq_self h.not_mem_onward_self]

/-- No id of those that are gone is handed out later. -/
theorem Deleted.nextId_not_mem {gone : List BlockId} (hdeleted : Deleted id gone g g')
    (h : g.Sound) (h' : g'.Sound) (hid : g.contains id = true) (later : List GraphCall) :
    (later.foldl GraphCall.after g').nextId ∉ gone := by
  intro hmem
  generalize hnew : (later.foldl GraphCall.after g').nextId = new at hmem
  have hold : g.contains new = true := by
    rcases (hdeleted.mem_iff new).1 hmem with rfl | hin
    · exact hid
    · exact (h.present_of_leads (h.leads_of_inside hin)).1
  have hbefore := h.handed_out new hold
  have hafter := h'.nextId_le_foldl_after later
  rw [hdeleted.nextId_eq, hnew] at hafter
  exact Nat.lt_irrefl new (Nat.lt_of_lt_of_le hbefore hafter)

end BlockGraph

/-! ## After any calls -/

/-- Whatever calls came before, a block other than the script can be deleted.  It goes with exactly
what it has inside, listed by a loop that comes to an end; the blocks around it close up, and no
block that is inserted later has an id of those that are gone. -/
theorem remove_deletes (calls : List GraphCall) (id : BlockId)
    (hid : (afterCalls calls).contains id = true) (hne : id ≠ root) :
    ∃ doomed g', (afterCalls calls).remove id = .ok (doomed, g') ∧
      Deleted id doomed (afterCalls calls) g' ∧
      Search.Ends (Search.readNext ((afterCalls calls).isolate id).slotContents) id doomed ∧
      ∀ (later : List GraphCall) kind slots fields,
        ((later.foldl GraphCall.after g').insert kind slots fields).1 ∉ doomed := by
  have hsound : (afterCalls calls).Sound := BlockGraph.sound_new.foldl_after calls
  have hdeleted := hsound.deleted hid hne
  have hremove := remove_eq_ok_iff.2 ⟨hne, hid, rfl, rfl⟩
  exact ⟨_, _, hremove, hdeleted, hsound.ends_doomed hid,
    fun later _ _ _ => hdeleted.nextId_not_mem hsound (hsound.remove hremove) hid later⟩

/-- Two commands of the script; the first has two options, and the first of these one of its own. -/
def nestedOptions : List GraphCall :=
  [.insert (.command "ls") [⟨optionsSlot, .option "ls"⟩] [],
    .insert (.option "ls") [⟨optionsSlot, .option "ls"⟩] [], .insert (.option "ls") [] [],
    .insert (.option "ls") [] [], .insert (.command "ls") [] [], .attach root stackSlot 1,
    .attach 1 optionsSlot 2, .attach 2 optionsSlot 3, .insertAfter 2 4, .insertAfter 1 5]

/-- The first command goes with its three options, and the second takes its place. -/
theorem nestedOptions_deleted :
    (afterCalls nestedOptions).contains 1 = true ∧ (1 : BlockId) ≠ root ∧
      ∃ g', (afterCalls nestedOptions).remove 1 = .ok ([1, 2, 4, 3], g') ∧
        Deleted 1 [1, 2, 4, 3] (afterCalls nestedOptions) g' ∧
        g'.slotChain root stackSlot = [5] := by
  have hid : (afterCalls nestedOptions).contains 1 = true := by decide +kernel
  have hrun : ((afterCalls nestedOptions).remove 1).map (fun done =>
      (done.1, done.2.slotChain root stackSlot)) = .ok ([1, 2, 4, 3], [5]) := by decide +kernel
  rcases remove_deletes nestedOptions 1 hid (by decide) with ⟨doomed, g', hremove, hdeleted, -, -⟩
  rcases Fault.map_eq_ok_iff.1 hrun with ⟨⟨doomed', g''⟩, hremove', hlists⟩
  obtain ⟨rfl, rfl⟩ := Prod.mk.inj (Except.ok.inj (hremove.symm.trans hremove'))
  obtain ⟨rfl, hchain⟩ := Prod.mk.inj hlists
  exact ⟨hid, by decide, g', hremove, hdeleted, hchain⟩

end ShellComposer
