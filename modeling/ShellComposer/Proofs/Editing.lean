import ShellComposer.Block.Edit
import ShellComposer.Proofs.Paths

/-!
# Edits keep a graph well-linked

Every edit takes some links away and puts others in their place.  Taking links away does no harm.  A
link does no harm either when it fits, when nothing is at its two ends yet, and when what it enters
does not lead back to where it leaves.

Main results:

- Theorem `Sound.addLink`: one more link.
- Theorems `Sound.plug` and `Sound.unplug`: a stack of blocks put in, a single block taken out.
- Theorems `Sound.insert`, `setField`, `attach`, `insertAfter`, `detach`, `remove`, `refresh`: every
  edit that succeeds leaves a sound graph.
-/

namespace ShellComposer

/-- A block has a field when an entry has its name. -/
theorem Block.isSome_field?_iff {block : Block} {name : String} :
    (block.field? name).isSome = true ↔ ∃ entry ∈ block.fields, entry.1 = name := by
  rw [Block.field?, List.lookup_isSome_iff]
  exact exists_congr fun entry => and_congr_right fun _ => beq_iff_eq.trans eq_comm

/-- Setting a field takes no field away. -/
theorem Block.isSome_field?_setField {block : Block} {name key : String} (value : String)
    (h : (block.field? key).isSome = true) :
    ((block.setField name value).field? key).isSome = true := by
  rw [Block.isSome_field?_iff] at h ⊢
  rcases h with ⟨entry, hmem, rfl⟩
  by_cases hsame : entry.1 = name
  · exact ⟨(name, value), List.mem_cons_self, hsame.symm⟩
  · refine ⟨entry, List.mem_cons_of_mem _ (List.mem_filter.2 ⟨hmem, ?_⟩), rfl⟩
    exact bne_iff_ne.2 hsame

namespace BlockGraph

open Relation

variable {g g' : BlockGraph} {a b id source target child displaced previous owner : BlockId}
variable {outlet : Outlet} {link : Link} {slot : String}

/-! ## Links after an edit -/

/-- A new link leaves the blocks as they are. -/
@[simp] theorem get?_addLink (g : BlockGraph) (link : Link) (id : BlockId) :
    (g.addLink link).get? id = g.get? id :=
  rfl

/-- The links are the new one and those from before. -/
theorem mem_links_addLink : link ∈ (g.addLink ⟨source, outlet, target⟩).links ↔
    link = ⟨source, outlet, target⟩ ∨ link ∈ g.links :=
  List.mem_cons

/-- The links that are left lead to other blocks. -/
theorem mem_links_dropIncoming :
    link ∈ (g.dropIncoming id).links ↔ link ∈ g.links ∧ link.target ≠ id := by
  simp [dropIncoming]

/-- The links that are left start from another block or another outlet. -/
theorem mem_links_dropOutlet : link ∈ (g.dropOutlet id outlet).links ↔
    link ∈ g.links ∧ ¬(link.source = id ∧ link.outlet = outlet) := by
  rw [dropOutlet, List.mem_filter, Bool.not_eq_true', ← Bool.not_eq_true, Bool.and_eq_true,
    beq_iff_eq, beq_iff_eq]

/-- With one more link a block leads to what it led to, or it is the one that the link leaves. -/
theorem leads_addLink_iff : (g.addLink ⟨source, outlet, target⟩).Leads a b ↔
    g.Leads a b ∨ (a = source ∧ b = target) := by
  simp only [Leads, mem_links_addLink, Link.mk.injEq]
  constructor
  · rintro ⟨from', ⟨rfl, rfl, rfl⟩ | hmem⟩
    · exact .inr ⟨rfl, rfl⟩
    · exact .inl ⟨from', hmem⟩
  · rintro (⟨from', hmem⟩ | ⟨rfl, rfl⟩)
    · exact ⟨from', .inr hmem⟩
    · exact ⟨outlet, .inl ⟨rfl, rfl, rfl⟩⟩

/-! ## One more link -/

/-- What leads to the start of a link leads there without the link. -/
theorem reaches_source_of_addLink
    (hpath : ReflTransGen (g.addLink ⟨source, outlet, target⟩).Leads a source) :
    ReflTransGen g.Leads a source := by
  induction hpath using ReflTransGen.head_induction_on with
  | refl => exact .refl
  | head hstep _ ih =>
    rcases leads_addLink_iff.1 hstep with hold | ⟨rfl, _⟩
    · exact .head hold ih
    · exact .refl

/-- A path in the graph with one more link avoids the link, or leads to its start and on from its
end. -/
theorem reaches_of_addLink
    (hpath : ReflTransGen (g.addLink ⟨source, outlet, target⟩).Leads a b) :
    ReflTransGen g.Leads a b ∨
      ReflTransGen g.Leads a source ∧ ReflTransGen g.Leads target b := by
  induction hpath with
  | refl => exact .inl .refl
  | tail hbefore hstep ih =>
    rcases leads_addLink_iff.1 hstep with hold | ⟨rfl, rfl⟩
    · exact ih.imp (.tail · hold) fun ⟨hstart, hend⟩ => ⟨hstart, .tail hend hold⟩
    · exact .inr ⟨reaches_source_of_addLink hbefore, .refl⟩

/-- A link closes no circle when its end does not lead back to its start. -/
theorem acyclic_addLink (hacyclic : ∀ id, ¬ TransGen g.Leads id id)
    (hback : ¬ ReflTransGen g.Leads target source) (id : BlockId) :
    ¬ TransGen (g.addLink ⟨source, outlet, target⟩).Leads id id := by
  intro hcycle
  rcases TransGen.tail'_iff.1 hcycle with ⟨last, hpath, hstep⟩
  rcases leads_addLink_iff.1 hstep with hold | ⟨rfl, rfl⟩
  · rcases reaches_of_addLink hpath with hclean | ⟨hstart, hend⟩
    · exact hacyclic id (.tail' hclean hold)
    · exact hback ((hend.tail hold).trans hstart)
  · exact hback (reaches_source_of_addLink hpath)

/-- A sound graph stays sound with one more link that fits, from an outlet that no link leaves to a
block that no link enters and that does not lead back. -/
theorem Sound.addLink (h : g.Sound) (hfits : g.Fits ⟨source, outlet, target⟩)
    (hfree : g.target? source outlet = none) (hloose : g.parent target = none)
    (htarget : target ≠ root) (hback : ¬ ReflTransGen g.Leads target source) :
    (g.addLink ⟨source, outlet, target⟩).Sound where
  root_present := h.root_present
  root_unheld := by
    intro link hlink
    rcases mem_links_addLink.1 hlink with rfl | hold
    · exact htarget
    · exact h.root_unheld link hold
  one_incoming := by
    refine List.nodup_cons.2 ⟨fun hmem => ?_, h.one_incoming⟩
    rcases List.mem_map.1 hmem with ⟨link, hlink, hsame⟩
    exact parent_eq_none_iff.1 hloose link hlink hsame
  one_outgoing := by
    refine List.nodup_cons.2 ⟨fun hmem => ?_, h.one_outgoing⟩
    rcases List.mem_map.1 hmem with ⟨⟨source', outlet', target'⟩, hlink, hsame⟩
    rcases Prod.mk.inj hsame with ⟨rfl, rfl⟩
    exact target?_eq_none_iff.1 hfree target' hlink
  ends_present := by
    intro link hlink
    rcases mem_links_addLink.1 hlink with rfl | hold
    · exact present_of_fits hfits
    · exact h.ends_present link hold
  acyclic := acyclic_addLink h.acyclic hback
  fits := by
    intro link hlink
    rcases mem_links_addLink.1 hlink with rfl | hold
    · exact hfits
    · exact h.fits link hold
  handed_out := h.handed_out

/-! ## Links taken away -/

/-- A graph stays sound when a block is let go. -/
theorem Sound.dropIncoming (h : g.Sound) (id : BlockId) : (g.dropIncoming id).Sound :=
  h.withLinks List.filter_sublist

/-- A graph stays sound when what hangs from an outlet is let go. -/
theorem Sound.dropOutlet (h : g.Sound) (id : BlockId) (outlet : Outlet) :
    (g.dropOutlet id outlet).Sound :=
  h.withLinks List.filter_sublist

/-- Letting go of a block adds no way from one block to another. -/
theorem leads_dropIncoming : (g.dropIncoming id).Leads ≤ g.Leads :=
  leads_of_subset List.filter_sublist.subset

/-- Letting go of what hangs from an outlet adds none either. -/
theorem leads_dropOutlet : (g.dropOutlet id outlet).Leads ≤ g.Leads :=
  leads_of_subset List.filter_sublist.subset

/-- Without the link that enters a block the block hangs nowhere. -/
theorem parent_dropIncoming_self : (g.dropIncoming id).parent id = none :=
  parent_eq_none_iff.2 fun _ hlink => (mem_links_dropIncoming.1 hlink).2

/-- A block that hangs nowhere has no link to take away. -/
theorem dropIncoming_eq_self (hloose : g.parent id = none) : g.dropIncoming id = g := by
  have hlinks : (g.links.filter fun link => link.target != id) = g.links := by
    rw [List.filter_eq_self]
    intro link hlink
    exact bne_iff_ne.2 (parent_eq_none_iff.1 hloose link hlink)
  rw [dropIncoming, hlinks]

/-- Without the link that leaves an outlet nothing is there. -/
theorem target?_dropOutlet_self : (g.dropOutlet id outlet).target? id outlet = none :=
  target?_eq_none_iff.2 fun _ hlink => (mem_links_dropOutlet.1 hlink).2 ⟨rfl, rfl⟩

/-- A block that hangs nowhere still does with fewer links. -/
theorem parent_eq_none_of_subset (hlinks : g'.links ⊆ g.links) (hloose : g.parent id = none) :
    g'.parent id = none :=
  parent_eq_none_iff.2 fun link hlink => parent_eq_none_iff.1 hloose link (hlinks hlink)

/-! ## A stack put in -/

/-- Putting a stack somewhere changes links only. -/
theorem blocks_plug (g : BlockGraph) (id : BlockId) (outlet : Outlet) (child : BlockId) :
    (g.plug id outlet child).blocks = g.blocks := by
  rw [plug]
  cases g.target? id outlet <;> rfl

/-- Putting a stack somewhere hands out no id. -/
@[simp] theorem nextId_plug (g : BlockGraph) (id : BlockId) (outlet : Outlet) (child : BlockId) :
    (g.plug id outlet child).nextId = g.nextId := by
  rw [plug]
  cases g.target? id outlet <;> rfl

/-- What was at an outlet still hangs nowhere once another block is there. -/
theorem parent_displaced (h : g.Sound) (hread : g.target? id outlet = some displaced)
    (hne : child ≠ displaced) :
    ((g.dropOutlet id outlet).addLink ⟨id, outlet, child⟩).parent displaced = none := by
  refine parent_eq_none_iff.2 fun link hlink => ?_
  rcases mem_links_addLink.1 hlink with rfl | hold
  · exact hne
  · rcases mem_links_dropOutlet.1 hold with ⟨hmem, hother⟩
    intro hsame
    obtain rfl := h.eq_of_target hmem (mem_links_of_target? hread) hsame
    exact hother ⟨rfl, rfl⟩

/-- What was at an outlet does not lead into the stack that is put there. -/
theorem not_reaches_of_displaced (h : g.Sound)
    (hplaced : ((g.dropOutlet id outlet).addLink ⟨id, outlet, child⟩).Sound)
    (hread : g.target? id outlet = some displaced) (hne : child ≠ displaced)
    (hchild : ReflTransGen ((g.dropOutlet id outlet).addLink ⟨id, outlet, child⟩).Leads child a) :
    ¬ ReflTransGen ((g.dropOutlet id outlet).addLink ⟨id, outlet, child⟩).Leads displaced a := by
  intro hpath
  rcases hplaced.leads_total hpath hchild with hup | hdown
  · -- the only way to the child is through the outlet, and back there would close a circle
    rcases hup.cases_tail with heq | ⟨last, hbefore, hstep⟩
    · exact hne heq
    · obtain rfl : last = id := hplaced.leads_unique hstep ⟨outlet, List.mem_cons_self⟩
      have hback := ReflTransGen.mono leads_dropOutlet _ _ (reaches_source_of_addLink hbefore)
      exact h.acyclic _ (.head' ⟨outlet, mem_links_of_target? hread⟩ hback)
  · rcases hdown.cases_tail with heq | ⟨last, _, hstep⟩
    · exact hne heq.symm
    · rcases hstep with ⟨from', hmem⟩
      exact parent_eq_none_iff.1 (parent_displaced h hread hne) _ hmem rfl

/-- A graph stays sound when a stack of blocks that hangs nowhere is put where it fits. -/
theorem Sound.plug (h : g.Sound) (hfits : g.Fits ⟨id, outlet, child⟩)
    (hloose : g.parent child = none) (hchild : child ≠ root)
    (hback : ¬ ReflTransGen g.Leads child id) : (g.plug id outlet child).Sound := by
  have hplaced : ((g.dropOutlet id outlet).addLink ⟨id, outlet, child⟩).Sound := by
    refine (h.dropOutlet id outlet).addLink hfits target?_dropOutlet_self
      (parent_eq_none_of_subset List.filter_sublist.subset hloose) hchild ?_
    exact fun hpath => hback (ReflTransGen.mono leads_dropOutlet _ _ hpath)
  rw [BlockGraph.plug]
  cases hread : g.target? id outlet with
  | none => exact hplaced
  | some displaced =>
    have hold := mem_links_of_target? hread
    have hne : child ≠ displaced := by
      rintro rfl
      exact parent_eq_none_iff.1 hloose _ hold rfl
    rcases hplaced.stackTail_spec (present_of_fits hfits).2 with ⟨hend, htail⟩
    refine hplaced.addLink ?_ hend (parent_displaced h hread hne) (h.root_unheld _ hold) ?_
    · rcases hfits with ⟨tag, hasked, hshown⟩
      rcases h.fits _ hold with ⟨tag', hasked', hshown'⟩
      obtain rfl : tag = tag' := Option.some.inj (hasked.symm.trans hasked')
      exact ⟨tag, (hplaced.tagShown_of_follows htail).trans hshown, hshown'⟩
    · exact not_reaches_of_displaced h hplaced hread hne (leads_of_follows htail)

/-! ## A single block taken out -/

/-- Taking blocks out changes links only. -/
theorem unplug_eq (g : BlockGraph) (id : BlockId) :
    ∃ links, g.unplug id = { g with links } := by
  rw [unplug]
  cases g.parent id with
  | none => exact ⟨g.links, rfl⟩
  | some place =>
    cases hnext : (g.dropIncoming id).next id with
    | none => simp only [hnext]; exact ⟨_, rfl⟩
    | some after => simp only [hnext]; exact ⟨_, rfl⟩

/-- Taking out a block changes links only. -/
theorem blocks_unplug (g : BlockGraph) (id : BlockId) : (g.unplug id).blocks = g.blocks := by
  rcases g.unplug_eq id with ⟨links, hlinks⟩
  rw [hlinks]

/-- Taking blocks out hands out no id. -/
@[simp] theorem nextId_unplug (g : BlockGraph) (id : BlockId) :
    (g.unplug id).nextId = g.nextId := by
  rcases g.unplug_eq id with ⟨links, hlinks⟩
  rw [hlinks]

/-- A block taken out leaves its place to the block that follows, if there is one. -/
theorem Sound.unplug (h : g.Sound) (id : BlockId) : (g.unplug id).Sound := by
  rw [BlockGraph.unplug]
  cases hparent : g.parent id with
  | none => exact h
  | some place =>
    rcases place with ⟨source, outlet⟩
    have hheld := mem_links_of_parent hparent
    cases hnext : (g.dropIncoming id).next id with
    | none => simpa only [hnext] using h.dropIncoming id
    | some after =>
      simp only [hnext]
      rcases mem_links_dropIncoming.1 (mem_links_of_target? hnext) with ⟨hfollows, hne⟩
      have hloose := (h.dropIncoming id).dropOutlet id .next
      refine hloose.addLink ?_ ?_ ?_ (h.root_unheld _ hfollows) ?_
      · rcases h.fits _ hheld with ⟨tag, hasked, hshown⟩
        rcases h.fits _ hfollows with ⟨tag', hasked', hshown'⟩
        obtain rfl : tag = tag' := Option.some.inj (hshown.symm.trans hasked')
        exact ⟨tag, hasked, hshown'⟩
      · -- The one link from the place was the link to the block taken out
        refine target?_eq_none_iff.2 fun target hmem => ?_
        rcases mem_links_dropIncoming.1 (mem_links_dropOutlet.1 hmem).1 with ⟨hmem, hother⟩
        have hsame := h.eq_of_outlet hmem hheld rfl rfl
        exact hother (congrArg Link.target hsame)
      · refine parent_eq_none_iff.2 fun link hlink hsame => ?_
        rcases mem_links_dropOutlet.1 hlink with ⟨hmem, hother⟩
        obtain rfl := h.eq_of_target (mem_links_dropIncoming.1 hmem).1 hfollows hsame
        exact hother ⟨rfl, rfl⟩
      · intro hpath
        have hbefore := ReflTransGen.mono leads_dropOutlet _ _ hpath
        have hback := ReflTransGen.mono leads_dropIncoming _ _ hbefore
        exact h.acyclic id (.head ⟨_, hfollows⟩ (.tail' hback ⟨_, hheld⟩))

/-! ## Edits of blocks -/

/-- Links between blocks that keep their shape stay sound when blocks are written. -/
theorem Sound.write (h : g.Sound) (hlinks : g'.links = g.links)
    (hkept : ∀ id, g.contains id = true → g'.shape? id = g.shape? id)
    (hnext : ∀ id, g'.contains id = true → id < g'.nextId) : g'.Sound := by
  refine h.transfer (hlinks ▸ List.Sublist.refl _) ?_ (fun link hlink => ?_) hnext
  · rw [contains_congr (hkept root h.root_present), h.root_present]
  · rw [hlinks] at hlink
    rcases h.ends_present link hlink with ⟨hsource, htarget⟩
    exact ⟨hkept _ hsource, hkept _ htarget⟩

/-- A new block has an id that no block had. -/
theorem Sound.not_contains_nextId (h : g.Sound) : g.contains g.nextId = false := by
  rw [← Bool.not_eq_true]
  exact fun hid => Nat.lt_irrefl _ (h.handed_out _ hid)

/-- An inserted block has the next id and is disabled; the others are as before. -/
theorem get?_insert (g : BlockGraph) (kind : BlockKind) (slots : List Slot)
    (fields : List (String × String)) (id : BlockId) :
    (g.insert kind slots fields).2.get? id =
      if id = g.nextId then some ⟨kind, fields, slots, false⟩ else g.get? id := by
  split
  · rename_i hnew
    subst hnew
    exact g.blocks.get?_insert_self _ _
  · rename_i hold
    exact g.blocks.get?_insert_ne hold _

/-- A graph stays sound when a block is inserted. -/
theorem Sound.insert (h : g.Sound) (kind : BlockKind) (slots : List Slot)
    (fields : List (String × String)) : (g.insert kind slots fields).2.Sound := by
  refine h.write rfl (fun id hid => ?_) (fun id hid => ?_)
  · have hold : id ≠ g.nextId := Nat.ne_of_lt (h.handed_out id hid)
    rw [shape?, shape?, get?_insert, if_neg hold]
  · rcases contains_iff.1 hid with ⟨block, hblock⟩
    rw [get?_insert] at hblock
    have hnext : (g.insert kind slots fields).2.nextId = g.nextId + 1 := rfl
    rw [hnext]
    split at hblock
    · rename_i hnew
      exact hnew ▸ Nat.lt_succ_self _
    · exact Nat.lt_succ_of_lt (h.handed_out id (contains_iff.2 ⟨block, hblock⟩))

/-- What setting a field changes: that field of a block that is there. -/
theorem setField_eq_ok {name value : String} (hset : g.setField id name value = .ok g') :
    ∃ block, g.get? id = some block ∧
      g' = { g with blocks := g.blocks.insert id (block.setField name value) } := by
  rw [BlockGraph.setField, BlockGraph.block] at hset
  cases hblock : g.get? id with
  | none => simp [hblock, bind, Except.bind] at hset
  | some block =>
    simp only [hblock, bind, Except.bind, pure, Except.pure, Except.ok.injEq] at hset
    exact ⟨block, rfl, hset.symm⟩

/-- Setting a field changes no kind and no slots. -/
theorem shape?_setField {name value : String} (hset : g.setField id name value = .ok g')
    (other : BlockId) : g'.shape? other = g.shape? other := by
  rcases setField_eq_ok hset with ⟨block, hblock, rfl⟩
  by_cases hsame : other = id
  · subst hsame
    rw [shape?, shape?, hblock, get?, IdMap.get?_insert_self]
    rfl
  · rw [shape?, shape?, get?, IdMap.get?_insert_ne _ hsame, get?]

/-- A graph stays sound when a field is set. -/
theorem Sound.setField {name value : String} (h : g.Sound)
    (hset : g.setField id name value = .ok g') : g'.Sound := by
  rcases setField_eq_ok hset with ⟨block, hblock, hg'⟩
  refine h.write (by rw [hg']) (fun other _ => shape?_setField hset other) (fun other hother => ?_)
  rw [contains_congr (shape?_setField hset other)] at hother
  rw [hg']
  exact h.handed_out other hother

/-- Enabling and disabling changes no kind and no slots. -/
theorem shape?_refresh (g : BlockGraph) (id : BlockId) : g.refresh.2.shape? id = g.shape? id := by
  rw [shape?, shape?, get?, refresh, IdMap.get?_mapValues, Option.map_map]
  rfl

/-- Blocks keep their kinds and slots, and lose none of their fields. -/
structure Retains (g g' : BlockGraph) : Prop where
  shape_eq : ∀ id, g'.shape? id = g.shape? id
  field_kept : ∀ id name, (g.field? id name).isSome = true → (g'.field? id name).isSome = true

theorem Retains.refl (g : BlockGraph) : Retains g g :=
  ⟨fun _ => rfl, fun _ _ hfield => hfield⟩

/-- What is retained twice in a row is retained. -/
theorem Retains.trans {g'' : BlockGraph} (h : Retains g g') (h' : Retains g' g'') :
    Retains g g'' :=
  ⟨fun id => (h'.shape_eq id).trans (h.shape_eq id),
    fun id name hfield => h'.field_kept id name (h.field_kept id name hfield)⟩

/-- Edits of links alone keep blocks as they are. -/
theorem retains_of_blocks (hblocks : g'.blocks = g.blocks) : Retains g g' := by
  refine ⟨fun id => ?_, fun id name hfield => ?_⟩
  · rw [shape?, shape?, get?, get?, hblocks]
  · rwa [field?, get?, hblocks]

/-- Setting a field retains the blocks. -/
theorem retains_setField {name value : String} (hset : g.setField id name value = .ok g') :
    Retains g g' := by
  refine ⟨shape?_setField hset, fun other key hfield => ?_⟩
  rcases setField_eq_ok hset with ⟨block, hblock, rfl⟩
  by_cases hsame : other = id
  · subst hsame
    rw [field?, hblock, Option.bind_some] at hfield
    rw [field?, get?, IdMap.get?_insert_self, Option.bind_some]
    exact Block.isSome_field?_setField value hfield
  · rwa [field?, get?, IdMap.get?_insert_ne _ hsame]

/-- Enabling and disabling retains the blocks. -/
theorem retains_refresh (g : BlockGraph) : Retains g g.refresh.2 := by
  refine ⟨shape?_refresh g, fun id name hfield => ?_⟩
  rw [field?, get?, refresh, IdMap.get?_mapValues, Option.bind_map]
  exact hfield

/-- A graph stays sound when blocks are enabled and disabled. -/
theorem Sound.refresh (h : g.Sound) : g.refresh.2.Sound := by
  refine h.write rfl (fun id _ => shape?_refresh g id) (fun id hid => ?_)
  rw [contains_congr (shape?_refresh g id)] at hid
  exact h.handed_out id hid

/-! ## Conditions -/

/-- Any block of the graph may be moved but the script block. -/
theorem ensureMovable_eq_ok_iff {done : Unit} :
    g.ensureMovable id = .ok done ↔ id ≠ root ∧ g.contains id = true := by
  rw [ensureMovable]
  split
  · simp_all
  · split <;> simp_all

/-- Looking up a block succeeds when it is there. -/
theorem block_eq_ok_iff {block : Block} : g.block id = .ok block ↔ g.get? id = some block := by
  rw [BlockGraph.block]
  split <;> simp_all

/-- A block fits when it shows the tag that is asked for. -/
theorem ensureFits_eq_ok_iff {tag : Tag} {done : Unit} :
    g.ensureFits tag child = .ok done ↔ g.tagShown child = some tag := by
  rw [ensureFits, Fault.bind_eq_ok_iff]
  simp only [block_eq_ok_iff]
  cases hblock : g.get? child with
  | none => simp [tagShown, hblock]
  | some block =>
    rw [tagShown_eq hblock]
    by_cases htag : block.kind.tag? = some tag
    · simp [htag, pure, Except.pure]
    · simp [htag, throw, throwThe, MonadExceptOf.throw]

/-- A place is outside a block when the block is not above it. -/
theorem ensureOutside_eq_ok_iff {place : BlockId} {done : Unit} :
    g.ensureOutside child place = .ok done ↔ g.isAncestor child place = false := by
  rw [ensureOutside]
  split <;> simp_all

/-! ## Edits of links -/

/-- When a block goes into a slot, and what becomes of the graph. -/
theorem attach_eq_ok_iff : g.attach owner slot child = .ok g' ↔
    child ≠ root ∧ g.contains child = true ∧ g.Fits ⟨owner, .slot slot, child⟩ ∧
      g.isAncestor child owner = false ∧ (g.cut child).plug owner (.slot slot) child = g' := by
  simp only [attach, Fault.bind_eq_ok_iff, ensureMovable_eq_ok_iff, block_eq_ok_iff, Fits]
  cases howner : g.get? owner with
  | none => simp [tagAsked, howner]
  | some block =>
    simp only [Option.some.injEq, exists_eq_left', tagAsked_slot_eq howner]
    cases hslot : block.slot? slot with
    | none => simp [throw, throwThe, MonadExceptOf.throw]
    | some place =>
      simp only [Fault.bind_eq_ok_iff, ensureFits_eq_ok_iff, ensureOutside_eq_ok_iff,
        Option.map_some, Option.some.injEq, exists_eq_left', pure, Except.pure, Except.ok.injEq]
      constructor
      · rintro ⟨_, ⟨hne, hchild⟩, _, hshown, _, houtside, rfl⟩
        exact ⟨hne, hchild, hshown, houtside, rfl⟩
      · rintro ⟨hne, hchild, hshown, houtside, rfl⟩
        exact ⟨(), ⟨hne, hchild⟩, (), hshown, (), houtside, rfl⟩

/-- When a block goes behind another one, and what becomes of the graph. -/
theorem insertAfter_eq_ok_iff : g.insertAfter previous child = .ok g' ↔
    child ≠ root ∧ g.contains child = true ∧ g.Fits ⟨previous, .next, child⟩ ∧
      g.isAncestor child previous = false ∧ (g.cut child).plug previous .next child = g' := by
  simp only [insertAfter, Fault.bind_eq_ok_iff, ensureMovable_eq_ok_iff, block_eq_ok_iff, Fits]
  cases hprevious : g.get? previous with
  | none => simp [tagAsked, tagShown, hprevious]
  | some block =>
    simp only [Option.some.injEq, exists_eq_left', tagAsked, tagShown_eq hprevious]
    cases htag : block.kind.tag? with
    | none => simp [throw, throwThe, MonadExceptOf.throw]
    | some tag =>
      simp only [Fault.bind_eq_ok_iff, ensureFits_eq_ok_iff, ensureOutside_eq_ok_iff,
        Option.some.injEq, exists_eq_left', pure, Except.pure, Except.ok.injEq]
      constructor
      · rintro ⟨_, ⟨hne, hchild⟩, _, hshown, _, houtside, rfl⟩
        exact ⟨hne, hchild, hshown, houtside, rfl⟩
      · rintro ⟨hne, hchild, hshown, houtside, rfl⟩
        exact ⟨(), ⟨hne, hchild⟩, (), hshown, (), houtside, rfl⟩

/-- Detaching succeeds for every block but the script block, with healing or without. -/
theorem detach_eq_ok_iff {heal : Bool} : g.detach id heal = .ok g' ↔
    id ≠ root ∧ g.contains id = true ∧ (if heal then g.unplug id else g.cut id) = g' := by
  simp only [detach, Fault.bind_eq_ok_iff, ensureMovable_eq_ok_iff, pure, Except.pure,
    Except.ok.injEq]
  constructor
  · rintro ⟨_, ⟨hne, hid⟩, rfl⟩
    exact ⟨hne, hid, rfl⟩
  · rintro ⟨hne, hid, rfl⟩
    exact ⟨(), ⟨hne, hid⟩, rfl⟩

/-- A graph stays sound when a block, with those that follow it, moves to where it fits. -/
theorem Sound.move (h : g.Sound) (hne : child ≠ root) (hfits : g.Fits ⟨id, outlet, child⟩)
    (houtside : g.isAncestor child id = false) : ((g.cut child).plug id outlet child).Sound := by
  refine (h.dropIncoming child).plug hfits parent_dropIncoming_self hne fun hpath => ?_
  have hback := ReflTransGen.mono leads_dropIncoming _ _ hpath
  rw [← h.isAncestor_iff (present_of_fits hfits).1, houtside] at hback
  exact Bool.false_ne_true hback

/-- Edits of links leave the blocks as they are. -/
theorem blocks_attach (hattach : g.attach owner slot child = .ok g') : g'.blocks = g.blocks := by
  rcases attach_eq_ok_iff.1 hattach with ⟨-, -, -, -, rfl⟩
  exact blocks_plug _ _ _ _

/-- Inserting a block behind another one changes links only. -/
theorem blocks_insertAfter (hinsert : g.insertAfter previous child = .ok g') :
    g'.blocks = g.blocks := by
  rcases insertAfter_eq_ok_iff.1 hinsert with ⟨-, -, -, -, rfl⟩
  exact blocks_plug _ _ _ _

/-- Detaching a block changes links only. -/
theorem blocks_detach {heal : Bool} (hdetach : g.detach id heal = .ok g') :
    g'.blocks = g.blocks := by
  rcases detach_eq_ok_iff.1 hdetach with ⟨-, -, rfl⟩
  split
  · exact g.blocks_unplug id
  · rfl

/-- A graph stays sound when a block is attached to a slot. -/
theorem Sound.attach (h : g.Sound) (hattach : g.attach owner slot child = .ok g') :
    g'.Sound := by
  rcases attach_eq_ok_iff.1 hattach with ⟨hne, -, hfits, houtside, rfl⟩
  exact h.move hne hfits houtside

/-- A graph stays sound when a block is inserted behind another one. -/
theorem Sound.insertAfter (h : g.Sound) (hinsert : g.insertAfter previous child = .ok g') :
    g'.Sound := by
  rcases insertAfter_eq_ok_iff.1 hinsert with ⟨hne, -, hfits, houtside, rfl⟩
  exact h.move hne hfits houtside

/-- A graph stays sound when a block is detached. -/
theorem Sound.detach {heal : Bool} (h : g.Sound) (hdetach : g.detach id heal = .ok g') :
    g'.Sound := by
  rcases detach_eq_ok_iff.1 hdetach with ⟨-, -, rfl⟩
  split
  · exact h.unplug id
  · exact h.dropIncoming id

/-! ## Deleting blocks -/

/-- When a block is deleted, which blocks go with it, and what becomes of the graph. -/
theorem remove_eq_ok_iff {doomed : List BlockId} : g.remove id = .ok (doomed, g') ↔
    id ≠ root ∧ g.contains id = true ∧
      ((g.unplug id).dropOutlet id .next).withContents id = doomed ∧
      ((g.unplug id).dropOutlet id .next).delete doomed = g' := by
  simp only [remove, Fault.bind_eq_ok_iff, detach_eq_ok_iff, pure, Except.pure, Except.ok.injEq,
    Prod.mk.injEq, if_true]
  constructor
  · rintro ⟨_, ⟨hne, hid, rfl⟩, rfl, rfl⟩
    exact ⟨hne, hid, rfl, rfl⟩
  · rintro ⟨hne, hid, rfl, rfl⟩
    exact ⟨_, ⟨hne, hid, rfl⟩, rfl, rfl⟩

/-- The blocks that are not doomed are as before. -/
theorem get?_delete (g : BlockGraph) (doomed : List BlockId) (id : BlockId) :
    (g.delete doomed).get? id = if id ∈ doomed then none else g.get? id :=
  g.blocks.get?_foldl_erase doomed id

/-- The links that are left join blocks that are not doomed. -/
theorem mem_links_delete {doomed : List BlockId} : link ∈ (g.delete doomed).links ↔
    link ∈ g.links ∧ link.source ∉ doomed ∧ link.target ∉ doomed := by
  rw [delete, List.mem_filter, Bool.and_eq_true, Bool.not_eq_true', Bool.not_eq_true',
    ← Bool.not_eq_true, ← Bool.not_eq_true, List.contains_iff_mem, List.contains_iff_mem]

/-- Deleting a block takes the blocks that go with it and leaves the others as they are. -/
theorem get?_remove {doomed : List BlockId} (hremove : g.remove id = .ok (doomed, g'))
    (other : BlockId) : g'.get? other = if other ∈ doomed then none else g.get? other := by
  rcases remove_eq_ok_iff.1 hremove with ⟨-, -, -, rfl⟩
  rw [get?_delete]
  split
  · rfl
  · rw [get?, get?, dropOutlet, blocks_unplug]

/-- A graph stays sound when blocks other than the script are deleted. -/
theorem Sound.delete {doomed : List BlockId} (h : g.Sound) (hroot : root ∉ doomed) :
    (g.delete doomed).Sound := by
  have hkept : ∀ other, other ∉ doomed → (g.delete doomed).shape? other = g.shape? other := by
    intro other hother
    rw [shape?, shape?, get?_delete, if_neg hother]
  refine h.transfer List.filter_sublist ?_ (fun link hlink => ?_) (fun other hother => ?_)
  · rw [contains_congr (hkept root hroot), h.root_present]
  · rcases mem_links_delete.1 hlink with ⟨-, hsource, htarget⟩
    exact ⟨hkept _ hsource, hkept _ htarget⟩
  · rcases contains_iff.1 hother with ⟨block, hblock⟩
    rw [get?_delete] at hblock
    split at hblock
    · simp at hblock
    · exact h.handed_out other (contains_iff.2 ⟨block, hblock⟩)

/-- A block leads to everything that is deleted with it. -/
theorem reaches_of_mem_withContents (h : b ∈ g.withContents id) : ReflTransGen g.Leads id b := by
  rcases mem_rows_leads h with ⟨start, hstart, hpath⟩
  rw [List.mem_singleton] at hstart
  subst hstart
  clear h
  induction hpath with
  | refl => exact .refl
  | tail _ hheld ih =>
    rcases List.mem_flatMap.1 hheld with ⟨link, hlink, hchain⟩
    rcases List.mem_filter.1 hlink with ⟨hmem, hends⟩
    rw [Bool.and_eq_true, beq_iff_eq] at hends
    have hstep : g.Leads _ link.target := hends.1 ▸ leads_of_mem hmem
    exact (ih.tail hstep).trans (leads_of_follows (mem_walk hchain))

/-- The script is not deleted with any other block. -/
theorem Sound.root_not_mem_withContents (h : g.Sound) (hne : id ≠ root) :
    root ∉ g.withContents id := by
  intro hmem
  rcases (reaches_of_mem_withContents hmem).cases_tail with heq | ⟨last, _, hstep⟩
  · exact hne heq.symm
  · exact h.not_leads_root hstep

/-- A graph stays sound when a block is removed with its contents. -/
theorem Sound.remove {doomed : List BlockId} (h : g.Sound)
    (hremove : g.remove id = .ok (doomed, g')) : g'.Sound := by
  rcases remove_eq_ok_iff.1 hremove with ⟨hne, -, rfl, rfl⟩
  have halone := (h.unplug id).dropOutlet id .next
  exact halone.delete (halone.root_not_mem_withContents hne)

end BlockGraph

end ShellComposer
