import ShellComposer.Block.Graph
import Mathlib.Data.List.Nodup
import Mathlib.Logic.Relation

/-!
# Well-linked graphs

Blocks hang below the blocks that hold or precede them, each in one place only, and every connection
fits.  This module says so for a block graph, and reads off what a link then decides: the block at
an outlet, and the place of a block.

Main results:

- Structure `BlockGraph.WellLinked`: the shape of the links of a graph.
- Structure `BlockGraph.Sound`: a well-linked graph whose next id is unused.
- Theorems `Sound.target?_eq_some_iff` and `Sound.parent_eq_some_iff`: what is read off the links is
  what the links say.
- Theorem `Sound.transfer`: fewer links between blocks of the same shape are still well-linked.
-/

namespace ShellComposer

namespace BlockGraph

open Relation

/-! ## The shape of the links -/

/-- Some link leads from one block to another. -/
def Leads (g : BlockGraph) (a b : BlockId) : Prop :=
  ∃ outlet, ⟨a, outlet, b⟩ ∈ g.links

/-- The tag that a block shows where it connects. -/
def tagShown (g : BlockGraph) (id : BlockId) : Option Tag :=
  (g.get? id).bind fun block => block.kind.tag?

/-- The tag that an outlet asks for: a slot for the tag it accepts, the lower end of a block for the
tag the block shows itself. -/
def tagAsked (g : BlockGraph) (id : BlockId) : Outlet → Option Tag
  | .slot name => (g.get? id).bind fun block => (block.slot? name).map Slot.accepts
  | .next => g.tagShown id

/-- A link fits when the block it enters shows the very tag that the outlet asks for. -/
def Fits (g : BlockGraph) (link : Link) : Prop :=
  ∃ tag, g.tagAsked link.source link.outlet = some tag ∧ g.tagShown link.target = some tag

/-- The shape of the links of a graph. -/
structure WellLinked (g : BlockGraph) : Prop where
  /-- The script is there. -/
  root_present : g.contains root = true
  /-- No link enters the script. -/
  root_unheld : ∀ link ∈ g.links, link.target ≠ root
  /-- No two links enter the same block. -/
  one_incoming : (g.links.map Link.target).Nodup
  /-- No two links leave the same slot or the same lower end of a block. -/
  one_outgoing : (g.links.map fun link => (link.source, link.outlet)).Nodup
  /-- Both ends of every link are there. -/
  ends_present : ∀ link ∈ g.links, g.contains link.source = true ∧ g.contains link.target = true
  /-- Links do not lead from a block back to it. -/
  acyclic : ∀ id, ¬ TransGen g.Leads id id
  /-- Every connection fits. -/
  fits : ∀ link ∈ g.links, g.Fits link

/-- A well-linked graph that hands out an unused id next. -/
structure Sound (g : BlockGraph) : Prop extends WellLinked g where
  /-- Every id in use was handed out before. -/
  handed_out : ∀ id, g.contains id = true → id < g.nextId

/-! ## Blocks -/

variable {g g' : BlockGraph} {a b c id source target : BlockId} {outlet : Outlet} {link : Link}

/-- A graph contains the blocks it knows. -/
theorem contains_iff : g.contains id = true ↔ ∃ block, g.get? id = some block :=
  g.blocks.contains_iff id

theorem mem_ids_iff : id ∈ g.ids ↔ g.contains id = true :=
  g.blocks.mem_keys_iff id

theorem length_ids : g.ids.length = g.size :=
  g.blocks.length_keys

theorem tagShown_eq {block : Block} (h : g.get? id = some block) :
    g.tagShown id = block.kind.tag? := by
  rw [tagShown, h, Option.bind_some]

theorem tagAsked_slot_eq {block : Block} (h : g.get? id = some block) (name : String) :
    g.tagAsked id (.slot name) = (block.slot? name).map Slot.accepts := by
  rw [tagAsked, h, Option.bind_some]

/-- The kind and slots of a block, which decide how it connects. -/
def shape? (g : BlockGraph) (id : BlockId) : Option (BlockKind × List Slot) :=
  (g.get? id).map fun block => (block.kind, block.slots)

/-- The value of a field of a block. -/
def field? (g : BlockGraph) (id : BlockId) (name : String) : Option String :=
  (g.get? id).bind fun block => block.field? name

/-- The tag a block shows depends on its shape only. -/
theorem tagShown_congr (h : g'.shape? id = g.shape? id) : g'.tagShown id = g.tagShown id := by
  have hkind : ∀ g : BlockGraph, g.tagShown id = (g.shape? id).bind fun shape => shape.1.tag? := by
    intro g
    rw [shape?, Option.bind_map]
    rfl
  rw [hkind, hkind, h]

/-- So does the tag an outlet asks for. -/
theorem tagAsked_congr (h : g'.shape? id = g.shape? id) (outlet : Outlet) :
    g'.tagAsked id outlet = g.tagAsked id outlet := by
  cases outlet with
  | next => exact tagShown_congr h
  | slot name =>
    have hslots : ∀ g : BlockGraph, g.tagAsked id (.slot name) = (g.shape? id).bind fun shape =>
        (shape.2.find? fun slot => slot.name == name).map Slot.accepts := by
      intro g
      rw [shape?, Option.bind_map]
      rfl
    rw [hslots, hslots, h]

theorem contains_congr (h : g'.shape? id = g.shape? id) : g'.contains id = g.contains id := by
  have hsome : ∀ g : BlockGraph, g.contains id = (g.shape? id).isSome := by
    intro g
    rw [shape?, Option.isSome_map]
    rfl
  rw [hsome, hsome, h]

/-- Only blocks of the graph show a tag. -/
theorem contains_of_tagShown {tag : Tag} (h : g.tagShown id = some tag) :
    g.contains id = true := by
  rcases Option.bind_eq_some_iff.1 h with ⟨block, hblock, -⟩
  exact contains_iff.2 ⟨block, hblock⟩

/-- Both ends of a link that fits are there. -/
theorem present_of_fits (h : g.Fits link) :
    g.contains link.source = true ∧ g.contains link.target = true := by
  rcases h with ⟨tag, hasked, hshown⟩
  refine ⟨?_, contains_of_tagShown hshown⟩
  cases houtlet : link.outlet with
  | next =>
    rw [houtlet] at hasked
    exact contains_of_tagShown hasked
  | slot name =>
    rw [houtlet] at hasked
    rcases Option.bind_eq_some_iff.1 hasked with ⟨block, hblock, -⟩
    exact contains_iff.2 ⟨block, hblock⟩

/-! ## Reading links -/

/-- A block read at an outlet is entered by a link from there. -/
theorem mem_links_of_target? (h : g.target? id outlet = some target) :
    ⟨id, outlet, target⟩ ∈ g.links := by
  rcases Option.map_eq_some_iff.1 h with ⟨link, hfind, rfl⟩
  have hmem := List.mem_of_find?_eq_some hfind
  have hends := List.find?_some hfind
  simp only [Bool.and_eq_true, beq_iff_eq] at hends
  rcases hends with ⟨rfl, rfl⟩
  exact hmem

/-- Nothing is read at an outlet that no link leaves. -/
theorem target?_eq_none_iff :
    g.target? id outlet = none ↔ ∀ target, ⟨id, outlet, target⟩ ∉ g.links := by
  rw [target?, Option.map_eq_none_iff, List.find?_eq_none]
  constructor
  · intro hnone target hmem
    exact hnone _ hmem (by simp)
  · rintro hnone ⟨source, from', target⟩ hmem hends
    simp only [Bool.and_eq_true, beq_iff_eq] at hends
    rcases hends with ⟨rfl, rfl⟩
    exact hnone target hmem

/-- The place read for a block is where a link to it comes from. -/
theorem mem_links_of_parent (h : g.parent id = some (source, outlet)) :
    ⟨source, outlet, id⟩ ∈ g.links := by
  rcases Option.map_eq_some_iff.1 h with ⟨link, hfind, hplace⟩
  have hmem := List.mem_of_find?_eq_some hfind
  have htarget := List.find?_some hfind
  rw [beq_iff_eq] at htarget
  rcases Prod.mk.inj hplace with ⟨rfl, rfl⟩
  subst htarget
  exact hmem

/-- No place is read for a block that no link enters. -/
theorem parent_eq_none_iff : g.parent id = none ↔ ∀ link ∈ g.links, link.target ≠ id := by
  rw [parent, Option.map_eq_none_iff, List.find?_eq_none]
  simp only [beq_iff_eq, ne_eq]

/-- A link leads from its source to its target. -/
theorem leads_of_mem (h : link ∈ g.links) : g.Leads link.source link.target :=
  ⟨link.outlet, h⟩

theorem mem_targets_iff : b ∈ g.targets a ↔ g.Leads a b := by
  simp only [targets, List.mem_map, List.mem_filter, beq_iff_eq]
  constructor
  · rintro ⟨link, ⟨hmem, rfl⟩, rfl⟩
    exact leads_of_mem hmem
  · rintro ⟨outlet, hmem⟩
    exact ⟨_, ⟨hmem, rfl⟩, rfl⟩

namespace WellLinked

/-- Two links that enter the same block are the same. -/
theorem eq_of_target {x y : Link} (h : g.WellLinked) (hx : x ∈ g.links) (hy : y ∈ g.links)
    (htarget : x.target = y.target) : x = y :=
  List.inj_on_of_nodup_map h.one_incoming hx hy htarget

/-- Two links that leave the same outlet are the same. -/
theorem eq_of_outlet {x y : Link} (h : g.WellLinked) (hx : x ∈ g.links) (hy : y ∈ g.links)
    (hsource : x.source = y.source) (houtlet : x.outlet = y.outlet) : x = y :=
  List.inj_on_of_nodup_map h.one_outgoing hx hy (Prod.ext hsource houtlet)

/-- The block read at an outlet is the one that a link from there enters. -/
theorem target?_eq_some_iff (h : g.WellLinked) :
    g.target? id outlet = some target ↔ ⟨id, outlet, target⟩ ∈ g.links := by
  refine ⟨mem_links_of_target?, fun hmem => ?_⟩
  cases hread : g.target? id outlet with
  | none => exact absurd hmem (target?_eq_none_iff.1 hread target)
  | some other =>
    have hsame := h.eq_of_outlet (mem_links_of_target? hread) hmem rfl rfl
    rw [Link.mk.injEq] at hsame
    rw [hsame.2.2]

/-- The place read for a block is the one that a link to it comes from. -/
theorem parent_eq_some_iff (h : g.WellLinked) :
    g.parent id = some (source, outlet) ↔ ⟨source, outlet, id⟩ ∈ g.links := by
  refine ⟨mem_links_of_parent, fun hmem => ?_⟩
  cases hread : g.parent id with
  | none => exact absurd rfl (parent_eq_none_iff.1 hread _ hmem)
  | some place =>
    have hsame := h.eq_of_target (mem_links_of_parent hread) hmem rfl
    rw [Link.mk.injEq] at hsame
    rw [← hsame.1, ← hsame.2.1]

/-- The block read above another one is the one that leads to it. -/
theorem above_eq_some_iff (h : g.WellLinked) : g.above b = some a ↔ g.Leads a b := by
  rw [above, Option.map_eq_some_iff]
  constructor
  · rintro ⟨⟨source, outlet⟩, hparent, rfl⟩
    exact ⟨outlet, mem_links_of_parent hparent⟩
  · rintro ⟨outlet, hmem⟩
    exact ⟨(a, outlet), h.parent_eq_some_iff.2 hmem, rfl⟩

/-- A block is led to from one block only. -/
theorem leads_unique (h : g.WellLinked) (ha : g.Leads a c) (hb : g.Leads b c) : a = b :=
  Option.some.inj ((h.above_eq_some_iff.2 ha).symm.trans (h.above_eq_some_iff.2 hb))

/-- Of two blocks that lead to the same block, one leads to the other. -/
theorem leads_total (h : g.WellLinked) (ha : ReflTransGen g.Leads a c)
    (hb : ReflTransGen g.Leads b c) :
    ReflTransGen g.Leads a b ∨ ReflTransGen g.Leads b a := by
  have hunique : Relator.RightUnique (Function.swap g.Leads) := fun _ _ _ => h.leads_unique
  rcases ReflTransGen.total_of_right_unique hunique (reflTransGen_swap.2 ha)
    (reflTransGen_swap.2 hb) with hab | hba
  · exact Or.inr (reflTransGen_swap.1 hab)
  · exact Or.inl (reflTransGen_swap.1 hba)

/-- What a block leads to is there. -/
theorem leads_present (h : g.WellLinked) (hleads : g.Leads a b) :
    g.contains a = true ∧ g.contains b = true := by
  rcases hleads with ⟨outlet, hmem⟩
  exact h.ends_present _ hmem

/-- The script is led to from no block. -/
theorem not_leads_root (h : g.WellLinked) : ¬ g.Leads a root :=
  fun ⟨_, hmem⟩ => h.root_unheld _ hmem rfl

end WellLinked

/-! ## Fewer links, and blocks of the same shape -/

/-- Fewer links lead to less. -/
theorem leads_of_subset (hlinks : g'.links ⊆ g.links) : g'.Leads ≤ g.Leads :=
  fun _ _ ⟨outlet, hmem⟩ => ⟨outlet, hlinks hmem⟩

/-- Some of the links of a sound graph, between blocks that keep their kinds and slots, make up a
sound graph. -/
theorem Sound.transfer (h : g.Sound) (hlinks : g'.links.Sublist g.links)
    (hroot : g'.contains root = true)
    (hshape : ∀ link ∈ g'.links, g'.shape? link.source = g.shape? link.source ∧
      g'.shape? link.target = g.shape? link.target)
    (hnext : ∀ id, g'.contains id = true → id < g'.nextId) : g'.Sound where
  root_present := hroot
  root_unheld := fun link hlink => h.root_unheld link (hlinks.subset hlink)
  one_incoming := h.one_incoming.sublist (hlinks.map _)
  one_outgoing := h.one_outgoing.sublist (hlinks.map _)
  ends_present := by
    intro link hlink
    rcases hshape link hlink with ⟨hsource, htarget⟩
    rw [contains_congr hsource, contains_congr htarget]
    exact h.ends_present link (hlinks.subset hlink)
  acyclic := fun id hcycle =>
    h.acyclic id (TransGen.mono (leads_of_subset hlinks.subset) _ _ hcycle)
  fits := by
    intro link hlink
    rcases hshape link hlink with ⟨hsource, htarget⟩
    rcases h.fits link (hlinks.subset hlink) with ⟨tag, hasked, hshown⟩
    exact ⟨tag, by rw [tagAsked_congr hsource, hasked], by rw [tagShown_congr htarget, hshown]⟩
  handed_out := hnext

/-- Some of the links of a sound graph, between the same blocks, make up a sound graph. -/
theorem Sound.withLinks {links : List Link} (h : g.Sound) (hlinks : links.Sublist g.links) :
    ({ g with links } : BlockGraph).Sound :=
  h.transfer hlinks h.root_present (fun _ _ => ⟨rfl, rfl⟩) h.handed_out

end BlockGraph

end ShellComposer
