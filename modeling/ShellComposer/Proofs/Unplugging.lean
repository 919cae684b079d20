import ShellComposer.Proofs.Repairing

/-!
# What taking a block out changes

A block that is taken out leaves its place to the block that follows.  Every link that enters or
leaves it goes, one link bridges the gap, and nothing else happens.  So every chain keeps its other
blocks in their order, and there is one link less.

Main results:

- Theorem `Sound.mem_links_unplug`: the links after a block is taken out.
- Theorem `Sound.length_links_unplug`: there is one link less.
- Theorem `Sound.traces_skip`: a chain in which a block is left out.
- Theorem `Sound.onward_unplug`: what an outlet leads to after a block is taken out.
- Definition `BlockGraph.held` and theorem `Sound.length_held`: every link holds one block.
-/

namespace ShellComposer

namespace BlockGraph

open Relation

variable {g g' : BlockGraph} {a d id source target owner : BlockId} {outlet : Outlet}
variable {link : Link} {slot : String} {xs : List BlockId}

/-! ## Links -/

/-- A block with nothing above it stays where it is. -/
theorem unplug_eq_self (hloose : g.parent d = none) : g.unplug d = g := by
  rw [BlockGraph.unplug, hloose]

/-- No block follows itself. -/
theorem WellLinked.not_mem_links_self (h : g.WellLinked) : ⟨d, outlet, d⟩ ∉ g.links :=
  fun hlink => h.acyclic d (.single ⟨outlet, hlink⟩)

/-- When a block is taken out, the links at it go, and a link from its place to the block that
follows takes their place. -/
theorem Sound.mem_links_unplug (h : g.Sound) (hheld : ⟨source, outlet, d⟩ ∈ g.links) :
    link ∈ (g.unplug d).links ↔
      (link ∈ g.links ∧ link.target ≠ d ∧ ¬(link.source = d ∧ link.outlet = .next)) ∨
        (⟨d, .next, link.target⟩ ∈ g.links ∧ link.source = source ∧ link.outlet = outlet) := by
  have hnext : ∀ after, (g.dropIncoming d).next d = some after ↔ ⟨d, .next, after⟩ ∈ g.links := by
    intro after
    rw [next, (h.dropIncoming d).target?_eq_some_iff, mem_links_dropIncoming]
    refine and_iff_left_of_imp fun hlink hsame => ?_
    obtain rfl : after = d := hsame
    exact h.not_mem_links_self hlink
  rw [BlockGraph.unplug, h.parent_eq_some_iff.2 hheld]
  cases hread : (g.dropIncoming d).next d with
  | none =>
    have hlast : ∀ after, ⟨d, .next, after⟩ ∉ g.links := by
      intro after hlink
      rw [(hnext after).2 hlink] at hread
      exact absurd hread (by simp)
    simp only [hread, mem_links_dropIncoming, hlast, false_and, or_false]
    constructor
    · rintro ⟨hmem, htarget⟩
      refine ⟨hmem, htarget, ?_⟩
      rintro ⟨rfl, hout⟩
      exact hlast link.target (hout ▸ hmem)
    · rintro ⟨hmem, htarget, -⟩
      exact ⟨hmem, htarget⟩
  | some after =>
    have hfollows := (hnext after).1 hread
    simp only [hread, mem_links_addLink, mem_links_dropOutlet, mem_links_dropIncoming]
    constructor
    · rintro (rfl | ⟨⟨hmem, htarget⟩, hother⟩)
      · exact .inr ⟨hfollows, rfl, rfl⟩
      · exact .inl ⟨hmem, htarget, hother⟩
    · rintro (⟨hmem, htarget, hother⟩ | ⟨hmem, hsource, hout⟩)
      · exact .inr ⟨⟨hmem, htarget⟩, hother⟩
      · have hsame := h.eq_of_outlet hmem hfollows rfl rfl
        rw [Link.mk.injEq] at hsame
        left
        rcases link with ⟨source', outlet', target'⟩
        simp_all

/-- Of links that are told apart by their keys, leaving out those with one key leaves out one. -/
theorem length_filter_key {κ : Type} [DecidableEq κ] {links : List Link} {key : Link → κ} {k : κ}
    {p : Link → Bool} (hnodup : (links.map key).Nodup) (hmem : k ∈ links.map key)
    (hp : ∀ link, p link = true ↔ key link ≠ k) : (links.filter p).length + 1 = links.length := by
  have hmap : (links.filter p).map key = (links.map key).erase k := by
    rw [hnodup.erase_eq_filter, List.filter_map]
    refine congrArg _ (List.filter_congr fun link _ => ?_)
    rw [Bool.eq_iff_iff, hp]
    simp
  have hlength := congrArg List.length hmap
  rw [List.length_map, List.length_erase_of_mem hmem, List.length_map] at hlength
  have hpos := List.length_pos_of_mem hmem
  rw [List.length_map] at hpos
  omega

/-- Taking out a block that hangs somewhere leaves one link less. -/
theorem Sound.length_links_unplug (h : g.Sound) (hheld : ⟨source, outlet, d⟩ ∈ g.links) :
    (g.unplug d).links.length + 1 = g.links.length := by
  have hdrop : (g.dropIncoming d).links.length + 1 = g.links.length :=
    length_filter_key h.one_incoming (List.mem_map.2 ⟨_, hheld, rfl⟩) fun _ => bne_iff_ne
  rw [BlockGraph.unplug, h.parent_eq_some_iff.2 hheld]
  cases hread : (g.dropIncoming d).next d with
  | none => simpa only [hread] using hdrop
  | some after =>
    -- the link behind the block goes, and the link over the gap comes
    have hfollows := mem_links_of_target? hread
    have hpair : ((g.dropIncoming d).dropOutlet d .next).links.length + 1 =
        (g.dropIncoming d).links.length := by
      refine length_filter_key (h.dropIncoming d).one_outgoing
        (List.mem_map.2 ⟨_, hfollows, rfl⟩) fun link => ?_
      rw [Bool.not_eq_true', ← Bool.not_eq_true, Bool.and_eq_true, beq_iff_eq, beq_iff_eq, ne_eq,
        Prod.mk.injEq]
    have hbridge : ∀ (g : BlockGraph) link, (g.addLink link).links.length = g.links.length + 1 :=
      fun _ _ => rfl
    simp only [hread, hbridge]
    omega

/-! ## Blocks that hang somewhere -/

/-- The blocks that are held in a slot or follow another block. -/
def held (g : BlockGraph) : List BlockId :=
  g.ids.filter fun id => (g.parent id).isSome

theorem nodup_ids (g : BlockGraph) : g.ids.Nodup :=
  g.blocks.nodup_keys

/-- What a slot holds hangs somewhere. -/
theorem Sound.exists_link_of_mem_slotChain (h : g.Sound)
    (hmem : id ∈ g.slotChain owner slot) : ∃ source outlet, ⟨source, outlet, id⟩ ∈ g.links := by
  rcases TransGen.tail'_iff.1 (h.leads_of_mem_slotChain hmem) with ⟨source, -, outlet, hlink⟩
  exact ⟨source, outlet, hlink⟩

/-- Every link holds one block. -/
theorem Sound.length_held (h : g.Sound) : g.held.length = g.links.length := by
  have hperm : g.held.Perm (g.links.map Link.target) := by
    have hnodup : g.held.Nodup := g.nodup_ids.filter _
    rw [List.perm_ext_iff_of_nodup hnodup h.one_incoming]
    intro id
    rw [held, List.mem_filter, mem_ids_iff, Option.isSome_iff_exists, List.mem_map]
    constructor
    · rintro ⟨-, ⟨source, outlet⟩, hparent⟩
      exact ⟨_, mem_links_of_parent hparent, rfl⟩
    · rintro ⟨link, hlink, rfl⟩
      exact ⟨(h.ends_present link hlink).2, _, h.parent_eq_some_iff.2 hlink⟩
  rw [hperm.length_eq, List.length_map]

/-- The script hangs nowhere, so fewer blocks than there are hang somewhere. -/
theorem Sound.length_held_lt (h : g.Sound) : g.held.length < g.size := by
  have hroot : root ∉ g.held := by
    intro hmem
    rcases Option.isSome_iff_exists.1 (List.mem_filter.1 hmem).2 with ⟨⟨source, outlet⟩, hparent⟩
    exact h.root_unheld _ (mem_links_of_parent hparent) rfl
  have hsub : root :: g.held ⊆ g.ids := by
    refine List.cons_subset.2 ⟨mem_ids_iff.2 h.root_present, fun id hid => ?_⟩
    exact (List.mem_filter.1 hid).1
  have hnodup : (root :: g.held).Nodup := List.nodup_cons.2 ⟨hroot, g.nodup_ids.filter _⟩
  have hlength := hnodup.length_le_of_subset hsub
  rw [List.length_cons, length_ids] at hlength
  exact hlength

/-- Taking out a block that hangs somewhere leaves one such block less. -/
theorem Sound.length_held_unplug (h : g.Sound) (hheld : ⟨source, outlet, d⟩ ∈ g.links) :
    (g.unplug d).held.length + 1 = g.held.length := by
  rw [h.length_held, (h.unplug d).length_held]
  exact h.length_links_unplug hheld

/-- Taking out a block never leaves more of them. -/
theorem Sound.length_held_unplug_le (h : g.Sound) (d : BlockId) :
    (g.unplug d).held.length ≤ g.held.length := by
  cases hparent : g.parent d with
  | none => exact Nat.le_of_eq (by rw [unplug_eq_self hparent])
  | some place =>
    have hless := h.length_held_unplug (mem_links_of_parent hparent)
    omega

theorem Sound.length_held_foldl_unplug_le (h : g.Sound) (taken : List BlockId) :
    (taken.foldl BlockGraph.unplug g).held.length ≤ g.held.length := by
  induction taken generalizing g with
  | nil => exact Nat.le_refl _
  | cons first rest ih => exact Nat.le_trans (ih (h.unplug first)) (h.length_held_unplug_le first)

/-- Taking off some blocks, of which the first hung somewhere, leaves fewer that do. -/
theorem Sound.length_held_foldl_unplug_lt (h : g.Sound)
    (hmem : id ∈ g.slotChain owner slot) (rest : List BlockId) :
    ((id :: rest).foldl BlockGraph.unplug g).held.length < g.held.length := by
  rcases h.exists_link_of_mem_slotChain hmem with ⟨source, outlet, hlink⟩
  have hfirst := h.length_held_unplug hlink
  have hrest := (h.unplug id).length_held_foldl_unplug_le rest
  rw [List.foldl_cons]
  omega

/-! ## Chains -/

/-- The blocks passed from a start, if there is one, until no step leads any further. -/
def Traces (step : BlockId → Option BlockId) : Option BlockId → List BlockId → Prop
  | none, xs => xs = []
  | some a, xs => Orbit step a xs

theorem Traces.unique {step : BlockId → Option BlockId} {start : Option BlockId}
    {ys : List BlockId} (h : Traces step start xs) (h' : Traces step start ys) : xs = ys := by
  cases start with
  | none => exact h.trans h'.symm
  | some a => exact Orbit.unique h h'

theorem Sound.traces_onward (h : g.Sound) (id : BlockId) (outlet : Outlet) :
    Traces g.next (g.target? id outlet) (g.onward id outlet) := by
  unfold onward
  cases hread : g.target? id outlet with
  | none => rfl
  | some head => exact h.chain_orbit (h.ends_present _ (mem_links_of_target? hread)).2

/-- What is read in place of a block once it is taken out. -/
def skip (g : BlockGraph) (d : BlockId) : Option BlockId → Option BlockId
  | some a => if a = d then g.next d else some a
  | none => none

/-- No outlet leads to a block that hangs nowhere, and so there is nothing to read in its place. -/
theorem skip_of_loose (hloose : g.parent d = none) (g' : BlockGraph) (id : BlockId)
    (outlet : Outlet) : g'.skip d (g.target? id outlet) = g.target? id outlet := by
  cases hread : g.target? id outlet with
  | none => rfl
  | some target =>
    have hne : target ≠ d := parent_eq_none_iff.1 hloose _ (mem_links_of_target? hread)
    rw [skip, if_neg hne]

/-- An outlet that led to a block that is taken out leads to the block that followed; other outlets
lead where they did. -/
theorem Sound.target?_unplug (h : g.Sound) (hheld : ⟨source, outlet, d⟩ ∈ g.links)
    {from' : Outlet} (hother : ¬(id = d ∧ from' = .next)) :
    (g.unplug d).target? id from' = g.skip d (g.target? id from') := by
  apply Option.ext
  intro target
  rw [(h.unplug d).target?_eq_some_iff, h.mem_links_unplug hheld]
  cases hread : g.target? id from' with
  | none =>
    have hnone := target?_eq_none_iff.1 hread
    simp only [skip, reduceCtorEq, iff_false]
    rintro (⟨hmem, -, -⟩ | ⟨-, rfl, rfl⟩)
    · exact hnone target hmem
    · exact hnone d hheld
  | some first =>
    have hfirst := mem_links_of_target? hread
    by_cases hsame : first = d
    · subst hsame
      have hplace := h.eq_of_target hfirst hheld rfl
      rw [Link.mk.injEq] at hplace
      simp only [skip, if_true, hplace.1, hplace.2.1, and_self, and_true]
      rw [next, h.target?_eq_some_iff]
      refine ⟨?_, .inr⟩
      rintro (⟨hmem, htarget, -⟩ | hmem)
      · have heq := h.eq_of_outlet hmem hheld rfl rfl
        exact absurd (congrArg Link.target heq) htarget
      · exact hmem
    · simp only [skip, if_neg hsame, Option.some.injEq]
      constructor
      · rintro (⟨hmem, -, -⟩ | ⟨-, rfl, rfl⟩)
        · have heq := h.eq_of_outlet hfirst hmem rfl rfl
          exact congrArg Link.target heq
        · have heq := h.eq_of_outlet hfirst hheld rfl rfl
          exact absurd (congrArg Link.target heq) hsame
      · rintro rfl
        exact .inl ⟨hfirst, hsame, hother⟩

/-- Where every other block of a chain leads where it led, over a block that is left out, the chain
goes on without that block. -/
theorem Sound.traces_skip (h : g.Sound) {start : Option BlockId} (htraces : Traces g.next start xs)
    (hnext : ∀ a ∈ xs, a ≠ d → g'.next a = g.skip d (g.next a)) :
    Traces g'.next (g.skip d start) (xs.filter (· ≠ d)) := by
  cases start with
  | none =>
    obtain rfl : xs = [] := htraces
    rfl
  | some a =>
    -- along the chain; the block left out stands for what follows it
    have horbit : Orbit g.next a xs := htraces
    clear htraces
    induction horbit with
    | @last a stop =>
      by_cases hsame : a = d
      · subst hsame
        simp [skip, stop, Traces]
      · have hstop : g'.next a = none := by
          rw [hnext a List.mem_cons_self hsame, stop, skip]
        simpa [skip, hsame, Traces] using Orbit.last hstop
    | @more a b rest go onward ih =>
      have hrest := ih fun c hc => hnext c (List.mem_cons_of_mem _ hc)
      by_cases hsame : a = d
      · subst hsame
        have hne : b ≠ a := by
          rintro rfl
          exact h.not_mem_links_self (mem_links_of_target? go)
        simpa [skip, go, hne] using hrest
      · rw [← go, ← hnext a List.mem_cons_self hsame] at hrest
        simp only [skip, if_neg hsame, ne_eq, decide_not]
        rw [List.filter_cons_of_pos (by simpa using hsame)]
        cases hread : g'.next a with
        | none =>
          rw [hread] at hrest
          simp only [ne_eq, decide_not] at hrest
          rw [show rest.filter (fun x => !decide (x = d)) = [] from hrest]
          exact .last hread
        | some c =>
          rw [hread] at hrest
          simp only [ne_eq, decide_not] at hrest
          exact .more hread hrest

/-- A chain without a block that is taken out. -/
theorem Sound.traces_unplug (h : g.Sound) (hheld : ⟨source, outlet, d⟩ ∈ g.links)
    {start : Option BlockId} (htraces : Traces g.next start xs) :
    Traces (g.unplug d).next (g.skip d start) (xs.filter (· ≠ d)) :=
  h.traces_skip htraces fun _ _ hne => h.target?_unplug hheld fun hboth => hne hboth.1

/-- What an outlet leads to along a chain, once a block is taken out: the same without the block. -/
theorem Sound.onward_unplug (h : g.Sound) (hheld : ⟨source, outlet, d⟩ ∈ g.links)
    {from' : Outlet} (hother : ¬(id = d ∧ from' = .next)) :
    (g.unplug d).onward id from' = (g.onward id from').filter (· ≠ d) := by
  have hafter := (h.unplug d).traces_onward id from'
  rw [h.target?_unplug hheld hother] at hafter
  exact hafter.unique (h.traces_unplug hheld (h.traces_onward id from'))

/-- A block that is taken out hangs nowhere, and no block follows it. -/
theorem Sound.loose_unplug (h : g.Sound) (hheld : ⟨source, outlet, d⟩ ∈ g.links) :
    (g.unplug d).parent d = none ∧ (g.unplug d).next d = none := by
  rw [parent_eq_none_iff, next, target?_eq_none_iff]
  constructor
  · intro link hlink hsame
    rcases (h.mem_links_unplug hheld).1 hlink with ⟨-, htarget, -⟩ | ⟨hmem, -, -⟩
    · exact htarget hsame
    · rw [hsame] at hmem
      exact h.not_mem_links_self hmem
  · intro after hlink
    rcases (h.mem_links_unplug hheld).1 hlink with ⟨-, -, hother⟩ | ⟨-, rfl, rfl⟩
    · exact hother ⟨rfl, rfl⟩
    · exact h.not_mem_links_self hheld

end BlockGraph

end ShellComposer
