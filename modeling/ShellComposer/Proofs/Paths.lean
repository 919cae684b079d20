import ShellComposer.Proofs.Walk
import ShellComposer.Proofs.WellLinked

/-!
# Paths through a well-linked graph

In a well-linked graph every walk ends by itself before it runs out of steps.  So the walk upwards
passes exactly the blocks above a block, the walk along a chain passes the whole chain, and the
search from the script finds exactly the blocks that links lead to.

Main results:

- Theorem `WellLinked.isAncestor_iff`: what the walk upwards passes.
- Theorem `WellLinked.rootOf_eq_root_iff`: when the topmost block is the script.
- Theorem `WellLinked.mem_chainFrom_iff` and `WellLinked.stackTail_spec`: what a chain holds, and
  where it ends.
- Definition `onward` and theorem `WellLinked.mem_onward_iff`: what an outlet leads to along a
  chain.
- Inductive type `Holds` and theorem `WellLinked.holds_slotChain`: what a slot holds.
- Theorem `WellLinked.surroundParent_eq_some_iff`: the slot around a chain.
- Theorem `WellLinked.slotChain_unique`: no block is in two slots.
- Theorem `WellLinked.tagShown_of_follows`: all blocks of a chain show the same tag.
- Theorem `WellLinked.mem_reachable_iff`: what the search from the script finds.
-/

namespace ShellComposer

namespace BlockGraph

open Relation

variable {g : BlockGraph} {a b id head owner : BlockId} {outlet : Outlet} {slot : String}

/-- One block follows another in a chain, at once or after others. -/
abbrev Follows (g : BlockGraph) : BlockId → BlockId → Prop :=
  ReflTransGen (Steps g.next)

/-- What follows a block is led to from it. -/
theorem leads_of_follows (h : g.Follows a b) : ReflTransGen g.Leads a b :=
  ReflTransGen.mono (fun _ _ hstep => ⟨.next, mem_links_of_target? hstep⟩) _ _ h

/-- The blocks that an outlet leads to along a chain. -/
def onward (g : BlockGraph) (id : BlockId) (outlet : Outlet) : List BlockId :=
  g.chain (g.target? id outlet)

/-- The blocks that a slot holds, from the one that its link enters to the one that none follows. -/
inductive Holds (g : BlockGraph) (owner : BlockId) (slot : String) : List BlockId → Prop where
  | empty (nothing : g.slotHead owner slot = none) : Holds g owner slot []
  | stack {head : BlockId} {chain : List BlockId} (first : g.slotHead owner slot = some head)
      (onward : Orbit g.next head chain) : Holds g owner slot chain

/-- A slot holds one chain of blocks only. -/
theorem Holds.unique {chain chain' : List BlockId} (h : g.Holds owner slot chain)
    (h' : g.Holds owner slot chain') : chain = chain' := by
  cases h with
  | empty nothing =>
    cases h' with
    | empty _ => rfl
    | stack first' _ => simp [nothing] at first'
  | stack first onward =>
    cases h' with
    | empty nothing' => simp [nothing'] at first
    | stack first' onward' =>
      obtain rfl := Option.some.inj (first.symm.trans first')
      exact onward.unique onward'

namespace WellLinked

/-! ## Upwards -/

/-- One goes up from a block to the one that leads to it. -/
theorem steps_above_iff (h : g.WellLinked) : Steps g.above b a ↔ g.Leads a b :=
  h.above_eq_some_iff

/-- The walk upwards goes against the links. -/
theorem reaches_above_iff (h : g.WellLinked) :
    ReflTransGen (Steps g.above) b a ↔ ReflTransGen g.Leads a b := by
  have hsteps : Steps g.above = Function.swap g.Leads := by
    funext x y
    exact propext h.steps_above_iff
  rw [hsteps, reflTransGen_swap]

/-- Going up never comes back. -/
theorem above_acyclic (h : g.WellLinked) (id : BlockId) : ¬ TransGen (Steps g.above) id id := by
  have hsteps : Steps g.above = Function.swap g.Leads := by
    funext x y
    exact propext h.steps_above_iff
  rw [hsteps, transGen_swap]
  exact h.acyclic id

/-- A block and the blocks above it are all that the walk upwards passes. -/
theorem ancestry_orbit (h : g.WellLinked) (hid : g.contains id = true) :
    Orbit g.above id (g.ancestry id) := by
  rw [ancestry, ← length_ids]
  refine walk_orbit h.above_acyclic (fun x y hstep => ?_) (mem_ids_iff.2 hid)
  exact mem_ids_iff.2 (h.leads_present (h.above_eq_some_iff.1 hstep)).1

/-- The ancestry of a block are those from which one comes down to it. -/
theorem mem_ancestry_iff (h : g.WellLinked) (hid : g.contains id = true) :
    a ∈ g.ancestry id ↔ ReflTransGen g.Leads a id := by
  rw [(h.ancestry_orbit hid).mem_iff, h.reaches_above_iff]

/-- A block is an ancestor of those that one comes down to from it, itself included. -/
theorem isAncestor_iff (h : g.WellLinked) (hid : g.contains id = true) :
    g.isAncestor a id = true ↔ ReflTransGen g.Leads a id := by
  rw [isAncestor, List.contains_iff_mem, h.mem_ancestry_iff hid]

/-- There are no more blocks above a block than there are blocks. -/
theorem length_ancestry_le (h : g.WellLinked) (hid : g.contains id = true) :
    (g.ancestry id).length ≤ g.size := by
  rw [← length_ids]
  refine List.Nodup.length_le_of_subset (walk_nodup h.above_acyclic) (walk_subset ?_ ?_)
  · exact fun x y hstep => mem_ids_iff.2 (h.leads_present (h.above_eq_some_iff.1 hstep)).1
  · exact mem_ids_iff.2 hid

/-- The topmost block above a block hangs nowhere and leads to the block. -/
theorem rootOf_spec (h : g.WellLinked) (hid : g.contains id = true) :
    (g.ancestry id).getLast? = some (g.rootOf id) ∧ g.above (g.rootOf id) = none ∧
      ReflTransGen g.Leads (g.rootOf id) id := by
  rcases (h.ancestry_orbit hid).exists_getLast with ⟨top, hlast, hstop, hpath⟩
  have htop : g.rootOf id = top := by rw [rootOf, hlast, Option.getD_some]
  rw [htop]
  exact ⟨hlast, hstop, h.reaches_above_iff.1 hpath⟩

/-- The topmost block above a block is the script exactly when the script leads to the block. -/
theorem rootOf_eq_root_iff (h : g.WellLinked) (hid : g.contains id = true) :
    g.rootOf id = root ↔ ReflTransGen g.Leads root id := by
  rcases h.rootOf_spec hid with ⟨-, hstop, hpath⟩
  constructor
  · intro htop
    rwa [htop] at hpath
  · intro hroot
    rcases h.leads_total hpath hroot with hdown | hup
    · rcases hdown.cases_tail with heq | ⟨x, _, hleads⟩
      · exact heq.symm
      · exact absurd hleads h.not_leads_root
    · rcases hup.cases_tail with heq | ⟨x, _, hleads⟩
      · exact heq
      · rw [h.above_eq_some_iff.2 hleads] at hstop
        exact absurd hstop (by simp)

/-! ## Along chains -/

/-- One goes on from a block to the one that is linked behind it. -/
theorem steps_next_iff (h : g.WellLinked) : Steps g.next a b ↔ ⟨a, .next, b⟩ ∈ g.links :=
  h.target?_eq_some_iff

/-- Going on never comes back. -/
theorem next_acyclic (h : g.WellLinked) (id : BlockId) : ¬ TransGen (Steps g.next) id id :=
  fun hcycle => h.acyclic id
    (TransGen.mono (fun _ _ hstep => ⟨.next, mem_links_of_target? hstep⟩) _ _ hcycle)

/-- A chain is all that the walk from its first block passes. -/
theorem chain_orbit (h : g.WellLinked) (hhead : g.contains head = true) :
    Orbit g.next head (g.chainFrom head) := by
  rw [chainFrom, ← length_ids]
  refine walk_orbit h.next_acyclic (fun x y hstep => ?_) (mem_ids_iff.2 hhead)
  exact mem_ids_iff.2 (h.ends_present _ (mem_links_of_target? hstep)).2

/-- A slot holds the blocks of its chain. -/
theorem holds_slotChain (h : g.WellLinked) (owner : BlockId) (slot : String) :
    g.Holds owner slot (g.slotChain owner slot) := by
  rw [slotChain]
  cases hread : g.slotHead owner slot with
  | none => exact .empty hread
  | some head =>
    exact .stack hread (h.chain_orbit (h.ends_present _ (mem_links_of_target? hread)).2)

/-- In a chain are the blocks that follow its first one. -/
theorem mem_chainFrom_iff (h : g.WellLinked) (hhead : g.contains head = true) :
    b ∈ g.chainFrom head ↔ g.Follows head b :=
  (h.chain_orbit hhead).mem_iff

/-- The last block of a chain is followed by none. -/
theorem stackTail_spec (h : g.WellLinked) (hid : g.contains id = true) :
    g.next (g.stackTail id) = none ∧ g.Follows id (g.stackTail id) := by
  rcases (h.chain_orbit hid).exists_getLast with ⟨tail, hlast, hstop, hpath⟩
  have htail : g.stackTail id = tail := by rw [stackTail, hlast, Option.getD_some]
  rw [htail]
  exact ⟨hstop, hpath⟩

/-- The blocks of a chain all show the tag of the first. -/
theorem tagShown_of_follows (h : g.WellLinked) (hpath : g.Follows a b) :
    g.tagShown b = g.tagShown a := by
  induction hpath with
  | refl => rfl
  | tail _ hstep ih =>
    rcases h.fits _ (mem_links_of_target? hstep) with ⟨tag, hasked, hshown⟩
    have hsame : g.tagShown _ = some tag := hasked
    rw [hshown, ← ih, hsame]

/-- An outlet leads to the block that its link enters and to those that follow it. -/
theorem mem_onward_iff (h : g.WellLinked) :
    b ∈ g.onward id outlet ↔ ∃ head, ⟨id, outlet, head⟩ ∈ g.links ∧ g.Follows head b := by
  rw [onward]
  cases hread : g.target? id outlet with
  | none =>
    simp only [chain, List.not_mem_nil, false_iff, not_exists, not_and]
    exact fun head hmem _ => target?_eq_none_iff.1 hread head hmem
  | some first =>
    have hmem : ⟨id, outlet, first⟩ ∈ g.links := mem_links_of_target? hread
    rw [chain, h.mem_chainFrom_iff (h.ends_present _ hmem).2]
    constructor
    · exact fun hpath => ⟨first, hmem, hpath⟩
    · rintro ⟨head, hhead, hpath⟩
      have hsame := h.eq_of_outlet hmem hhead rfl rfl
      rw [Link.mk.injEq] at hsame
      rwa [hsame.2.2]

/-- A block leads to everything along the chains from its outlets. -/
theorem leads_of_mem_onward (h : g.WellLinked) (hmem : b ∈ g.onward id outlet) :
    TransGen g.Leads id b := by
  rcases h.mem_onward_iff.1 hmem with ⟨head, hlink, hpath⟩
  exact .head' ⟨outlet, hlink⟩ (leads_of_follows hpath)

/-- A block linked to an outlet is among those that hang from it. -/
theorem mem_onward_of_link (h : g.WellLinked) (hlink : ⟨id, outlet, b⟩ ∈ g.links) :
    b ∈ g.onward id outlet :=
  h.mem_onward_iff.2 ⟨b, hlink, .refl⟩

/-- With a block an outlet leads to the block that follows it. -/
theorem next_mem_onward (h : g.WellLinked) (hmem : a ∈ g.onward id outlet)
    (hlink : ⟨a, .next, b⟩ ∈ g.links) : b ∈ g.onward id outlet := by
  rcases h.mem_onward_iff.1 hmem with ⟨head, hfirst, hpath⟩
  exact h.mem_onward_iff.2 ⟨head, hfirst, hpath.tail (h.steps_next_iff.2 hlink)⟩

/-- A slot holds its first block and those that follow it. -/
theorem mem_slotChain_iff (h : g.WellLinked) :
    b ∈ g.slotChain owner slot ↔
      ∃ head, ⟨owner, .slot slot, head⟩ ∈ g.links ∧ g.Follows head b :=
  h.mem_onward_iff

/-- A block leads to everything that its slots hold. -/
theorem leads_of_mem_slotChain (h : g.WellLinked) (hmem : b ∈ g.slotChain owner slot) :
    TransGen g.Leads owner b :=
  h.leads_of_mem_onward hmem

/-- What another block leads to is there, and is not the script. -/
theorem present_of_leads (h : g.WellLinked) (hpath : TransGen g.Leads a b) :
    g.contains b = true ∧ b ≠ root := by
  rcases TransGen.tail'_iff.1 hpath with ⟨c, _, hleads⟩
  refine ⟨(h.leads_present hleads).2, ?_⟩
  rintro rfl
  exact h.not_leads_root hleads

/-- What a slot holds shows the tag that the slot asks for. -/
theorem tagShown_of_mem_slotChain (h : g.WellLinked) (hmem : b ∈ g.slotChain owner slot) :
    ∃ tag, g.tagAsked owner (.slot slot) = some tag ∧ g.tagShown b = some tag := by
  rcases h.mem_slotChain_iff.1 hmem with ⟨head, hlink, hpath⟩
  rcases h.fits _ hlink with ⟨tag, hasked, hshown⟩
  exact ⟨tag, hasked, by rw [h.tagShown_of_follows hpath, hshown]⟩

/-! ## The slot around a chain -/

/-- One goes back from a block to the one that it is linked behind. -/
theorem previous_eq_some_iff (h : g.WellLinked) :
    g.previous b = some a ↔ ⟨a, .next, b⟩ ∈ g.links := by
  rw [← h.parent_eq_some_iff, previous]
  split
  · rename_i before hparent
    simp [hparent]
  · rename_i hother
    simp only [reduceCtorEq, false_iff]
    exact hother a

/-- The walk to the start of a chain goes against the links. -/
theorem reaches_previous_iff (h : g.WellLinked) :
    ReflTransGen (Steps g.previous) b a ↔ g.Follows a b := by
  have hsteps : Steps g.previous = Function.swap (Steps g.next) := by
    funext x y
    exact propext (h.previous_eq_some_iff.trans h.steps_next_iff.symm)
  rw [hsteps, reflTransGen_swap]

/-- Going back never comes round. -/
theorem previous_acyclic (h : g.WellLinked) (id : BlockId) :
    ¬ TransGen (Steps g.previous) id id := by
  have hsteps : Steps g.previous = Function.swap (Steps g.next) := by
    funext x y
    exact propext (h.previous_eq_some_iff.trans h.steps_next_iff.symm)
  rw [hsteps, transGen_swap]
  exact h.next_acyclic id

/-- The first block of a chain follows none. -/
theorem chainHead_spec (h : g.WellLinked) (hid : g.contains id = true) :
    g.previous (g.chainHead id) = none ∧ g.Follows (g.chainHead id) id := by
  have horbit : Orbit g.previous id (walk g.previous g.size id) := by
    rw [← length_ids]
    refine walk_orbit h.previous_acyclic (fun x y hstep => ?_) (mem_ids_iff.2 hid)
    exact mem_ids_iff.2 (h.ends_present _ (h.previous_eq_some_iff.1 hstep)).1
  rcases horbit.exists_getLast with ⟨top, hlast, hstop, hpath⟩
  have htop : g.chainHead id = top := by rw [chainHead, hlast, Option.getD_some]
  rw [htop]
  exact ⟨hstop, h.reaches_previous_iff.1 hpath⟩

/-- A chain has one first block. -/
theorem chainHead_eq (h : g.WellLinked) (hid : g.contains id = true)
    (hstop : g.previous head = none) (hpath : g.Follows head id) : g.chainHead id = head := by
  rcases h.chainHead_spec hid with ⟨hstop', hpath'⟩
  have hunique : Relator.RightUnique (Steps g.previous) :=
    fun _ _ _ hx hy => Option.some.inj (hx.symm.trans hy)
  have hfirst : ∀ {x y : BlockId}, g.previous x = none →
      ReflTransGen (Steps g.previous) x y → x = y := by
    intro x y hnone hwalk
    rcases hwalk.cases_head with hsame | ⟨z, hstep, -⟩
    · exact hsame
    · exact absurd (hnone.symm.trans hstep) (by simp)
  rcases ReflTransGen.total_of_right_unique hunique (h.reaches_previous_iff.2 hpath')
    (h.reaches_previous_iff.2 hpath) with hwalk | hwalk
  · exact hfirst hstop' hwalk
  · exact (hfirst hstop hwalk).symm

/-- The slot around a block is the one whose chain the block is in. -/
theorem surroundParent_eq_some_iff (h : g.WellLinked) (hid : g.contains id = true) :
    g.surroundParent id = some (owner, slot) ↔ id ∈ g.slotChain owner slot := by
  rw [h.mem_slotChain_iff, surroundParent]
  constructor
  · intro hsome
    split at hsome
    · rename_i source name hparent
      rcases Prod.mk.inj (Option.some.inj hsome) with ⟨rfl, rfl⟩
      exact ⟨g.chainHead id, mem_links_of_parent hparent, (h.chainHead_spec hid).2⟩
    · simp at hsome
  · rintro ⟨head, hlink, hpath⟩
    have hparent : g.parent head = some (owner, .slot slot) := h.parent_eq_some_iff.2 hlink
    have hstop : g.previous head = none := by rw [previous, hparent]
    rw [h.chainHead_eq hid hstop hpath, hparent]

/-! ## One place for each block -/

/-- No block is in two slots. -/
theorem slotChain_unique {owner' : BlockId} {slot' : String} (h : g.WellLinked)
    (hmem : id ∈ g.slotChain owner slot) (hmem' : id ∈ g.slotChain owner' slot') :
    owner = owner' ∧ slot = slot' := by
  have hid := (h.present_of_leads (h.leads_of_mem_slotChain hmem)).1
  rw [← h.surroundParent_eq_some_iff hid] at hmem hmem'
  exact Prod.mk.inj (Option.some.inj (hmem.symm.trans hmem'))

/-- No block is in a chain twice. -/
theorem nodup_chainFrom (h : g.WellLinked) (head : BlockId) : (g.chainFrom head).Nodup :=
  walk_nodup h.next_acyclic

/-- No block is twice in a slot. -/
theorem nodup_slotChain (h : g.WellLinked) : (g.slotChain owner slot).Nodup := by
  unfold slotChain
  cases g.slotHead owner slot with
  | none => exact List.nodup_nil
  | some head => exact h.nodup_chainFrom head

/-! ## From the script -/

/-- A search from the top of a walk upwards finds its start after as many rows as the walk takes. -/
theorem mem_rows_of_orbit (h : g.WellLinked) {path : List BlockId} {n : Nat}
    (horbit : Orbit g.above id path) (hlast : path.getLast? = some root)
    (hn : path.length ≤ n + 1) : id ∈ rows g.targets n [root] := by
  induction horbit generalizing n with
  | last _ =>
    obtain rfl : _ = root := Option.some.inj hlast
    exact mem_rows_of_mem List.mem_cons_self
  | more hstep honward ih =>
    rcases honward.exists_cons with ⟨rest, rfl⟩
    rw [List.getLast?_cons_cons] at hlast
    cases n with
    | zero => simp at hn
    | succ n =>
      have hfound := ih hlast (Nat.le_of_succ_le_succ hn)
      exact mem_rows_succ hfound (mem_targets_iff.2 (h.above_eq_some_iff.1 hstep))

/-- The search from the script finds exactly what the script leads to. -/
theorem mem_reachable_iff (h : g.WellLinked) :
    id ∈ g.reachable ↔ ReflTransGen g.Leads root id := by
  constructor
  · intro hfound
    rcases mem_rows_leads hfound with ⟨start, hstart, hpath⟩
    rw [List.mem_singleton] at hstart
    subst hstart
    exact ReflTransGen.mono (fun _ _ hmem => mem_targets_iff.1 hmem) _ _ hpath
  · intro hpath
    have hid : g.contains id = true := by
      rcases hpath.cases_tail with rfl | ⟨x, _, hleads⟩
      · exact h.root_present
      · exact (h.leads_present hleads).2
    have htop := (h.rootOf_eq_root_iff hid).2 hpath
    have hlast := (h.rootOf_spec hid).1
    rw [htop] at hlast
    exact h.mem_rows_of_orbit (h.ancestry_orbit hid) hlast
      (Nat.le_succ_of_le (h.length_ancestry_le hid))

end WellLinked

end BlockGraph

end ShellComposer
