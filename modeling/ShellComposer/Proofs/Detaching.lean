import Mathlib.Data.List.TakeWhile
import ShellComposer.Proofs.GraphRuns
import ShellComposer.Proofs.TakenOut

/-!
# Blocks taken off

A block is taken off with the blocks that follow it, or alone.  Taken off with them, it cuts the
chain it was in to the blocks before it.  Taken off alone, it leaves the chain to the other blocks,
unless nothing is above it: then it stays as it is, also when blocks follow it.

Main results:

- Theorem `Sound.onward_cut`: what an outlet leads to after a block is taken off with those behind.
- Structures `CutOff` and `LeftAlone`: a block has been taken off, in one way or the other.
- Theorem `Sound.leftAlone_of_target`: a block has left alone when links lead over it.
- Theorems `Sound.cutOff_cut` and `Sound.leftAlone_unplug_iff`: when taking off comes to that.
- Theorem `detach_leaves`: what becomes of a graph that any calls led to.
-/

namespace ShellComposer

open BlockGraph

namespace BlockGraph

open Relation

variable {g g' : BlockGraph} {d id head owner source : BlockId} {outlet : Outlet} {slot : String}

/-! ## Links and chains after a cut -/

/-- An outlet that led to the block that is cut off leads nowhere; others lead where they did. -/
theorem Sound.target?_cut (h : g.Sound) :
    (g.cut d).target? id outlet = (g.target? id outlet).filter (· ≠ d) := by
  apply Option.ext
  intro target
  rw [cut, (h.dropIncoming d).target?_eq_some_iff, mem_links_dropIncoming,
    ← h.target?_eq_some_iff, Option.filter_eq_some_iff, decide_eq_true_iff]

/-- A walk that stops before a place passes what it passed before that place. -/
theorem walk_filter (step : BlockId → Option BlockId) (n : Nat) (hne : id ≠ d) :
    walk (fun a => (step a).filter (· ≠ d)) n id = (walk step n id).takeWhile (· ≠ d) := by
  induction n generalizing id with
  | zero => rfl
  | succ n ih =>
    rw [walk, walk, List.takeWhile_cons_of_pos (by simpa using hne)]
    cases step id with
    | none => rfl
    | some after =>
      by_cases hafter : after = d
      · subst hafter
        rw [Option.filter_some_neg (by simp)]
        cases n <;> simp [walk]
      · rw [Option.filter_some_pos (by simpa using hafter)]
        exact congrArg _ (ih hafter)

/-- From any other block a chain goes on up to the block that is cut off. -/
theorem Sound.chainFrom_cut (h : g.Sound) (hne : head ≠ d) :
    (g.cut d).chainFrom head = (g.chainFrom head).takeWhile (· ≠ d) := by
  have hnext : (g.cut d).next = fun a => (g.next a).filter (· ≠ d) := by
    funext a
    exact h.target?_cut
  rw [chainFrom, hnext]
  exact walk_filter g.next g.size hne

/-- What an outlet leads to along a chain, once a block is cut off: the same up to that block. -/
theorem Sound.onward_cut (h : g.Sound) (id : BlockId) (outlet : Outlet) :
    (g.cut d).onward id outlet = (g.onward id outlet).takeWhile (· ≠ d) := by
  unfold onward
  rw [h.target?_cut]
  cases hread : g.target? id outlet with
  | none => rfl
  | some first =>
    by_cases hfirst : first = d
    · subst hfirst
      have hpresent : g.contains first = true := (h.ends_present _ (mem_links_of_target? hread)).2
      rcases (h.chain_orbit hpresent).exists_cons with ⟨rest, hcons⟩
      rw [Option.filter_some_neg (by simp), chain, chain, hcons,
        List.takeWhile_cons_of_neg (by simp)]
    · rw [Option.filter_some_pos (by simpa using hfirst)]
      exact h.chainFrom_cut hfirst

/-! ## Chains from a block -/

/-- A block comes before those that its lower end leads to. -/
theorem Sound.chainFrom_eq_cons (h : g.Sound) (hhead : g.contains head = true) :
    g.chainFrom head = head :: g.onward head .next := by
  have horbit := h.chain_orbit hhead
  generalize g.chainFrom head = xs at horbit ⊢
  unfold onward
  cases horbit with
  | last hstop =>
    rw [next] at hstop
    rw [hstop, chain]
  | more hgo honward =>
    have hafter := h.chain_orbit (h.ends_present _ (mem_links_of_target? hgo)).2
    rw [next] at hgo
    rw [hgo, chain, honward.unique hafter]

/-- A block is not among those that it leads to. -/
theorem Sound.not_mem_onward_self (h : g.Sound) : d ∉ g.onward d outlet :=
  fun hmem => h.acyclic d (h.leads_of_mem_onward hmem)

/-! ## What has come of a block taken off -/

/-- Beside the chain that a block was in, a graph is as it was. -/
structure KeepsRest (id : BlockId) (g g' : BlockGraph) : Prop where
  /-- All blocks are there with their fields, and enabled or not as they were. -/
  blocks_eq : g'.blocks = g.blocks
  /-- The id for the next block is the same. -/
  nextId_eq : g'.nextId = g.nextId
  /-- The block holds what it held. -/
  contents_eq : ∀ slot, g'.slotChain id slot = g.slotChain id slot
  /-- Every slot around another chain holds what it held. -/
  other_slotChain_eq : ∀ owner slot, id ∉ g.slotChain owner slot →
    g'.slotChain owner slot = g.slotChain owner slot
  /-- Every stack that the block is not in is as it was, from whichever of its blocks on. -/
  other_stack_eq : ∀ head, g.contains head = true → id ∉ g.chainFrom head →
    g'.chainFrom head = g.chainFrom head

/-- A block has been taken off together with the blocks that follow it. -/
structure CutOff (id : BlockId) (g g' : BlockGraph) : Prop extends KeepsRest id g g' where
  /-- Nothing is above the block. -/
  parent_eq : g'.parent id = none
  /-- The same blocks follow it. -/
  following_eq : g'.chainFrom id = g.chainFrom id
  /-- A slot whose chain it was in holds the blocks before it. -/
  slotChain_eq : ∀ owner slot,
    g'.slotChain owner slot = (g.slotChain owner slot).takeWhile (· ≠ id)
  /-- A stack that it was in ends with the blocks before it. -/
  stack_eq : ∀ head, head ≠ id → g.contains head = true →
    g'.chainFrom head = (g.chainFrom head).takeWhile (· ≠ id)

/-- A block has been taken off alone. -/
structure LeftAlone (id : BlockId) (g g' : BlockGraph) : Prop extends KeepsRest id g g' where
  /-- Nothing is above the block. -/
  parent_eq : g'.parent id = none
  /-- No block follows it. -/
  next_eq : g'.next id = none
  /-- A slot whose chain it was in holds the other blocks of the chain. -/
  slotChain_eq : ∀ owner slot, g'.slotChain owner slot = (g.slotChain owner slot).filter (· ≠ id)
  /-- A stack that it was in goes on without it. -/
  stack_eq : ∀ head, head ≠ id → g.contains head = true →
    g'.chainFrom head = (g.chainFrom head).filter (· ≠ id)

/-- Nothing is cut from a list that does not have the block. -/
theorem takeWhile_ne_eq_self {xs : List BlockId} (hnot : d ∉ xs) :
    xs.takeWhile (· ≠ d) = xs := by
  rw [List.takeWhile_eq_self_iff]
  intro x hx
  simpa using ne_of_mem_of_not_mem hx hnot

/-- Nothing is filtered from a list that does not have the block. -/
theorem filter_ne_eq_self {xs : List BlockId} (hnot : d ∉ xs) : xs.filter (· ≠ d) = xs := by
  rw [List.filter_eq_self]
  intro x hx
  simpa using ne_of_mem_of_not_mem hx hnot

/-- The chain from a block has the block in it. -/
theorem Sound.mem_chainFrom_self (h : g.Sound) (hhead : g.contains head = true) :
    head ∈ g.chainFrom head := by
  rw [h.chainFrom_eq_cons hhead]
  exact List.mem_cons_self

/-- A block that is cut off leaves together with the blocks that follow it. -/
theorem Sound.cutOff_cut (h : g.Sound) (hid : g.contains id = true) :
    CutOff id g (g.cut id) where
  blocks_eq := rfl
  nextId_eq := rfl
  contents_eq := fun slot =>
    (h.onward_cut id (.slot slot)).trans (takeWhile_ne_eq_self h.not_mem_onward_self)
  other_slotChain_eq := fun owner slot hnot =>
    (h.onward_cut owner (.slot slot)).trans (takeWhile_ne_eq_self hnot)
  other_stack_eq := by
    intro head hhead hnot
    have hne : head ≠ id := ne_of_mem_of_not_mem (h.mem_chainFrom_self hhead) hnot
    rw [h.chainFrom_cut hne, takeWhile_ne_eq_self hnot]
  parent_eq := parent_dropIncoming_self
  following_eq := by
    have hcut := (h.dropIncoming id).chainFrom_eq_cons hid
    rw [← cut, h.onward_cut, takeWhile_ne_eq_self h.not_mem_onward_self] at hcut
    rw [hcut, h.chainFrom_eq_cons hid]
  slotChain_eq := fun owner slot => h.onward_cut owner (.slot slot)
  stack_eq := fun _ hne _ => h.chainFrom_cut hne

/-- A block that hangs nowhere and is followed by none has left alone, when every other outlet leads
where it led, or over the block. -/
theorem Sound.leftAlone_of_target (h : g.Sound) (h' : g'.Sound) (hblocks : g'.blocks = g.blocks)
    (hnextId : g'.nextId = g.nextId) (hloose : g'.parent id = none) (hlast : g'.next id = none)
    (htarget : ∀ a outlet, ¬(a = id ∧ outlet = .next) →
      g'.target? a outlet = g.skip id (g.target? a outlet)) : LeftAlone id g g' := by
  have honward : ∀ a outlet, ¬(a = id ∧ outlet = .next) →
      g'.onward a outlet = (g.onward a outlet).filter (· ≠ id) := by
    intro a outlet hother
    have hafter := h'.traces_onward a outlet
    rw [htarget a outlet hother] at hafter
    refine hafter.unique (h.traces_skip (h.traces_onward a outlet) fun b _ hne => ?_)
    exact htarget b .next fun hboth => hne hboth.1
  have hslot : ∀ owner slot, g'.slotChain owner slot = (g.slotChain owner slot).filter (· ≠ id) :=
    fun owner slot => honward owner (.slot slot) (by simp)
  have hstack : ∀ head, head ≠ id → g.contains head = true →
      g'.chainFrom head = (g.chainFrom head).filter (· ≠ id) := by
    intro head hne hhead
    have hhead' : g'.contains head = true := by rwa [contains, hblocks]
    rw [h'.chainFrom_eq_cons hhead', h.chainFrom_eq_cons hhead,
      List.filter_cons_of_pos (by simpa using hne), honward head .next fun hboth => hne hboth.1]
  refine ⟨⟨hblocks, hnextId, fun slot => ?_, fun owner slot hnot => ?_, fun head hhead hnot => ?_⟩,
    hloose, hlast, hslot, hstack⟩
  · exact (hslot id slot).trans (filter_ne_eq_self h.not_mem_onward_self)
  · exact (hslot owner slot).trans (filter_ne_eq_self hnot)
  · have hne : head ≠ id := ne_of_mem_of_not_mem (h.mem_chainFrom_self hhead) hnot
    rw [hstack head hne hhead, filter_ne_eq_self hnot]

/-- A block that is taken out of its place leaves alone. -/
theorem Sound.leftAlone_unplug (h : g.Sound) (hheld : ⟨source, outlet, id⟩ ∈ g.links) :
    LeftAlone id g (g.unplug id) :=
  have hloose := h.loose_unplug hheld
  h.leftAlone_of_target (h.unplug id) (g.blocks_unplug id) (g.nextId_unplug id) hloose.1 hloose.2
    fun _ _ hother => h.target?_unplug hheld hother

/-- A block that hangs nowhere and is followed by none is alone already. -/
theorem Sound.leftAlone_self (h : g.Sound) (hloose : g.parent id = none)
    (hlast : g.next id = none) : LeftAlone id g g :=
  h.leftAlone_of_target h rfl rfl hloose hlast
    fun a outlet _ => (skip_of_loose hloose g a outlet).symm

/-- A block leaves alone exactly when something is above it or no block follows it.  With nothing
above it and a block behind, it stays where it is. -/
theorem Sound.leftAlone_unplug_iff (h : g.Sound) :
    LeftAlone id g (g.unplug id) ↔ (g.parent id = none → g.next id = none) := by
  constructor
  · intro halone hloose
    have hnext := halone.next_eq
    rwa [unplug_eq_self hloose] at hnext
  · intro hlast
    cases hparent : g.parent id with
    | some place => exact h.leftAlone_unplug (mem_links_of_parent hparent)
    | none =>
      rw [unplug_eq_self hparent]
      exact h.leftAlone_self hparent (hlast hparent)

end BlockGraph

/-! ## After any calls -/

/-- Whatever calls came before, every block but the script can be taken off.  Together with the
blocks that follow, it cuts its chain to the blocks before it.  Alone, it leaves its chain to the
other blocks, exactly when something is above it or no block follows it; a block with nothing above
it stays as it is, with those that follow. -/
theorem detach_leaves (calls : List GraphCall) (id : BlockId)
    (hid : (afterCalls calls).contains id = true) (hne : id ≠ root) :
    (∃ g', (afterCalls calls).detach id false = .ok g' ∧ CutOff id (afterCalls calls) g') ∧
      ∃ g', (afterCalls calls).detach id true = .ok g' ∧
        (LeftAlone id (afterCalls calls) g' ↔
          ((afterCalls calls).parent id = none → (afterCalls calls).next id = none)) ∧
        ((afterCalls calls).parent id = none → g' = afterCalls calls) := by
  have hsound : (afterCalls calls).Sound := BlockGraph.sound_new.foldl_after calls
  constructor
  · exact ⟨_, detach_eq_ok_iff.2 ⟨hne, hid, rfl⟩, hsound.cutOff_cut hid⟩
  · exact ⟨_, detach_eq_ok_iff.2 ⟨hne, hid, rfl⟩, hsound.leftAlone_unplug_iff,
      unplug_eq_self⟩

/-- Three options of a command, one behind the other, and nothing above them. -/
def looseOptions : List GraphCall :=
  [.insert (.option "ls") [] [], .insert (.option "ls") [] [], .insert (.option "ls") [] [],
    .insertAfter 1 2, .insertAfter 2 3]

/-- The option in the middle leaves the other two. -/
theorem looseOptions_middle_leaves :
    (afterCalls looseOptions).contains 2 = true ∧ (2 : BlockId) ≠ root ∧
      ∃ g', (afterCalls looseOptions).detach 2 true = .ok g' ∧
        LeftAlone 2 (afterCalls looseOptions) g' ∧ g'.chainFrom 1 = [1, 3] := by
  have hid : (afterCalls looseOptions).contains 2 = true := by decide +kernel
  have hheld : (afterCalls looseOptions).parent 2 = some (1, .next) := by decide +kernel
  have hchain : (afterCalls looseOptions).chainFrom 1 = [1, 2, 3] := by decide +kernel
  rcases (detach_leaves looseOptions 2 hid (by decide)).2 with ⟨g', hdetach, halone, -⟩
  have hleft : LeftAlone 2 (afterCalls looseOptions) g' := halone.2 (by simp [hheld])
  refine ⟨hid, by decide, g', hdetach, hleft, ?_⟩
  rw [hleft.stack_eq 1 (by decide) (by decide +kernel), hchain]
  decide

/-- The first option does not leave: the other two still follow it. -/
theorem looseOptions_first_stays :
    (afterCalls looseOptions).contains 1 = true ∧ (1 : BlockId) ≠ root ∧
      ¬ ∃ g', (afterCalls looseOptions).detach 1 true = .ok g' ∧
        LeftAlone 1 (afterCalls looseOptions) g' := by
  refine ⟨by decide +kernel, by decide, ?_⟩
  rintro ⟨g', hdetach, hleft⟩
  have hloose : (afterCalls looseOptions).parent 1 = none := by decide +kernel
  have hfollowed : (afterCalls looseOptions).next 1 = some 2 := by decide +kernel
  rcases detach_eq_ok_iff.1 hdetach with ⟨-, -, hunplug⟩
  rw [if_pos rfl, unplug_eq_self hloose] at hunplug
  have hnext := hleft.next_eq
  rw [← hunplug, hfollowed] at hnext
  exact absurd hnext (by simp)

end ShellComposer
