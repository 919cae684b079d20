import ShellComposer.Proofs.Moving

/-!
# Blocks put in and taken out again

A single loose block that is plugged in somewhere pushes a chain of any length behind itself.  When
it is taken out again, the chain goes back to the outlet where it was, and so every link is as it
was before.

Main results:

- Theorem `Pluggable.target?_unplug_plug`: where links lead once a block has been put in and taken
  out.
- Structure `Restored` and theorem `Sound.restored_of_target`: a graph is known by where its links
  lead.
- Theorem `detach_restores`: taking a block out undoes plugging it in.
-/

namespace ShellComposer

open BlockGraph

namespace BlockGraph

open Relation

variable {g g' : BlockGraph} {a id child previous owner : BlockId} {outlet outlet' : Outlet}
variable {slot : String}

/-! ## Where links lead -/

/-- A block that none follows is the end of its stack. -/
theorem Pluggable.stackTail_eq (p : g.Pluggable id outlet child) (hlast : g.next child = none) :
    g.stackTail child = child := by
  rcases (p.sound.stackTail_spec p.contains_child).2.cases_head with heq | ⟨after, hstep, -⟩
  · exact heq.symm
  · exact absurd (hlast.symm.trans hstep) (Option.some_ne_none after).symm

/-- When a single block has been put in and taken out again, every outlet leads where it led. -/
theorem Pluggable.target?_unplug_plug (p : g.Pluggable id outlet child)
    (hlast : g.next child = none) :
    ((g.plug id outlet child).unplug child).target? a outlet' = g.target? a outlet' := by
  have hheld : ⟨id, outlet, child⟩ ∈ (g.plug id outlet child).links :=
    mem_links_of_target? p.target?_plug_self
  have hbehind : (g.plug id outlet child).next child = g.target? id outlet := by
    have hend := p.target?_plug_tail
    rwa [p.stackTail_eq hlast] at hend
  by_cases hown : a = child ∧ outlet' = .next
  · rcases hown with ⟨rfl, rfl⟩
    exact (p.sound_plug.loose_unplug hheld).2.trans hlast.symm
  · rw [p.sound_plug.target?_unplug hheld hown, p.target?_plug, p.stackTail_eq hlast]
    by_cases hplace : id = a ∧ outlet = outlet'
    · -- the outlet led to the block, and now leads to what was behind the block
      rw [if_pos hplace, skip, if_pos rfl, hbehind, hplace.1, hplace.2]
    · rw [if_neg hplace, if_neg fun hboth => hown ⟨hboth.1.symm, hboth.2.symm⟩]
      exact skip_of_loose p.loose _ a outlet'

/-! ## Graphs with the same links -/

/-- A graph is again as another one was. -/
structure Restored (g g' : BlockGraph) : Prop where
  /-- All blocks are there with their fields, and enabled or not as they were. -/
  blocks_eq : g'.blocks = g.blocks
  /-- The id for the next block is the same. -/
  nextId_eq : g'.nextId = g.nextId
  /-- The same links are there. -/
  mem_links_iff : ∀ link, link ∈ g'.links ↔ link ∈ g.links
  /-- Every block hangs where it hung. -/
  parent_eq : ∀ id, g'.parent id = g.parent id
  /-- Every slot and every lower end leads where it led. -/
  target?_eq : ∀ id outlet, g'.target? id outlet = g.target? id outlet
  /-- The same blocks follow every block. -/
  chainFrom_eq : ∀ head, g'.chainFrom head = g.chainFrom head
  /-- Every slot holds what it held. -/
  slotChain_eq : ∀ owner slot, g'.slotChain owner slot = g.slotChain owner slot

/-- A sound graph is known by its blocks and by where its links lead. -/
theorem Sound.restored_of_target (h : g.Sound) (h' : g'.Sound) (hblocks : g'.blocks = g.blocks)
    (hnext : g'.nextId = g.nextId)
    (htarget : ∀ id outlet, g'.target? id outlet = g.target? id outlet) : Restored g g' := by
  have hlinks : ∀ link, link ∈ g'.links ↔ link ∈ g.links := fun ⟨source, outlet, target⟩ => by
    rw [← h.target?_eq_some_iff, ← h'.target?_eq_some_iff, htarget]
  have hchain : ∀ head, g'.chainFrom head = g.chainFrom head := by
    intro head
    have hnexts : g'.next = g.next := funext fun id => htarget id .next
    rw [chainFrom, chainFrom, hnexts, size, size, hblocks]
  refine ⟨hblocks, hnext, hlinks, fun id => ?_, htarget, hchain, fun owner slot => ?_⟩
  · apply Option.ext
    rintro ⟨source, outlet⟩
    rw [h.parent_eq_some_iff, h'.parent_eq_some_iff, hlinks]
  · unfold slotChain slotHead
    rw [htarget]
    cases g.target? owner (.slot slot) with
    | none => rfl
    | some head => exact hchain head

/-- A single loose block that moves somewhere can be taken out again, and then all is as it was. -/
theorem Sound.restored_unplug (h : g.Sound) (hne : child ≠ root) (hchild : g.contains child = true)
    (hfits : g.Fits ⟨id, outlet, child⟩) (houtside : g.isAncestor child id = false)
    (hloose : g.parent child = none) (hlast : g.next child = none) :
    ∃ g'', ((g.cut child).plug id outlet child).detach child true = .ok g'' ∧ Restored g g'' := by
  have p := h.pluggable_cut hne hfits houtside
  rw [cut, dropIncoming_eq_self hloose] at p ⊢
  have hthere : (g.plug id outlet child).contains child = true := by
    rwa [contains, blocks_plug]
  refine ⟨_, detach_eq_ok_iff.2 ⟨hne, hthere, rfl⟩, ?_⟩
  rw [if_pos rfl]
  refine h.restored_of_target (p.sound_plug.unplug child) ?_ ?_ fun a from' =>
    p.target?_unplug_plug hlast
  · rw [blocks_unplug, blocks_plug]
  · rw [nextId_unplug, nextId_plug]

end BlockGraph

/-! ## After any calls -/

/-- Whatever calls came before, a block with nothing above it and none behind it may be plugged into
a slot or put behind another block; when it is taken out again, all is as it was. -/
theorem detach_restores (calls : List GraphCall) (child : BlockId)
    (hloose : (afterCalls calls).parent child = none)
    (hlast : (afterCalls calls).next child = none) :
    (∀ owner slot g', (afterCalls calls).attach owner slot child = .ok g' →
      ∃ g'', g'.detach child true = .ok g'' ∧ Restored (afterCalls calls) g'') ∧
    ∀ previous g', (afterCalls calls).insertAfter previous child = .ok g' →
      ∃ g'', g'.detach child true = .ok g'' ∧ Restored (afterCalls calls) g'' := by
  have hsound : (afterCalls calls).Sound := BlockGraph.sound_new.foldl_after calls
  constructor
  · intro owner slot g' hattach
    rcases attach_eq_ok_iff.1 hattach with ⟨hne, hchild, hfits, houtside, rfl⟩
    exact hsound.restored_unplug hne hchild hfits houtside hloose hlast
  · intro previous g' hinsert
    rcases insertAfter_eq_ok_iff.1 hinsert with ⟨hne, hchild, hfits, houtside, rfl⟩
    exact hsound.restored_unplug hne hchild hfits houtside hloose hlast

/-- Two commands of the script, and a loose one that holds an option. -/
def spareCommand : List GraphCall :=
  [.insert (.command "ls") [] [], .insert (.command "ls") [⟨optionsSlot, .option "ls"⟩] [],
    .insert (.option "ls") [] [], .insert (.command "ls") [] [], .attach 2 optionsSlot 3,
    .attach root stackSlot 1, .insertAfter 1 4]

/-- The loose command goes before the others or between them, and leaves no trace. -/
theorem spareCommand_restored :
    (afterCalls spareCommand).parent 2 = none ∧ (afterCalls spareCommand).next 2 = none ∧
      (∃ g' g'', (afterCalls spareCommand).attach root stackSlot 2 = .ok g' ∧
        g'.slotChain root stackSlot = [2, 1, 4] ∧ g'.detach 2 true = .ok g'' ∧
        Restored (afterCalls spareCommand) g'') ∧
      ∃ g' g'', (afterCalls spareCommand).insertAfter 1 2 = .ok g' ∧
        g'.slotChain root stackSlot = [1, 2, 4] ∧ g'.detach 2 true = .ok g'' ∧
        Restored (afterCalls spareCommand) g'' := by
  have hloose : (afterCalls spareCommand).parent 2 = none := by decide +kernel
  have hlast : (afterCalls spareCommand).next 2 = none := by decide +kernel
  refine ⟨hloose, hlast, ?_, ?_⟩
  · have hrun : ((afterCalls spareCommand).attach root stackSlot 2).map
        (fun g => g.slotChain root stackSlot) = .ok [2, 1, 4] := by decide +kernel
    rcases Fault.map_eq_ok_iff.1 hrun with ⟨g', hattach, hchain⟩
    rcases (detach_restores spareCommand 2 hloose hlast).1 _ _ g' hattach with ⟨g'', hdetach, hsame⟩
    exact ⟨g', g'', hattach, hchain, hdetach, hsame⟩
  · have hrun : ((afterCalls spareCommand).insertAfter 1 2).map
        (fun g => g.slotChain root stackSlot) = .ok [1, 2, 4] := by decide +kernel
    rcases Fault.map_eq_ok_iff.1 hrun with ⟨g', hinsert, hchain⟩
    rcases (detach_restores spareCommand 2 hloose hlast).2 _ g' hinsert with ⟨g'', hdetach, hsame⟩
    exact ⟨g', g'', hinsert, hchain, hdetach, hsame⟩

end ShellComposer
