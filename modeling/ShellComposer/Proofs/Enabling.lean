import ShellComposer.Proofs.GraphRuns
import ShellComposer.Proofs.SameScript
import ShellComposer.Proofs.Searching
import ShellComposer.Proofs.TakenOut

/-!
# Enabling the blocks of the script

A block is part of the script when the way up from it ends at the script.  Enabling does not go up
from every block: it goes down once from the script, along all links, with a queue that lets no
block in twice.  It finds the same blocks, whichever blocks were enabled before.

Main results:

- Theorems `WellLinked.ends_reachable` and `WellLinked.mem_reachable_iff_rootOf`: the way down finds
  what the way up says.
- Definition `flagged`: a graph with any blocks enabled.
- Theorem `refresh_fst_eq`: the number that enabling answers.
- Structure `Enabling` and theorem `refresh_enables`: what becomes of a graph that any calls led to,
  with any blocks enabled.
-/

namespace ShellComposer

open BlockGraph Relation

namespace BlockGraph

variable {g : BlockGraph} {id : BlockId}

/-! ## Down and up -/

/-- Links lead to each block from one block only, and to the script from none. -/
theorem WellLinked.branches_targets (h : g.WellLinked) : Branches g.targets root where
  nodup := fun _ => h.one_incoming.sublist (List.filter_sublist.map _)
  unique := fun ha hb => h.leads_unique (mem_targets_iff.1 ha) (mem_targets_iff.1 hb)
  first_free := fun _ hmem => h.not_leads_root (mem_targets_iff.1 hmem)

/-- A queue from the script comes to an end. -/
theorem WellLinked.ends_reachable (h : g.WellLinked) :
    Search.Ends (Search.readNew g.targets) root g.reachable := by
  have hpresent : ∀ a b, b ∈ g.targets a → b ∈ g.ids := fun _ _ hmem =>
    mem_ids_iff.2 (h.leads_present (mem_targets_iff.1 hmem)).2
  have hends := h.branches_targets.ends_rows (mem_ids_iff.2 h.root_present) hpresent
    (Nat.le_of_eq length_ids)
  exact h.branches_targets.ends_readNew hends

/-- The way down from the script finds the blocks from which the way up ends there. -/
theorem WellLinked.mem_reachable_iff_rootOf (h : g.WellLinked) :
    id ∈ g.reachable ↔ g.contains id = true ∧ g.rootOf id = root := by
  rw [h.mem_reachable_iff]
  constructor
  · intro hpath
    have hid : g.contains id = true := by
      rcases hpath.cases_tail with rfl | ⟨before, -, hleads⟩
      · exact h.root_present
      · exact (h.leads_present hleads).2
    exact ⟨hid, (h.rootOf_eq_root_iff hid).2 hpath⟩
  · rintro ⟨hid, htop⟩
    exact (h.rootOf_eq_root_iff hid).1 htop

/-! ## Any blocks enabled -/

/-- The graph with the blocks enabled that are flagged. -/
def flagged (g : BlockGraph) (flags : BlockId → Bool) : BlockGraph :=
  { g with blocks := g.blocks.mapValues fun id block => { block with enabled := flags id } }

/-- Flagging changes nothing of a block but whether it is enabled. -/
theorem get?_flagged (g : BlockGraph) (flags : BlockId → Bool) (id : BlockId) :
    (g.flagged flags).get? id = (g.get? id).map fun block => { block with enabled := flags id } :=
  IdMap.get?_mapValues _ _ _

/-- With the blocks enabled that were, a graph is as it was.  So what is said of all flags is said
of the graph as it is. -/
theorem flagged_isEnabled (g : BlockGraph) : g.flagged g.isEnabled = g := by
  have hblocks : (g.flagged g.isEnabled).blocks = g.blocks := by
    refine IdMap.eq_of_get? fun id => (get?_flagged g g.isEnabled id).trans ?_
    cases hblock : g.get? id with
    | none => exact hblock.symm
    | some block =>
      rw [Option.map_some, isEnabled_eq hblock]
      exact hblock.symm
  exact congrArg (BlockGraph.mk · g.links g.nextId) hblocks

/-- A graph stays sound whatever flags are set. -/
theorem Sound.flagged (h : g.Sound) (flags : BlockId → Bool) : (g.flagged flags).Sound := by
  have hshape : ∀ id, (g.flagged flags).shape? id = g.shape? id := by
    intro id
    rw [shape?, shape?, get?_flagged, Option.map_map]
    rfl
  refine h.write rfl (fun id _ => hshape id) fun id hid => ?_
  rw [contains_congr (hshape id)] at hid
  exact h.handed_out id hid

/-! ## What enabling does -/

/-- The number that enabling answers is that of the blocks that change. -/
theorem refresh_fst_eq (g : BlockGraph) :
    g.refresh.1 = (g.ids.filter fun id => g.isEnabled id != g.refresh.2.isEnabled id).length := by
  rw [ids, IdMap.keys, List.filter_map, List.length_map]
  refine congrArg List.length (List.filter_congr fun entry hentry => ?_)
  have hblock : g.get? entry.1 = some entry.2 := (g.blocks.mem_entries_iff _ _).1 hentry
  have hafter := get?_refresh g entry.1
  rw [hblock, Option.map_some] at hafter
  rw [Function.comp_apply, isEnabled_eq hblock, isEnabled_eq hafter]

/-- After enabling, the blocks found on the way down are enabled. -/
theorem Sound.isEnabled_refresh_iff (h : g.Sound) :
    g.refresh.2.isEnabled id = true ↔ id ∈ g.reachable := by
  rw [isEnabled, get?_refresh]
  cases hblock : g.get? id with
  | none =>
    refine iff_of_false Bool.false_ne_true fun hmem => ?_
    rcases contains_iff.1 (h.mem_reachable_iff_rootOf.1 hmem).1 with ⟨block, hsome⟩
    exact absurd (hblock.symm.trans hsome) (Option.some_ne_none block).symm
  | some block => exact List.contains_iff_mem

/-- Enabling enables the right blocks. -/
theorem Sound.marked_refresh (h : g.Sound) : g.refresh.2.Marked where
  toSound := h.refresh
  enabled_iff := fun _ => h.isEnabled_refresh_iff.trans h.mem_reachable_iff

/-- What becomes of a graph when the blocks of the script are enabled and the others disabled, and
how many blocks change. -/
structure Enabling (g : BlockGraph) (changed : Nat) (g' : BlockGraph) : Prop where
  /-- A block is enabled exactly when the way up from it ends at the script. -/
  enabled_iff : ∀ id, g.contains id = true → (g'.isEnabled id = true ↔ g.rootOf id = root)
  /-- The blocks are counted that were enabled and are disabled now, or the other way round. -/
  changed_eq : changed = (g.ids.filter fun id => g.isEnabled id != g'.isEnabled id).length
  /-- All blocks are there with their kinds, fields and slots. -/
  content_eq : ∀ id, g'.content? id = g.content? id
  /-- The links are the same. -/
  links_eq : g'.links = g.links
  /-- The id for the next block is the same. -/
  nextId_eq : g'.nextId = g.nextId
  /-- Enabling once more changes no block. -/
  again_eq : g'.refresh = (0, g')
  /-- The queue on the way down from the script comes to an end. -/
  down_ends : Search.Ends (Search.readNew g.targets) root g.reachable
  /-- The way up from a block goes on until nothing is above. -/
  up_ends : ∀ id, g.contains id = true → Orbit g.above id (g.ancestry id)
  /-- The way down finds the blocks from which the way up ends at the script. -/
  down_iff_up : ∀ id, id ∈ g.reachable ↔ g.contains id = true ∧ g.rootOf id = root

/-- A refresh enables what hangs from the script block, disables the rest and counts the changes. -/
theorem Sound.enabling (h : g.Sound) : Enabling g g.refresh.1 g.refresh.2 where
  enabled_iff := by
    intro id hid
    rw [h.isEnabled_refresh_iff, h.mem_reachable_iff_rootOf, and_iff_right hid]
  changed_eq := g.refresh_fst_eq
  content_eq := content?_refresh g
  links_eq := rfl
  nextId_eq := rfl
  again_eq := by
    have hsame := h.marked_refresh.refresh_eq
    refine Prod.ext ?_ hsame
    rw [refresh_fst_eq, hsame]
    simp
  down_ends := h.ends_reachable
  up_ends := fun _ hid => h.ancestry_orbit hid
  down_iff_up := fun _ => h.mem_reachable_iff_rootOf

end BlockGraph

/-! ## After any calls -/

/-- Whatever calls came before, and whichever blocks are enabled, enabling leaves exactly the blocks
enabled from which the way up ends at the script.  It counts the blocks that change, and leaves all
else as it is. -/
theorem refresh_enables (calls : List GraphCall) (flags : BlockId → Bool) :
    Enabling ((afterCalls calls).flagged flags) ((afterCalls calls).flagged flags).refresh.1
      ((afterCalls calls).flagged flags).refresh.2 := by
  have hsound : (afterCalls calls).Sound := BlockGraph.sound_new.foldl_after calls
  exact (hsound.flagged flags).enabling

end ShellComposer
