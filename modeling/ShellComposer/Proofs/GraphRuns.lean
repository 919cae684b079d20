import ShellComposer.Proofs.Repairing

/-!
# Runs of calls on a block graph

A block graph starts with the script alone and is then changed by calls, some of which are refused.
Whatever the calls are, the graph stays well-linked: every call that succeeds leaves a sound graph,
and a call that is refused leaves the graph as it is.  Repairs are never refused.

Main results:

- Inductive type `GraphCall` with `GraphCall.run`: the calls and what they answer.
- Theorem `Sound.of_run`: a call that succeeds leaves a sound graph.
- Theorem `afterCalls_wellLinked`: so does every run of calls.
- Theorem `Sound.nextId_le_foldl_after`: no run of calls hands out an id a second time.
-/

namespace ShellComposer

open BlockGraph

/-- A call on a block graph. -/
inductive GraphCall where
  | insert (kind : BlockKind) (slots : List Slot) (fields : List (String × String))
  | setField (id : BlockId) (name value : String)
  | attach (parent : BlockId) (slot : String) (child : BlockId)
  | insertAfter (previous child : BlockId)
  | detach (id : BlockId) (heal : Bool)
  | remove (id : BlockId)
  | refresh
  | repair (catalog : Catalog)

namespace GraphCall

/-- What a call makes of a graph, or why it is refused. -/
def run (g : BlockGraph) : GraphCall → Except Fault BlockGraph
  | insert kind slots fields => .ok (g.insert kind slots fields).2
  | setField id name value => g.setField id name value
  | attach parent slot child => g.attach parent slot child
  | insertAfter previous child => g.insertAfter previous child
  | detach id heal => g.detach id heal
  | remove id => (g.remove id).map Prod.snd
  | refresh => .ok g.refresh.2
  | repair catalog => (repairAll catalog g).map Repaired.graph

/-- The graph after a call; a call that is refused leaves the graph as it is. -/
def after (g : BlockGraph) (call : GraphCall) : BlockGraph :=
  match call.run g with
  | .ok g' => g'
  | .error _ => g

end GraphCall

/-- The graph after a run of calls, starting from the script alone. -/
def BlockGraph.afterCalls (calls : List GraphCall) : BlockGraph :=
  calls.foldl GraphCall.after .new

variable {g g' : BlockGraph}

/-- At first there is nothing but the script. -/
theorem BlockGraph.get?_new_eq_some {id : BlockId} {block : Block}
    (h : BlockGraph.new.get? id = some block) :
    id = root ∧ block = ⟨.script, [], scriptSlots, true⟩ := by
  by_cases hroot : id = root
  · subst hroot
    exact ⟨rfl, (Option.some.inj h).symm⟩
  · have hnone : BlockGraph.new.get? id = none := IdMap.get?_insert_ne .empty hroot _
    exact absurd (hnone.symm.trans h) (by simp)

/-- The script alone makes up a sound graph. -/
theorem BlockGraph.sound_new : BlockGraph.new.Sound where
  root_present := rfl
  root_unheld := fun _ hlink => absurd hlink List.not_mem_nil
  one_incoming := List.nodup_nil
  one_outgoing := List.nodup_nil
  ends_present := fun _ hlink => absurd hlink List.not_mem_nil
  acyclic := by
    intro id hcycle
    rcases Relation.TransGen.head'_iff.1 hcycle with ⟨b, ⟨_, hmem⟩, _⟩
    exact absurd hmem List.not_mem_nil
  fits := fun _ hlink => absurd hlink List.not_mem_nil
  handed_out := by
    intro id hid
    rcases contains_iff.1 hid with ⟨block, hblock⟩
    rcases get?_new_eq_some hblock with ⟨rfl, -⟩
    exact Nat.zero_lt_one

/-- A call that succeeds leaves a sound graph. -/
theorem BlockGraph.Sound.of_run {call : GraphCall} (h : g.Sound) (hrun : call.run g = .ok g') :
    g'.Sound := by
  cases call with
  | insert kind slots fields =>
    obtain rfl := Except.ok.inj hrun
    exact h.insert kind slots fields
  | setField id name value => exact h.setField hrun
  | attach parent slot child => exact h.attach hrun
  | insertAfter previous child => exact h.insertAfter hrun
  | detach id heal => exact h.detach hrun
  | remove id =>
    rcases Fault.map_eq_ok_iff.1 hrun with ⟨⟨doomed, g''⟩, hremove, rfl⟩
    exact h.remove hremove
  | refresh =>
    obtain rfl := Except.ok.inj hrun
    exact h.refresh
  | repair catalog =>
    rcases Fault.map_eq_ok_iff.1 hrun with ⟨done, hrepair, rfl⟩
    exact h.of_repairAll hrepair

/-- A call leaves a sound graph, whether it succeeds or is refused. -/
theorem BlockGraph.Sound.after (h : g.Sound) (call : GraphCall) : (call.after g).Sound := by
  rw [GraphCall.after]
  split
  · rename_i g' hrun
    exact h.of_run hrun
  · exact h

/-- Calls leave a sound graph, one after the other. -/
theorem BlockGraph.Sound.foldl_after (h : g.Sound) (calls : List GraphCall) :
    (calls.foldl GraphCall.after g).Sound := by
  induction calls generalizing g with
  | nil => exact h
  | cons call rest ih => exact ih (h.after call)

/-- A call that succeeds hands out a new id or none. -/
theorem BlockGraph.Sound.nextId_le_of_run {call : GraphCall} (h : g.Sound)
    (hrun : call.run g = .ok g') : g.nextId ≤ g'.nextId := by
  cases call with
  | insert kind slots fields =>
    obtain rfl := Except.ok.inj hrun
    exact Nat.le_succ g.nextId
  | setField id name value =>
    rcases setField_eq_ok hrun with ⟨block, -, rfl⟩
    exact Nat.le_refl _
  | attach parent slot child =>
    rcases attach_eq_ok_iff.1 hrun with ⟨-, -, -, -, rfl⟩
    exact Nat.le_of_eq (nextId_plug (g.cut child) _ _ _).symm
  | insertAfter previous child =>
    rcases insertAfter_eq_ok_iff.1 hrun with ⟨-, -, -, -, rfl⟩
    exact Nat.le_of_eq (nextId_plug (g.cut child) _ _ _).symm
  | detach id heal =>
    rcases detach_eq_ok_iff.1 hrun with ⟨-, -, rfl⟩
    split
    · exact Nat.le_of_eq (nextId_unplug _ _).symm
    · exact Nat.le_refl _
  | remove id =>
    rcases Fault.map_eq_ok_iff.1 hrun with ⟨⟨doomed, g''⟩, hremove, rfl⟩
    rcases remove_eq_ok_iff.1 hremove with ⟨-, -, -, rfl⟩
    exact Nat.le_of_eq (nextId_unplug _ _).symm
  | refresh =>
    obtain rfl := Except.ok.inj hrun
    exact Nat.le_refl _
  | repair catalog =>
    rcases Fault.map_eq_ok_iff.1 hrun with ⟨done, hrepair, rfl⟩
    rcases repairAll_succeeds h catalog with ⟨done', taken, hrepair', hoff⟩
    obtain rfl : done = done' := Except.ok.inj (hrepair.symm.trans hrepair')
    exact Nat.le_of_eq hoff.nextId_eq.symm

/-- No call gives back an id that was given out. -/
theorem BlockGraph.Sound.nextId_le_after (h : g.Sound) (call : GraphCall) :
    g.nextId ≤ (call.after g).nextId := by
  rw [GraphCall.after]
  split
  · rename_i g' hrun
    exact h.nextId_le_of_run hrun
  · exact Nat.le_refl _

/-- No run of calls hands out an id a second time. -/
theorem BlockGraph.Sound.nextId_le_foldl_after (h : g.Sound) (calls : List GraphCall) :
    g.nextId ≤ (calls.foldl GraphCall.after g).nextId := by
  induction calls generalizing g with
  | nil => exact Nat.le_refl _
  | cons call rest ih => exact Nat.le_trans (h.nextId_le_after call) (ih (h.after call))

/-- Whatever calls are made, and whether they succeed or are refused, the graph is well-linked, and
the repairs of any catalog succeed on it. -/
theorem afterCalls_wellLinked (calls : List GraphCall) :
    (afterCalls calls).WellLinked ∧
      ∀ catalog, ∃ done, repairAll catalog (afterCalls calls) = .ok done := by
  have hsound : (afterCalls calls).Sound := sound_new.foldl_after calls
  refine ⟨hsound.toWellLinked, fun catalog => ?_⟩
  rcases repairAll_succeeds hsound catalog with ⟨done, _, hrun, _⟩
  exact ⟨done, hrun⟩

end ShellComposer
