import ShellComposer.Block.Turns
import ShellComposer.Proofs.GraphRuns

/-!
# Finding the way in a block graph

Some questions about a graph are answered by going up, along the one link that enters a block, and
others by going down, along the links that leave it.  After any history of edits both ways agree,
because links are one-to-one and never lead in a circle.  For the same reason every walk comes to an
end by itself: a loop that follows the links turn by turn goes on at most as often as there are
blocks, and stops with the answer.

Main results:

- Inductive relation `Loops`: a loop goes on for some turns and stops with a result.
- Theorem `Orbit.loops`: a walk that passes an orbit, as a loop.
- Structure `BlockGraph.Navigable` and theorem `afterCalls_navigable`: after any run of calls all
  ways through the graph agree, and all of them end.
-/

namespace ShellComposer

/-! ## Loops -/

section Loops

variable {σ ρ : Type} {turn : σ → LoopTurn σ ρ} {state : σ} {result : ρ} {n : Nat}

/-- A loop that starts in a state goes on for so many turns and then stops with a result. -/
inductive Loops (turn : σ → LoopTurn σ ρ) : σ → Nat → ρ → Prop where
  | stop {state : σ} {result : ρ} (h : turn state = .stop result) : Loops turn state 0 result
  | goOn {state after : σ} {n : Nat} {result : ρ} (h : turn state = .goOn after)
      (onward : Loops turn after n result) : Loops turn state (n + 1) result

/-- A loop stops at one time only, with one result. -/
theorem Loops.unique {n' : Nat} {result' : ρ} (h : Loops turn state n result)
    (h' : Loops turn state n' result') : n = n' ∧ result = result' := by
  induction h generalizing n' with
  | stop hstop =>
    cases h' with
    | stop hstop' => exact ⟨rfl, LoopTurn.stop.inj (hstop.symm.trans hstop')⟩
    | goOn hgo _ => exact absurd (hstop.symm.trans hgo) (by simp)
  | goOn hgo _ ih =>
    cases h' with
    | stop hstop => exact absurd (hstop.symm.trans hgo) (by simp)
    | goOn hgo' onward' =>
      obtain rfl := LoopTurn.goOn.inj (hgo.symm.trans hgo')
      rcases ih onward' with ⟨rfl, rfl⟩
      exact ⟨rfl, rfl⟩

end Loops

namespace BlockGraph

open Relation

variable {g : BlockGraph} {step : BlockId → Option BlockId} {a b id : BlockId}
variable {xs : List BlockId} {ρ : Type}

/-- A loop that takes the steps of an orbit goes on until it has met the last block. -/
theorem Orbit.loops {turn : BlockId → LoopTurn BlockId ρ} {result : BlockId → ρ}
    (h : Orbit step a xs) (hgo : ∀ x y, step x = some y → turn x = .goOn y)
    (hstop : ∀ x, step x = none → turn x = .stop (result x)) :
    ∃ n < xs.length, Loops turn a n (result (xs.getLast?.getD a)) := by
  induction h with
  | last stop => exact ⟨0, Nat.zero_lt_one, .stop (hstop _ stop)⟩
  | @more a b rest go onward ih =>
    rcases ih with ⟨n, hn, hloops⟩
    rcases onward.exists_cons with ⟨rest, rfl⟩
    rw [List.getLast?_cons_cons]
    rw [List.getLast?_cons, Option.getD_some] at hloops ⊢
    exact ⟨n + 1, Nat.succ_lt_succ hn, .goOn (hgo _ _ go) hloops⟩

/-- A walk takes no more steps than it may. -/
theorem length_walk_le (step : BlockId → Option BlockId) (n : Nat) (a : BlockId) :
    (walk step n a).length ≤ n := by
  induction n generalizing a with
  | zero => exact Nat.le_refl 0
  | succ n ih =>
    rw [walk]
    cases step a with
    | none => exact Nat.succ_le_succ (Nat.zero_le n)
    | some next => exact Nat.succ_le_succ (ih next)

/-! ## Walks from anywhere -/

namespace WellLinked

/-- A graph has at least the script block. -/
theorem size_pos (h : g.WellLinked) : 0 < g.size := by
  rw [← length_ids]
  exact List.length_pos_of_mem (mem_ids_iff.2 h.root_present)

/-- A walk passes its whole orbit when it does so from blocks, and leads nowhere from an id without
a block. -/
theorem orbit_walk (h : g.WellLinked)
    (hpresent : g.contains id = true → Orbit step id (walk step g.size id))
    (habsent : g.contains id ≠ true → step id = none) : Orbit step id (walk step g.size id) := by
  by_cases hid : g.contains id = true
  · exact hpresent hid
  · have horbit : Orbit step id [id] := .last (habsent hid)
    rwa [horbit.walk_eq h.size_pos]

/-- What is not there hangs from nothing. -/
theorem parent_of_absent (h : g.WellLinked) (hid : g.contains id ≠ true) : g.parent id = none :=
  parent_eq_none_iff.2 fun link hlink htarget => hid (htarget ▸ (h.ends_present link hlink).2)

/-- The ancestry of a block is the walk upward from it. -/
theorem orbit_above (h : g.WellLinked) (id : BlockId) : Orbit g.above id (g.ancestry id) :=
  h.orbit_walk h.ancestry_orbit fun hid => by rw [above, h.parent_of_absent hid, Option.map_none]

/-- The chain of a block is the walk onward from it. -/
theorem orbit_next (h : g.WellLinked) (id : BlockId) : Orbit g.next id (g.chainFrom id) :=
  h.orbit_walk h.chain_orbit fun hid => by
    refine target?_eq_none_iff.2 fun after hlink => hid ?_
    exact (h.ends_present _ hlink).1

/-- Going back from a block is a walk as well. -/
theorem orbit_previous (h : g.WellLinked) (id : BlockId) :
    Orbit g.previous id (walk g.previous g.size id) := by
  refine h.orbit_walk (fun hid => ?_) fun hid => by rw [previous, h.parent_of_absent hid]
  rw [← length_ids]
  refine walk_orbit h.previous_acyclic (fun x y hstep => ?_) (mem_ids_iff.2 hid)
  exact mem_ids_iff.2 (h.ends_present _ (h.previous_eq_some_iff.1 hstep)).1

end WellLinked

/-! ## Walks as loops -/

/-- One step down, into a slot or to the block that follows. -/
def Down (g : BlockGraph) (a b : BlockId) : Prop :=
  g.next a = some b ∨ ∃ slot, g.slotHead a slot = some b

namespace WellLinked

/-- One block is right below another one when that one leads to it. -/
theorem down_iff (h : g.WellLinked) : g.Down a b ↔ g.Leads a b := by
  constructor
  · rintro (hnext | ⟨slot, hhead⟩)
    · exact ⟨.next, mem_links_of_target? hnext⟩
    · exact ⟨.slot slot, mem_links_of_target? hhead⟩
  · rintro ⟨outlet, hlink⟩
    cases outlet with
    | next => exact .inl (h.target?_eq_some_iff.2 hlink)
    | slot name => exact .inr ⟨name, h.target?_eq_some_iff.2 hlink⟩

/-- The way up to the topmost block ends with it. -/
theorem loops_topTurn (h : g.WellLinked) (id : BlockId) :
    ∃ n < g.size, Loops g.topTurn id n (g.rootOf id) := by
  have hgo : ∀ x y, g.above x = some y → g.topTurn x = .goOn y := by
    intro x y hstep
    rcases Option.map_eq_some_iff.1 hstep with ⟨⟨z, outlet⟩, hparent, rfl⟩
    rw [topTurn, hparent]
  have hstop : ∀ x, g.above x = none → g.topTurn x = .stop x := by
    intro x hstep
    rw [topTurn, Option.map_eq_none_iff.1 hstep]
  rcases (h.orbit_above id).loops hgo hstop with ⟨n, hn, hloops⟩
  exact ⟨n, Nat.lt_of_lt_of_le hn (length_walk_le _ _ _), hloops⟩

/-- The way along a chain ends with its last block. -/
theorem loops_tailTurn (h : g.WellLinked) (id : BlockId) :
    ∃ n < g.size, Loops g.tailTurn id n (g.stackTail id) := by
  have hgo : ∀ x y, g.next x = some y → g.tailTurn x = .goOn y :=
    fun x y hstep => by rw [tailTurn, hstep]
  have hstop : ∀ x, g.next x = none → g.tailTurn x = .stop x :=
    fun x hstep => by rw [tailTurn, hstep]
  rcases (h.orbit_next id).loops hgo hstop with ⟨n, hn, hloops⟩
  exact ⟨n, Nat.lt_of_lt_of_le hn (length_walk_le _ _ _), hloops⟩

/-- A block with no block in front of it is the first of its chain. -/
theorem chainHead_of_first (h : g.WellLinked) (hstop : g.previous id = none) :
    g.chainHead id = id := by
  have horbit : Orbit g.previous id [id] := .last hstop
  rw [chainHead, horbit.walk_eq h.size_pos]
  rfl

/-- The way up to the slot around a chain ends with it, or at the top when there is none. -/
theorem loops_surroundTurn (h : g.WellLinked) (id : BlockId) :
    ∃ n < g.size, Loops g.surroundTurn id n (g.surroundParent id) := by
  have hgo : ∀ x y, g.previous x = some y → g.surroundTurn x = .goOn y := by
    intro x y hstep
    rw [surroundTurn, h.parent_eq_some_iff.2 (h.previous_eq_some_iff.1 hstep)]
  have hstop : ∀ x, g.previous x = none → g.surroundTurn x = .stop (g.surroundParent x) := by
    intro x hstep
    rw [surroundTurn, surroundParent, h.chainHead_of_first hstep]
    cases hparent : g.parent x with
    | none => rfl
    | some above =>
      rcases above with ⟨y, outlet⟩
      cases outlet with
      | slot name => rfl
      | next => simp [previous, hparent] at hstep
  rcases (h.orbit_previous id).loops hgo hstop with ⟨n, hn, hloops⟩
  refine ⟨n, Nat.lt_of_lt_of_le hn (length_walk_le _ _ _), ?_⟩
  -- The slot is looked for at the first block of the chain, which is its own first block.
  rcases (h.orbit_previous id).exists_getLast with ⟨first, hlast, hfirst, -⟩
  have hhead : g.chainHead id = first := by rw [chainHead, hlast, Option.getD_some]
  have hsame : g.surroundParent first = g.surroundParent id := by
    rw [surroundParent, surroundParent, h.chainHead_of_first hfirst, hhead]
  rwa [hlast, Option.getD_some, hsame] at hloops

end WellLinked

/-- The way up in search of a block ends where it meets the block, or at the top. -/
theorem Orbit.loops_ancestorTurn (h : Orbit g.above id xs) (ancestor : BlockId) :
    ∃ n < xs.length, Loops (g.ancestorTurn ancestor) id n (xs.contains ancestor) := by
  induction h with
  | @last id stop =>
    refine ⟨0, Nat.zero_lt_one, .stop ?_⟩
    rw [ancestorTurn, Option.map_eq_none_iff.1 stop]
    by_cases hmet : id = ancestor
    · simp [hmet]
    · simp [hmet, Ne.symm hmet]
  | @more id after rest go onward ih =>
    by_cases hmet : id = ancestor
    · refine ⟨0, Nat.succ_pos _, .stop ?_⟩
      rw [ancestorTurn, if_pos hmet, hmet, List.contains_cons, beq_self_eq_true, Bool.true_or]
    · rcases Option.map_eq_some_iff.1 go with ⟨⟨z, outlet⟩, hparent, rfl⟩
      have hfirst : g.ancestorTurn ancestor id = .goOn z := by
        rw [ancestorTurn, if_neg hmet, hparent]
      rcases ih with ⟨n, hn, hloops⟩
      refine ⟨n + 1, Nat.succ_lt_succ hn, .goOn hfirst ?_⟩
      rwa [List.contains_cons, beq_eq_false_iff_ne.2 (Ne.symm hmet), Bool.false_or]

/-- The way along a chain collects the chain. -/
theorem Orbit.loops_chainTurn (h : Orbit g.next id xs) (passed : List BlockId) :
    Loops g.chainTurn (passed, some id) xs.length (passed ++ xs) := by
  induction h generalizing passed with
  | @last id stop =>
    have hfirst : g.chainTurn (passed, some id) = .goOn (passed ++ [id], none) := by
      rw [chainTurn, stop]
    exact .goOn hfirst (.stop rfl)
  | @more id after rest go onward ih =>
    have hfirst : g.chainTurn (passed, some id) = .goOn (passed ++ [id], some after) := by
      rw [chainTurn, go]
    have hrest := ih (passed ++ [id])
    rw [List.append_assoc, List.singleton_append] at hrest
    exact .goOn hfirst hrest

namespace WellLinked

/-- Asking for an ancestor takes fewer turns than there are blocks. -/
theorem loops_ancestorTurn (h : g.WellLinked) (ancestor id : BlockId) :
    ∃ n < g.size, Loops (g.ancestorTurn ancestor) id n (g.isAncestor ancestor id) := by
  rcases (h.orbit_above id).loops_ancestorTurn ancestor with ⟨n, hn, hloops⟩
  exact ⟨n, Nat.lt_of_lt_of_le hn (length_walk_le _ _ _), hloops⟩

/-- Collecting a chain takes no more turns than there are blocks. -/
theorem loops_chainTurn (h : g.WellLinked) (head : Option BlockId) :
    ∃ n ≤ g.size, Loops g.chainTurn ([], head) n (g.chain head) := by
  cases head with
  | none => exact ⟨0, Nat.zero_le _, .stop rfl⟩
  | some id => exact ⟨_, length_walk_le _ _ _, (h.orbit_next id).loops_chainTurn []⟩

end WellLinked

/-! ## Both ways -/

/-- There is no slot around an id without a block. -/
theorem WellLinked.surroundParent_of_absent (h : g.WellLinked) (hid : g.contains id ≠ true) :
    g.surroundParent id = none := by
  have hparent := h.parent_of_absent hid
  have hstop : g.previous id = none := by rw [previous, hparent]
  rw [surroundParent, h.chainHead_of_first hstop, hparent]

/-- The ways through a graph agree with each other, and each of them comes to an end. -/
structure Navigable (g : BlockGraph) : Prop where
  /-- A block finds the slot around it exactly when the slot finds the block. -/
  surroundParent_iff : ∀ id owner slot,
    g.surroundParent id = some (owner, slot) ↔ id ∈ g.slotChain owner slot
  previous_iff : ∀ a b, g.previous b = some a ↔ g.next a = some b
  parent_iff : ∀ id owner slot,
    g.parent id = some (owner, .slot slot) ↔ g.slotHead owner slot = some id
  /-- The end of a chain is its last block. -/
  tail_last : ∀ id, (g.chain (some id)).getLast? = some (g.stackTail id)
  /-- What is above a block is what leads down to it. -/
  ancestor_iff : ∀ a b, g.isAncestor a b = true ↔ ReflTransGen g.Down a b
  nodup_chain : ∀ head, (g.chain head).Nodup
  /-- Every way ends by itself, after no more steps than there are blocks. -/
  surround_ends : ∀ id, ∃ n ≤ g.size, Loops g.surroundTurn id n (g.surroundParent id)
  top_ends : ∀ id, ∃ n ≤ g.size, Loops g.topTurn id n (g.rootOf id)
  chain_ends : ∀ head, ∃ n ≤ g.size, Loops g.chainTurn ([], head) n (g.chain head)
  tail_ends : ∀ id, ∃ n ≤ g.size, Loops g.tailTurn id n (g.stackTail id)
  ancestor_ends : ∀ a id, ∃ n ≤ g.size, Loops (g.ancestorTurn a) id n (g.isAncestor a id)

/-- Every well-linked graph is navigable. -/
theorem WellLinked.navigable (h : g.WellLinked) : g.Navigable where
  surroundParent_iff := by
    intro id owner slot
    by_cases hid : g.contains id = true
    · exact h.surroundParent_eq_some_iff hid
    · rw [h.surroundParent_of_absent hid]
      refine iff_of_false (Option.some_ne_none _).symm fun hmem => hid ?_
      exact (h.present_of_leads (h.leads_of_mem_slotChain hmem)).1
  previous_iff := fun a b => h.previous_eq_some_iff.trans h.target?_eq_some_iff.symm
  parent_iff := fun id owner slot => h.parent_eq_some_iff.trans h.target?_eq_some_iff.symm
  tail_last := by
    intro id
    rcases (h.orbit_next id).exists_getLast with ⟨tail, hlast, -, -⟩
    rw [chain, stackTail, hlast, Option.getD_some]
  ancestor_iff := by
    intro a b
    have hdown : g.Down = g.Leads := by
      funext x y
      exact propext h.down_iff
    rw [isAncestor, List.contains_iff_mem, (h.orbit_above b).mem_iff, h.reaches_above_iff, hdown]
  nodup_chain := by
    intro head
    cases head with
    | none => exact List.nodup_nil
    | some id => exact h.nodup_chainFrom id
  surround_ends := fun id => (h.loops_surroundTurn id).imp fun _ hn => hn.imp_left Nat.le_of_lt
  top_ends := fun id => (h.loops_topTurn id).imp fun _ hn => hn.imp_left Nat.le_of_lt
  chain_ends := h.loops_chainTurn
  tail_ends := fun id => (h.loops_tailTurn id).imp fun _ hn => hn.imp_left Nat.le_of_lt
  ancestor_ends := fun a id => (h.loops_ancestorTurn a id).imp fun _ hn => hn.imp_left Nat.le_of_lt

end BlockGraph

open BlockGraph

/-- After any run of calls, whether they succeed or are refused, all ways through the graph agree,
and all of them end. -/
theorem afterCalls_navigable (calls : List GraphCall) : (afterCalls calls).Navigable :=
  (sound_new.foldl_after calls).navigable

end ShellComposer
