import ShellComposer.Proofs.Refusing
import ShellComposer.Proofs.Templated
import ShellComposer.Proofs.Unplugging

/-!
# Reactions end

A repair that reports that it took something off has taken off a block that hung somewhere, so fewer
blocks hang somewhere afterwards.  This holds although operands are trimmed by a list that was read
before, in which some blocks may have been taken off already.  So the loop over a group of options
ends by itself, a reaction goes through fewer repairing passes than there are blocks, and without a
bound of its own it always ends.

Main results:

- Definition `Lowers` and theorem `repairAll_lowers`: a pass that takes something off leaves fewer
  blocks that hang somewhere.
- Inductive relation `ClearsGroup` and theorem `unplugGroup_clears`: the loop over a group ends.
- Inductive relation `Passes` and theorem `Passes.count_le`: how many passes there may be.
- Theorem `Workspace.react_settles`: a reaction without a bound of its own ends.
- Structure `Settles` and theorem `reactions_settle`: so does the reaction to any change.
-/

namespace ShellComposer

open BlockGraph Catalog Relation

variable {g : BlockGraph} {command id : BlockId} {done : Repaired} {taken : List BlockId}
variable {definition : CommandDef}

/-! ## Repairs that take something off -/

/-- What a repair did to a graph, when it left fewer blocks that hang somewhere unless it took
nothing off. -/
def Descent (g : BlockGraph) (done : Repaired) : Prop :=
  ∃ taken, TookOff g done taken ∧ (done.removed ≠ 0 → done.graph.held.length < g.held.length)

/-- A repair of a graph succeeds, and leaves fewer blocks that hang somewhere unless it takes
nothing off. -/
def Lowers (repair : BlockGraph → Except Fault Repaired) (g : BlockGraph) : Prop :=
  ∃ done, repair g = .ok done ∧ Descent g done

/-- Nothing done is a descent. -/
theorem Descent.start (g : BlockGraph) : Descent g (.start g) :=
  ⟨[], .start g, fun hsome => absurd rfl hsome⟩

/-- Taking off one block that a slot held. -/
theorem Descent.single {slot : String} (hsound : g.Sound) (hmem : id ∈ g.slotChain command slot)
    (notices : List Notice) : Descent g ⟨g.unplug id, 1, notices⟩ := by
  have hmovable := hsound.movable_of_mem_slotChain hmem
  exact ⟨[id], .single hmovable notices, fun _ => hsound.length_held_foldl_unplug_lt hmem []⟩

/-- A repair that goes downward succeeds. -/
theorem Lowers.succeeds {repair : BlockGraph → Except Fault Repaired} (h : Lowers repair g) :
    Succeeds repair g := by
  rcases h with ⟨done, hrun, taken, hoff, -⟩
  exact ⟨done, taken, hrun, hoff⟩

/-- A further repair only has to leave fewer blocks that hang somewhere where nothing has been taken
off before. -/
theorem Descent.andThen {repair : BlockGraph → Except Fault Repaired} (h : Descent g done)
    (hsound : g.Sound) (hmore : Succeeds repair done.graph)
    (hfresh : done.graph = g → Lowers repair g) :
    ∃ all, done.andThen repair = .ok all ∧ Descent g all := by
  rcases h with ⟨taken, hoff, hless⟩
  by_cases hnone : done.removed = 0
  · have hsame : done.graph = g := hoff.graph_eq_of_removed hnone
    rcases hfresh hsame with ⟨more, hrun, taken', hoff', hless'⟩
    rw [← hsame] at hrun hoff'
    rcases hoff.andThen ⟨more, taken', hrun, hoff'⟩ with ⟨all, both, hall, hboth⟩
    refine ⟨all, hall, both, hboth, fun hsome => ?_⟩
    rcases Fault.bind_eq_ok_iff.1 hall with ⟨more', hrun', hmake⟩
    obtain rfl : more' = more := Except.ok.inj (hrun'.symm.trans hrun)
    obtain rfl := Except.ok.inj hmake
    refine hless' fun hzero => hsome ?_
    simp [hnone, hzero]
  · have hfewer := hless hnone
    rcases hmore with ⟨more, taken', hrun, hoff'⟩
    rcases hoff.andThen ⟨more, taken', hrun, hoff'⟩ with ⟨all, both, hall, hboth⟩
    refine ⟨all, hall, both, hboth, fun _ => ?_⟩
    rcases Fault.bind_eq_ok_iff.1 hall with ⟨more', hrun', hmake⟩
    obtain rfl : more' = more := Except.ok.inj (hrun'.symm.trans hrun)
    obtain rfl := Except.ok.inj hmake
    have hlater := (hoff.sound hsound).length_held_foldl_unplug_le taken'
    rw [← hoff'.graph_eq] at hlater
    exact Nat.lt_of_le_of_lt hlater hfewer

/-- Of repairs done in turn, each only has to leave fewer blocks that hang somewhere where it comes
first. -/
theorem Lowers.inTurn {α : Type} {repair : α → BlockGraph → Except Fault Repaired}
    {items : List α} (hsound : g.Sound)
    (hitems : ∀ item ∈ items, ∀ g' : BlockGraph, g'.Sound → g'.blocks = g.blocks →
      Succeeds (repair item) g')
    (hfresh : ∀ item ∈ items, Lowers (repair item) g) :
    Lowers (Repaired.inTurn repair items) g := by
  have hfold : ∀ done, Descent g done →
      ∃ all, items.foldlM (fun done item => done.andThen (repair item)) done = .ok all ∧
        Descent g all := by
    induction items with
    | nil => exact fun done hdone => ⟨done, rfl, hdone⟩
    | cons first rest ih =>
      intro done hdone
      have hfirst : Succeeds (repair first) done.graph := by
        rcases hdone with ⟨taken, hoff, -⟩
        exact hitems first List.mem_cons_self _ (hoff.sound hsound) hoff.blocks_eq
      obtain ⟨once, hrun, honce⟩ :=
        hdone.andThen hsound hfirst fun _ => hfresh first List.mem_cons_self
      obtain ⟨all, hrest, hall⟩ :=
        ih (fun item hmem => hitems item (List.mem_cons_of_mem _ hmem))
          (fun item hmem => hfresh item (List.mem_cons_of_mem _ hmem)) once honce
      refine ⟨all, ?_, hall⟩
      rw [List.foldlM_cons, Fault.bind_eq_ok_iff]
      exact ⟨once, hrun, hrest⟩
  exact hfold (.start g) (.start g)

/-! ## The three repairs of a command -/

/-- Taking off repeated options goes downward. -/
theorem unplugDuplicate_lowers (hsound : g.Sound) (command : BlockId) :
    Lowers (unplugDuplicate command) g := by
  unfold Lowers
  cases hfirst : firstRepeated [] (flaggedOptions g command) with
  | none => exact ⟨_, unplugDuplicate_of_none hfirst, .start g⟩
  | some option =>
    have hmem := mem_slotChain_of_flaggedOptions (mem_of_firstRepeated hfirst)
    rcases unplugDuplicate_of_some hfirst (hsound.movable_of_mem_slotChain hmem) with
      ⟨notices, hrun⟩
    exact ⟨_, hrun, .single hsound hmem notices⟩

/-- Taking off the options of a group goes downward, whatever rounds are left. -/
theorem unplugGroup_lowers (hsound : g.Sound) (command : BlockId) (group : List String)
    (rounds : Nat) : Lowers (unplugGroup command group rounds) g := by
  induction rounds generalizing g with
  | zero => exact ⟨_, rfl, .start g⟩
  | succ rounds ih =>
    rcases groupMembers_cases g command group with hfew | ⟨keeper, second, rest, hmembers, hmem⟩
    · exact ⟨_, unplugGroup_of_few _ hfew, .start g⟩
    · rcases unplugGroup_round rounds hmembers (hsound.movable_of_mem_slotChain hmem) with
        ⟨notices, hround⟩
      have honce : Descent g ⟨g.unplug second.1, 1, notices⟩ := .single hsound hmem notices
      have hrest := ih (hsound.unplug second.1)
      unfold Lowers
      rw [hround]
      exact honce.andThen hsound hrest.succeeds fun hsame => hsame ▸ hrest

/-- Treating the groups one after the other goes downward. -/
theorem unplugExclusive_lowers (hsound : g.Sound) (command : BlockId)
    (groups : List (List String)) : Lowers (unplugExclusive command groups) g :=
  .inTurn hsound
    (fun group _ g' hsound' _ => unplugGroup_succeeds hsound' command group g'.size)
    fun group _ => unplugGroup_lowers hsound command group g.size

/-- Trimming that reports a removal takes off at least one block that hung somewhere: where nothing
has been taken off since the list was read, the first surplus block still hangs. -/
theorem trimOperand_lowers (hsound : g.Sound) (command : BlockId) (operand : OperandDef) :
    Lowers (trimOperand (g.slotChain command operandsSlot) operand) g := by
  have hattached : ∀ id ∈ g.slotChain command operandsSlot, g.Movable id :=
    fun _ hmem => hsound.movable_of_mem_slotChain hmem
  rcases trimOperand_eq operand hattached with ⟨notices, hsilent, hrun⟩
  have hexcess : ∀ id ∈ excessOperands (g.slotChain command operandsSlot) operand g,
      id ∈ g.slotChain command operandsSlot := fun _ hmem => mem_of_excessOperands hmem
  generalize excessOperands (g.slotChain command operandsSlot) operand g = excess
    at hsilent hrun hexcess
  have hoff := TookOff.several (fun id hmem => hattached id (hexcess id hmem)) hsilent
  refine ⟨_, hrun, excess, hoff, fun hsome => ?_⟩
  cases excess with
  | nil => exact absurd rfl hsome
  | cons first rest =>
    exact hsound.length_held_foldl_unplug_lt (hexcess first List.mem_cons_self) rest

/-- Trimming all operands goes downward. -/
theorem trimOperands_lowers (hsound : g.Sound) (command : BlockId) (definition : CommandDef) :
    Lowers (trimOperands command definition) g :=
  .inTurn hsound
    (fun operand _ _ _ hblocks => trimOperand_succeeds operand fun _ hmem =>
      (hsound.movable_of_mem_slotChain hmem).of_blocks hblocks)
    fun operand _ => trimOperand_lowers hsound command operand

/-! ## All repairs -/

/-- A graph stays sound on the way down. -/
theorem Descent.sound (h : Descent g done) (hsound : g.Sound) : done.graph.Sound := by
  rcases h with ⟨taken, hoff, -⟩
  exact hoff.sound hsound

/-- Repairing a command goes downward. -/
theorem repairCommand_lowers (hsound : g.Sound) (command : BlockId) (definition : CommandDef) :
    Lowers (repairCommand command definition) g := by
  rcases unplugDuplicate_lowers hsound command with ⟨first, hfirst, hdescent⟩
  obtain ⟨second, hsecond, hdescent'⟩ := hdescent.andThen hsound
    (unplugExclusive_succeeds (hdescent.sound hsound) command definition.exclusiveOptions)
    fun _ => unplugExclusive_lowers hsound command definition.exclusiveOptions
  obtain ⟨third, hthird, hdescent''⟩ := hdescent'.andThen hsound
    (trimOperands_succeeds (hdescent'.sound hsound) command definition)
    fun _ => trimOperands_lowers hsound command definition
  refine ⟨third, ?_, hdescent''⟩
  rw [repairCommand, Fault.bind_eq_ok_iff]
  exact ⟨first, hfirst, Fault.bind_eq_ok_iff.2 ⟨second, hsecond, hthird⟩⟩

/-- Repairing a block goes downward, whatever block it is. -/
theorem repairBlock_lowers (hsound : g.Sound) (catalog : Catalog) (id : BlockId) :
    Lowers (repairBlock catalog id) g := by
  unfold Lowers repairBlock
  split
  · split
    · exact repairCommand_lowers hsound id _
    · exact ⟨_, rfl, .start g⟩
  · exact ⟨_, rfl, .start g⟩

/-- A pass that takes something off leaves fewer blocks that hang somewhere. -/
theorem repairAll_lowers (hsound : g.Sound) (catalog : Catalog) : Lowers (repairAll catalog) g :=
  .inTurn hsound (fun id _ _ hsound' _ => repairBlock_succeeds hsound' catalog id)
    fun id _ => repairBlock_lowers hsound catalog id

/-! ## The loop over a group -/

/-- The loop over a group of options, without a bound on its rounds: while two members are left, the
second is taken off. -/
inductive ClearsGroup (command : BlockId) (group : List String) :
    BlockGraph → BlockGraph → Prop where
  | ends {g : BlockGraph} (few : (groupMembers g command group).length ≤ 1) :
      ClearsGroup command group g g
  | goes {g g' last : BlockGraph} {keeper second : BlockId × String}
      {rest : List (BlockId × String)}
      (many : groupMembers g command group = keeper :: second :: rest)
      (off : g.detach second.1 true = .ok g') (onward : ClearsGroup command group g' last) :
      ClearsGroup command group g last

/-- When a group is cleared, one option of it is left at most. -/
theorem ClearsGroup.few {group : List String} {last : BlockGraph}
    (h : ClearsGroup command group g last) : (groupMembers last command group).length ≤ 1 := by
  induction h with
  | ends few => exact few
  | goes _ _ _ ih => exact ih

/-- Every round leaves fewer blocks that hang somewhere, so the loop ends by itself before as many
rounds are used up. -/
theorem unplugGroup_clears (hsound : g.Sound) (command : BlockId) (group : List String)
    {rounds : Nat} (hrounds : g.held.length < rounds) :
    ∃ done, unplugGroup command group rounds g = .ok done ∧
      ClearsGroup command group g done.graph := by
  induction rounds generalizing g with
  | zero => exact absurd hrounds (Nat.not_lt_zero _)
  | succ rounds ih =>
    rcases groupMembers_cases g command group with hfew | ⟨keeper, second, rest, hmembers, hmem⟩
    · exact ⟨_, unplugGroup_of_few _ hfew, .ends hfew⟩
    · have hmovable := hsound.movable_of_mem_slotChain hmem
      have hfewer := hsound.length_held_foldl_unplug_lt hmem []
      rw [List.foldl_cons, List.foldl_nil] at hfewer
      obtain ⟨more, hrun, hclears⟩ := ih (hsound.unplug second.1) (by omega)
      obtain ⟨notices, hround⟩ := unplugGroup_round rounds hmembers hmovable
      refine ⟨⟨more.graph, 1 + more.removed, notices ++ more.notices⟩, ?_,
        .goes hmembers hmovable.detach hclears⟩
      rw [hround]
      exact Fault.bind_eq_ok_iff.2 ⟨more, hrun, rfl⟩

/-! ## Passes of a reaction -/

/-- Enabling blocks moves none. -/
theorem BlockGraph.held_refresh (g : BlockGraph) : g.refresh.2.held = g.held := by
  have hids : g.refresh.2.ids = g.ids := IdMap.keys_mapValues _ _
  unfold held
  rw [hids]
  rfl

namespace Workspace

variable {w w' last start : Workspace} {n : Nat}

/-- A pass that repaired something leaves fewer blocks that hang somewhere. -/
theorem Pass.length_held_lt (h : Pass w w') (hsound : w.graph.Sound) :
    w'.graph.held.length < w.graph.held.length := by
  rcases h with ⟨done, hrun, hsome, rfl⟩
  rcases repairAll_lowers hsound.refresh w.catalog with ⟨done', hrun', taken, hoff, hless⟩
  obtain rfl : done = done' := Except.ok.inj (hrun.symm.trans hrun')
  have hfewer := hless hsome
  rw [held_refresh] at hfewer
  exact hfewer

/-- So many passes that repaired something lead from one workspace to another. -/
inductive Passes : Nat → Workspace → Workspace → Prop where
  | none {w : Workspace} : Passes 0 w w
  | more {n : Nat} {w w' last : Workspace} (first : Pass w w') (rest : Passes n w' last) :
      Passes (n + 1) w last

/-- Passes keep the graph sound. -/
theorem Passes.sound (h : Passes n w last) (hsound : w.graph.Sound) : last.graph.Sound := by
  induction h with
  | none => exact hsound
  | more first _ ih => exact ih (first.sound hsound)

/-- There are no more passes than blocks that hang somewhere at first. -/
theorem Passes.count_le (h : Passes n w last) (hsound : w.graph.Sound) :
    n + last.graph.held.length ≤ w.graph.held.length := by
  induction h with
  | none => omega
  | more first _ ih =>
    have hfewer := first.length_held_lt hsound
    have hrest := ih (first.sound hsound)
    omega

/-- A reaction with at least as many cycles as blocks that hang somewhere ends where nothing is left
to repair. -/
theorem reactWithin_settles (hsound : w.graph.Sound) (bound : Nat) {left : Nat}
    (hleft : w.graph.held.length ≤ left) :
    ∃ n last, Passes n w last ∧ last.refresh.Settled ∧
      reactWithin bound left w = ⟨.ok (), last.refresh.revalidate⟩ := by
  induction left generalizing w with
  | zero =>
    rcases reactWithin_cases hsound bound 0 with ⟨hsettled, hrun⟩ | ⟨w', hpass, -⟩
    · exact ⟨0, w, .none, hsettled, hrun⟩
    · have hfewer := hpass.length_held_lt hsound
      omega
  | succ left ih =>
    rcases reactWithin_cases hsound bound (left + 1) with
      ⟨hsettled, hrun⟩ | ⟨w', hpass, ⟨hzero, -⟩ | ⟨left', hsame, hrun⟩⟩
    · exact ⟨0, w, .none, hsettled, hrun⟩
    · exact absurd hzero (Nat.succ_ne_zero left)
    · obtain rfl : left = left' := Nat.succ.inj hsame
      have hfewer := hpass.length_held_lt hsound
      obtain ⟨n, last, hpasses, hsettled, hends⟩ := ih (hpass.sound hsound) (by omega)
      exact ⟨n + 1, last, .more hpass hpasses, hsettled, hrun.trans hends⟩

/-- A reaction without a bound of its own ends where nothing is left to repair. -/
theorem react_settles (hsound : w.graph.Sound) (hunset : w.settings.maxReactionCycles = none) :
    ∃ n last, Passes n w last ∧ last.refresh.Settled ∧
      w.react = ⟨.ok (), last.refresh.revalidate⟩ := by
  have hbound : w.cycleBound = w.graph.size + 1 := by
    unfold cycleBound
    rw [hunset]
  have hfewer := hsound.length_held_lt
  exact reactWithin_settles hsound w.cycleBound (by omega)

/-- What the reaction to a change comes to when it has no bound of its own. -/
structure Settles (start : Workspace) : Prop where
  /-- The repairs of a pass do not fail. -/
  repairs : ∀ n before, Passes n start before →
    ∃ done, repairAll before.catalog before.refresh.graph = .ok done
  /-- Wherever repairs have led, the loop over a group of options ends, within as many rounds as
  there are blocks. -/
  clears : ∀ n before, Passes n start before → ∀ (taken : List BlockId) command group g,
    taken.foldl unplug before.refresh.graph = g →
      ∃ done, unplugGroup command group g.size g = .ok done ∧
        ClearsGroup command group g done.graph
  /-- A pass that repairs something leaves fewer blocks that hang somewhere. -/
  lowers : ∀ n before after, Passes n start before → Pass before after →
    after.graph.held.length < before.graph.held.length
  /-- There are no more such passes than one more than the number of blocks. -/
  few : ∀ n last, Passes n start last → n ≤ start.graph.size + 1
  /-- After some of them nothing is left to repair, and the reaction succeeds. -/
  ends : ∃ n last, Passes n start last ∧ last.refresh.Settled ∧
    start.react = ⟨.ok (), last.refresh.revalidate⟩

/-- On a sound graph without a cap, reactions settle. -/
theorem settles_of_sound (hsound : start.graph.Sound)
    (hunset : start.settings.maxReactionCycles = none) : Settles start where
  repairs := by
    intro n before hpasses
    rcases repairAll_succeeds (hpasses.sound hsound).refresh before.catalog with ⟨done, -, hrun, -⟩
    exact ⟨done, hrun⟩
  clears := by
    rintro n before hpasses taken command group g rfl
    have hbefore : before.refresh.graph.Sound := (hpasses.sound hsound).refresh
    have hafter := hbefore.foldl_unplug taken
    exact unplugGroup_clears hafter command group hafter.length_held_lt
  lowers := by
    intro n before after hpasses hpass
    exact hpass.length_held_lt (hpasses.sound hsound)
  few := by
    intro n last hpasses
    have hcount := hpasses.count_le hsound
    have hfewer := hsound.length_held_lt
    omega
  ends := react_settles hsound hunset

end Workspace

/-! ## Faults of changes -/

/-- Whatever fails here is a fault of the graph. -/
def GraphFaults {α : Type} (result : Except Fault α) : Prop :=
  ∀ fault, result = .error fault → fault.report.phase = .graph

namespace GraphFaults

variable {α β : Type}

theorem ok (value : α) : GraphFaults (.ok value) :=
  fun _ hfault => absurd hfault (by simp)

theorem error {fault : Fault} (h : fault.report.phase = .graph) :
    GraphFaults (.error fault : Except Fault α) :=
  fun _ hfault => Except.error.inj hfault ▸ h

/-- Two steps in a row fail with faults of the graph only, if each of them does. -/
theorem bind {first : Except Fault α} {second : α → Except Fault β} (h : GraphFaults first)
    (hsecond : ∀ value, GraphFaults (second value)) : GraphFaults (first >>= second) := by
  intro fault hfault
  cases first with
  | error fault' =>
    obtain rfl : fault' = fault := Except.error.inj hfault
    exact h fault' rfl
  | ok value => exact hsecond value fault hfault

end GraphFaults

namespace BlockGraph

/-- A block that may not be moved is a fault of the graph. -/
theorem graphFaults_ensureMovable (g : BlockGraph) (id : BlockId) :
    GraphFaults (g.ensureMovable id) := by
  unfold ensureMovable
  split
  · exact .error rfl
  · split
    · exact .ok ()
    · exact .error rfl

/-- A block that is missing is a fault of the graph. -/
theorem graphFaults_block (g : BlockGraph) (id : BlockId) : GraphFaults (g.block id) := by
  unfold block
  split
  · exact .ok _
  · exact .error rfl

/-- A block that does not fit is a fault of the graph. -/
theorem graphFaults_ensureFits (g : BlockGraph) (tag : Tag) (child : BlockId) :
    GraphFaults (g.ensureFits tag child) := by
  refine .bind (g.graphFaults_block child) fun block => ?_
  split
  · exact .ok ()
  · exact .error rfl

/-- A place inside the block is a fault of the graph. -/
theorem graphFaults_ensureOutside (g : BlockGraph) (child place : BlockId) :
    GraphFaults (g.ensureOutside child place) := by
  unfold ensureOutside
  split
  · exact .error rfl
  · exact .ok ()

/-- Setting a field fails with faults of the graph only. -/
theorem graphFaults_setField (g : BlockGraph) (id : BlockId) (name value : String) :
    GraphFaults (g.setField id name value) :=
  .bind (g.graphFaults_block id) fun _ => .ok _

/-- Attaching fails with faults of the graph only. -/
theorem graphFaults_attach (g : BlockGraph) (parent : BlockId) (slot : String) (child : BlockId) :
    GraphFaults (g.attach parent slot child) := by
  refine .bind (g.graphFaults_ensureMovable child) fun _ => ?_
  refine .bind (g.graphFaults_block parent) fun owner => ?_
  cases owner.slot? slot with
  | none => exact .error rfl
  | some place =>
    refine .bind (g.graphFaults_ensureFits place.accepts child) fun _ => ?_
    exact .bind (g.graphFaults_ensureOutside child parent) fun _ => .ok _

/-- Inserting behind a block fails with faults of the graph only. -/
theorem graphFaults_insertAfter (g : BlockGraph) (previous child : BlockId) :
    GraphFaults (g.insertAfter previous child) := by
  refine .bind (g.graphFaults_ensureMovable child) fun _ => ?_
  refine .bind (g.graphFaults_block previous) fun before => ?_
  cases before.kind.tag? with
  | none => exact .error rfl
  | some tag =>
    refine .bind (g.graphFaults_ensureFits tag child) fun _ => ?_
    exact .bind (g.graphFaults_ensureOutside child previous) fun _ => .ok _

/-- Detaching fails with faults of the graph only. -/
theorem graphFaults_detach (g : BlockGraph) (id : BlockId) (heal : Bool) :
    GraphFaults (g.detach id heal) :=
  .bind (g.graphFaults_ensureMovable id) fun _ => .ok _

/-- Removing fails with faults of the graph only. -/
theorem graphFaults_remove (g : BlockGraph) (id : BlockId) : GraphFaults (g.remove id) :=
  .bind (g.graphFaults_detach id true) fun _ => .ok _

end BlockGraph

namespace Workspace

variable {w : Workspace} {mutation : Mutation} {fault : Fault}

/-- An edit fails with a fault of the graph, unless the reaction that follows fails. -/
theorem phase_of_edit (call : GraphCall) {change : Except Fault BlockGraph}
    (hcall : call.run w.graph = change) (hkept : ∀ g, change = .ok g → Retains w.graph g)
    (hfaults : GraphFaults change)
    (hreact : ∀ start, Change w start → start.react.result = .ok ())
    (hfault : ((w.edit change).map fun _ => ([] : List BlockId)).result = .error fault) :
    fault.report.phase = .graph := by
  unfold edit at hfault
  cases hchange : change with
  | error fault' =>
    rw [hchange] at hfault
    obtain rfl : fault' = fault := Except.error.inj hfault
    exact hfaults fault' hchange
  | ok g =>
    have hok := hreact _ (.edited (hcall.trans hchange) (hkept g hchange))
    simp [hchange, Answer.map, hok, Except.map] at hfault

/-- Where reactions succeed, a change only fails with a fault of the graph. -/
theorem phase_of_fault (hreact : ∀ start, Change w start → start.react.result = .ok ())
    (hfault : (mutation.answer w).result = .error fault) : fault.report.phase = .graph := by
  cases mutation with
  | create kind =>
    rcases w.create_cases kind with ⟨fault', hphase, hrun⟩ | ⟨definition, hknown, hscript, hrun⟩
    · rw [hrun] at hfault
      obtain rfl : fault' = fault := Except.error.inj hfault
      exact hphase
    · have hok := hreact _ (.placed hknown hscript)
      simp [hrun, Answer.map, hok, Except.map] at hfault
  | setField id name value =>
    exact phase_of_edit (.setField id name value) rfl (fun _ hset => retains_setField hset)
      (w.graph.graphFaults_setField id name value) hreact hfault
  | attach parent slot child =>
    exact phase_of_edit (.attach parent slot child) rfl
      (fun _ hattach => retains_of_blocks (blocks_attach hattach))
      (w.graph.graphFaults_attach parent slot child) hreact hfault
  | insertAfter previous child =>
    exact phase_of_edit (.insertAfter previous child) rfl
      (fun _ hinsert => retains_of_blocks (blocks_insertAfter hinsert))
      (w.graph.graphFaults_insertAfter previous child) hreact hfault
  | detach id heal =>
    exact phase_of_edit (.detach id heal) rfl
      (fun _ hdetach => retains_of_blocks (blocks_detach hdetach))
      (w.graph.graphFaults_detach id heal) hreact hfault
  | remove id =>
    rw [Mutation.answer, remove] at hfault
    cases hremove : w.graph.remove id with
    | error fault' =>
      rw [hremove] at hfault
      obtain rfl : fault' = fault := Except.error.inj hfault
      exact w.graph.graphFaults_remove id fault' hremove
    | ok removed =>
      rcases removed with ⟨doomed, g⟩
      have hok := hreact _ (.removed hremove)
      simp [hremove, Answer.map, hok, Except.map] at hfault
  | react =>
    have hok := hreact w .none
    simp [Mutation.answer, Answer.map, hok, Except.map] at hfault

/-- With no bound set on reactions, whatever changes came before, the next change is refused by the
graph and does nothing, or its reaction ends and it succeeds.  No change ever answers that repairs
did not settle. -/
theorem reactions_settle {catalog : Catalog} {settings : Settings}
    (hunset : settings.maxReactionCycles = none) (hreached : Reached catalog settings w) :
    (∀ mutation fault, (Mutation.answer w mutation).result = .error fault →
      fault.report.code ≠ "R001" ∧ fault.report.phase = .graph ∧
        mutation.answer w = ⟨.error fault, w⟩) ∧
      ∀ start, Change w start → Settles start := by
  have hvalid := hreached.valid
  have hsettles : ∀ start, Change w start → Settles start := by
    intro start hchange
    refine settles_of_sound (hchange.tended hvalid.tended).sound ?_
    rw [hchange.setting.2, hvalid.settings_eq]
    exact hunset
  refine ⟨fun mutation fault hfault => ?_, hsettles⟩
  have hphase : fault.report.phase = .graph := by
    refine phase_of_fault (fun start hchange => ?_) hfault
    rcases (hsettles start hchange).ends with ⟨_, _, _, _, hends⟩
    rw [hends]
  have hcode : fault.report.code ≠ "R001" := by
    intro hcode
    rcases Fault.code_eq_reaction_iff.1 hcode with ⟨bound, rfl⟩
    exact absurd hphase (by simp [Fault.report, Report.make])
  exact ⟨hcode, hphase, answer_eq_of_fault hvalid.tended hfault hcode⟩

/-- Put the command into the script, make two options, and plug one of them in. -/
def sortingSteps : List Mutation :=
  [.create (.command "sort"), .attach root stackSlot 1, .create (.option "sort"),
    .create (.option "sort"), .attach 1 optionsSlot 2]

@[inherit_doc sortingSteps]
def sortingOnce : Workspace :=
  run sortingCatalog .standard sortingSteps

/-- The other option, which has the same flag, plugged in before the first. -/
def sortingTwice : Workspace :=
  { sortingOnce with graph := (sortingOnce.graph.cut 3).plug 1 (.slot optionsSlot) 3 }

/-- The reaction to the second option takes the first one off, and ends. -/
theorem sortingTwice_settles :
    Change sortingOnce sortingTwice ∧ sortingTwice.graph.slotChain 1 optionsSlot = [3, 2] ∧
      Settles sortingTwice ∧
      sortingTwice.react.workspace.graph.slotChain 1 optionsSlot = [3] := by
  have hfits : sortingOnce.graph.Fits ⟨1, .slot optionsSlot, 3⟩ :=
    ⟨.option "sort", by decide +kernel, by decide +kernel⟩
  have hattach : GraphCall.run sortingOnce.graph (.attach 1 optionsSlot 3) =
      .ok sortingTwice.graph :=
    attach_eq_ok_iff.2 ⟨by decide, by decide +kernel, hfits, by decide +kernel, rfl⟩
  have hchange : Change sortingOnce sortingTwice :=
    .edited hattach (retains_of_blocks (blocks_attach hattach))
  have hunset : Settings.standard.maxReactionCycles = none := rfl
  have hreached := reached_run sortingCatalog .standard sortingSteps
  have hsettles := (reactions_settle hunset hreached).2 sortingTwice hchange
  exact ⟨hchange, by decide +kernel, hsettles, by decide +kernel⟩

end Workspace

end ShellComposer
