import ShellComposer.Proofs.Editing
import ShellComposer.Repair

/-!
# Repairs only take blocks off

A repair takes some blocks off, one after the other, and does nothing else.  All of them are in the
graph, and none is the script, so no repair of a sound graph ever fails, and the graph it leaves is
sound again.

Main results:

- Structure `TookOff`: what a repair did to a graph.
- Theorem `Repaired.inTurn_succeeds`: repairs done in turn.
- Theorems `unplugDuplicate_of_some`, `unplugGroup_round`, `trimOperand_eq`: what the repairs of a
  command take off.
- Theorem `repairAll_succeeds`: one pass over all commands.
- Theorem `Sound.of_repairAll`: a pass leaves a sound graph.
-/

namespace ShellComposer

open Catalog

variable {g g' : BlockGraph} {command id : BlockId} {taken : List BlockId} {done : Repaired}

/-! ## Blocks taken out -/

namespace BlockGraph

/-- Taking blocks out leaves all blocks as they are. -/
theorem blocks_foldl_unplug (g : BlockGraph) (taken : List BlockId) :
    (taken.foldl unplug g).blocks = g.blocks := by
  induction taken generalizing g with
  | nil => rfl
  | cons first rest ih => rw [List.foldl_cons, ih, blocks_unplug]

/-- Nor does it give out an id. -/
theorem nextId_foldl_unplug (g : BlockGraph) (taken : List BlockId) :
    (taken.foldl unplug g).nextId = g.nextId := by
  induction taken generalizing g with
  | nil => rfl
  | cons first rest ih => rw [List.foldl_cons, ih, nextId_unplug]

/-- A sound graph stays sound when blocks are taken out of it. -/
theorem Sound.foldl_unplug (h : g.Sound) (taken : List BlockId) :
    (taken.foldl BlockGraph.unplug g).Sound := by
  induction taken generalizing g with
  | nil => exact h
  | cons first rest ih => exact ih (h.unplug first)

/-- Whether a block may be taken off: it is there and is not the script. -/
def Movable (g : BlockGraph) (id : BlockId) : Prop :=
  id ≠ root ∧ g.contains id = true

theorem Movable.of_blocks (h : g.Movable id) (hblocks : g'.blocks = g.blocks) : g'.Movable id := by
  rw [Movable, contains, hblocks]
  exact h

/-- Detaching a block that can be moved takes it out. -/
theorem Movable.detach (h : g.Movable id) : g.detach id true = .ok (g.unplug id) :=
  detach_eq_ok_iff.2 ⟨h.1, h.2, rfl⟩

/-- What a slot holds may be taken off. -/
theorem Sound.movable_of_mem_slotChain {slot : String} (h : g.Sound)
    (hmem : id ∈ g.slotChain command slot) : g.Movable id :=
  (h.present_of_leads (h.leads_of_mem_slotChain hmem)).symm

end BlockGraph

open BlockGraph

/-! ## What a repair does -/

/-- A repair took off these blocks, in this order, and did nothing else. -/
structure TookOff (g : BlockGraph) (done : Repaired) (taken : List BlockId) : Prop where
  graph_eq : done.graph = taken.foldl unplug g
  removed_eq : done.removed = taken.length
  movable : ∀ id ∈ taken, g.Movable id
  silent : done.removed = 0 → done.notices = []

/-- A repair of a graph succeeds and only takes blocks off. -/
def Succeeds (repair : BlockGraph → Except Fault Repaired) (g : BlockGraph) : Prop :=
  ∃ done taken, repair g = .ok done ∧ TookOff g done taken

namespace TookOff

theorem start (g : BlockGraph) : TookOff g (.start g) [] :=
  ⟨rfl, rfl, fun _ hmem => absurd hmem List.not_mem_nil, fun _ => rfl⟩

/-- Taking off one block. -/
theorem single (hmovable : g.Movable id) (notices : List Notice) :
    TookOff g ⟨g.unplug id, 1, notices⟩ [id] := by
  refine ⟨rfl, rfl, fun other hmem => ?_, fun hnone => absurd hnone Nat.one_ne_zero⟩
  rw [List.mem_singleton] at hmem
  exact hmem ▸ hmovable

/-- Taking off several blocks, with a notice unless there are none. -/
theorem several (hmovable : ∀ id ∈ taken, g.Movable id) {notices : List Notice}
    (hsilent : taken = [] → notices = []) :
    TookOff g ⟨taken.foldl unplug g, taken.length, notices⟩ taken :=
  ⟨rfl, rfl, hmovable, fun hnone => hsilent (List.length_eq_zero_iff.1 hnone)⟩

theorem blocks_eq (h : TookOff g done taken) : done.graph.blocks = g.blocks := by
  rw [h.graph_eq, blocks_foldl_unplug]

theorem nextId_eq (h : TookOff g done taken) : done.graph.nextId = g.nextId := by
  rw [h.graph_eq, nextId_foldl_unplug]

theorem sound (h : TookOff g done taken) (hsound : g.Sound) : done.graph.Sound := by
  rw [h.graph_eq]
  exact hsound.foldl_unplug taken

/-- A repair that takes nothing off leaves the graph as it is. -/
theorem graph_eq_of_removed (h : TookOff g done taken) (hnone : done.removed = 0) :
    done.graph = g := by
  rw [h.removed_eq, List.length_eq_zero_iff] at hnone
  rw [h.graph_eq, hnone, List.foldl_nil]

/-- After a repair a further one takes off further blocks. -/
theorem andThen {repair : BlockGraph → Except Fault Repaired} (h : TookOff g done taken)
    (hmore : Succeeds repair done.graph) :
    ∃ all taken', done.andThen repair = .ok all ∧ TookOff g all taken' := by
  rcases hmore with ⟨more, taken', hrepair, hoff⟩
  refine ⟨⟨more.graph, done.removed + more.removed, done.notices ++ more.notices⟩,
    taken ++ taken', Fault.bind_eq_ok_iff.2 ⟨more, hrepair, rfl⟩, ?_, ?_, ?_, ?_⟩
  · rw [hoff.graph_eq, h.graph_eq, List.foldl_append]
  · rw [List.length_append, h.removed_eq, hoff.removed_eq]
  · intro id hmem
    rcases List.mem_append.1 hmem with hmem | hmem
    · exact h.movable id hmem
    · exact (hoff.movable id hmem).of_blocks h.blocks_eq.symm
  · intro hnone
    rcases Nat.add_eq_zero_iff.1 hnone with ⟨hfirst, hsecond⟩
    rw [h.silent hfirst, hoff.silent hsecond, List.append_nil]

end TookOff

/-- Repairs done in turn succeed when each of them does on every sound graph with the same
blocks. -/
theorem Repaired.inTurn_succeeds {α : Type} {repair : α → BlockGraph → Except Fault Repaired}
    {items : List α} (hsound : g.Sound)
    (hitems : ∀ item ∈ items, ∀ g' : BlockGraph, g'.Sound → g'.blocks = g.blocks →
      Succeeds (repair item) g') : Succeeds (Repaired.inTurn repair items) g := by
  have hfold : ∀ (done : Repaired) (taken : List BlockId), TookOff g done taken →
      ∃ all taken', items.foldlM (fun done item => done.andThen (repair item)) done = .ok all ∧
        TookOff g all taken' := by
    induction items with
    | nil => exact fun done taken hoff => ⟨done, taken, rfl, hoff⟩
    | cons first rest ih =>
      intro done taken hoff
      have hfirst := hitems first List.mem_cons_self _ (hoff.sound hsound) hoff.blocks_eq
      rcases hoff.andThen hfirst with ⟨once, taken', hrun, honce⟩
      obtain ⟨all, taken'', hrest, hall⟩ :=
        ih (fun item hmem => hitems item (List.mem_cons_of_mem _ hmem)) once taken' honce
      refine ⟨all, taken'', ?_, hall⟩
      rw [List.foldlM_cons, Fault.bind_eq_ok_iff]
      exact ⟨once, hrun, hrest⟩
  exact hfold (.start g) [] (.start g)

/-! ## The three repairs of a command -/

/-- The options of a command are held in its slot for options. -/
theorem mem_slotChain_of_flaggedOptions {option : BlockId × String}
    (h : option ∈ flaggedOptions g command) : option.1 ∈ g.slotChain command optionsSlot := by
  rcases List.mem_map.1 h with ⟨id, hmem, rfl⟩
  exact (List.mem_filter.1 hmem).1

/-- The first option that repeats a flag is among the options. -/
theorem mem_of_firstRepeated {seen : List String} {options : List (BlockId × String)}
    {option : BlockId × String} (h : firstRepeated seen options = some option) :
    option ∈ options := by
  induction options generalizing seen with
  | nil => simp [firstRepeated] at h
  | cons first rest ih =>
    rw [firstRepeated] at h
    split at h
    · rw [Option.some.injEq] at h
      exact h ▸ List.mem_cons_self
    · exact List.mem_cons_of_mem _ (ih h)

/-- Without a repeated option nothing is taken off. -/
theorem unplugDuplicate_of_none (hfirst : firstRepeated [] (flaggedOptions g command) = none) :
    unplugDuplicate command g = .ok (.start g) := by
  rw [unplugDuplicate, hfirst]

/-- The first repeated option is taken off. -/
theorem unplugDuplicate_of_some {option : BlockId × String}
    (hfirst : firstRepeated [] (flaggedOptions g command) = some option)
    (hmovable : g.Movable option.1) :
    ∃ notices, unplugDuplicate command g = .ok ⟨g.unplug option.1, 1, notices⟩ := by
  rcases option with ⟨id, flag⟩
  refine ⟨[.ofDuplicate flag id], ?_⟩
  rw [unplugDuplicate, hfirst]
  simp only [hmovable.detach]
  rfl

/-- The repair of a duplicate succeeds. -/
theorem unplugDuplicate_succeeds (hsound : g.Sound) (command : BlockId) :
    Succeeds (unplugDuplicate command) g := by
  unfold Succeeds
  cases hfirst : firstRepeated [] (flaggedOptions g command) with
  | none => exact ⟨_, _, unplugDuplicate_of_none hfirst, .start g⟩
  | some option =>
    have hmem := mem_slotChain_of_flaggedOptions (mem_of_firstRepeated hfirst)
    have hmovable := hsound.movable_of_mem_slotChain hmem
    rcases unplugDuplicate_of_some hfirst hmovable with ⟨notices, hrun⟩
    exact ⟨_, _, hrun, .single hmovable notices⟩

/-- The options of a command whose flags are in a group. -/
def groupMembers (g : BlockGraph) (command : BlockId) (group : List String) :
    List (BlockId × String) :=
  (flaggedOptions g command).filter fun option => group.contains option.2

/-- The members of a group are held in the slot for options. -/
theorem mem_slotChain_of_groupMembers {group : List String} {option : BlockId × String}
    (h : option ∈ groupMembers g command group) : option.1 ∈ g.slotChain command optionsSlot :=
  mem_slotChain_of_flaggedOptions (List.mem_of_mem_filter h)

/-- The loop over a group ends where at most one member is left. -/
theorem unplugGroup_of_few {group : List String} (rounds : Nat)
    (hfew : (groupMembers g command group).length ≤ 1) :
    unplugGroup command group rounds g = .ok (.start g) := by
  cases rounds with
  | zero => rfl
  | succ rounds =>
    unfold groupMembers at hfew
    rw [unplugGroup]
    split
    · rename_i hmembers
      rw [hmembers] at hfew
      simp at hfew
    · rfl

/-- A round of the loop over a group: the second member is taken off. -/
theorem unplugGroup_round {group : List String} (rounds : Nat) {keeper second : BlockId × String}
    {rest : List (BlockId × String)}
    (hmembers : groupMembers g command group = keeper :: second :: rest)
    (hmovable : g.Movable second.1) :
    ∃ notices, unplugGroup command group (rounds + 1) g =
      Repaired.andThen ⟨g.unplug second.1, 1, notices⟩ (unplugGroup command group rounds) := by
  rcases keeper with ⟨_, keeper⟩
  rcases second with ⟨id, flag⟩
  refine ⟨[.ofConflict flag keeper id], ?_⟩
  unfold groupMembers at hmembers
  rw [unplugGroup, hmembers]
  simp only [hmovable.detach]
  rfl

/-- A group has at most one member, or a first and a second one, which a slot of the command
holds. -/
theorem groupMembers_cases (g : BlockGraph) (command : BlockId) (group : List String) :
    (groupMembers g command group).length ≤ 1 ∨
      ∃ keeper second rest, groupMembers g command group = keeper :: second :: rest ∧
        second.1 ∈ g.slotChain command optionsSlot := by
  rcases hmembers : groupMembers g command group with _ | ⟨keeper, _ | ⟨second, rest⟩⟩
  · exact .inl (by simp)
  · exact .inl (by simp)
  · have hmember : second ∈ groupMembers g command group := by simp [hmembers]
    exact .inr ⟨keeper, second, rest, rfl, mem_slotChain_of_groupMembers hmember⟩

/-- The repair of a group succeeds, whatever number of rounds it is given. -/
theorem unplugGroup_succeeds (hsound : g.Sound) (command : BlockId) (group : List String)
    (rounds : Nat) : Succeeds (unplugGroup command group rounds) g := by
  induction rounds generalizing g with
  | zero => exact ⟨_, _, rfl, .start g⟩
  | succ rounds ih =>
    rcases groupMembers_cases g command group with hfew | ⟨keeper, second, rest, hmembers, hmem⟩
    · exact ⟨_, _, unplugGroup_of_few _ hfew, .start g⟩
    · have hmovable := hsound.movable_of_mem_slotChain hmem
      rcases unplugGroup_round rounds hmembers hmovable with ⟨notices, hround⟩
      have honce := TookOff.single hmovable notices
      rcases honce.andThen (ih (hsound.unplug second.1)) with ⟨all, taken, hrun, hall⟩
      exact ⟨all, taken, hround.trans hrun, hall⟩

/-- So does the repair of all groups of a command. -/
theorem unplugExclusive_succeeds (hsound : g.Sound) (command : BlockId)
    (groups : List (List String)) : Succeeds (unplugExclusive command groups) g :=
  Repaired.inTurn_succeeds hsound fun group _ g' hsound' _ =>
    unplugGroup_succeeds hsound' command group g'.size

/-- Several blocks can be taken off one after the other. -/
theorem foldlM_detach (hmovable : ∀ id ∈ taken, g.Movable id) :
    taken.foldlM (fun g id => g.detach id true) g = .ok (taken.foldl unplug g) := by
  induction taken generalizing g with
  | nil => rfl
  | cons first rest ih =>
    rw [List.foldlM_cons, Fault.bind_eq_ok_iff]
    refine ⟨g.unplug first, (hmovable first List.mem_cons_self).detach, ih fun id hmem => ?_⟩
    exact (hmovable id (List.mem_cons_of_mem _ hmem)).of_blocks (g.blocks_unplug first)

/-- The blocks of an operand kind beyond the most that is allowed, out of those attached. -/
def excessOperands (attached : List BlockId) (operand : OperandDef) (g : BlockGraph) :
    List BlockId :=
  match operand.cardinality.max.limit with
  | none => []
  | some most =>
    (attached.filter (g.hasKind (BlockKind.isOperandNamed operand.id))).drop most.toNat

/-- Operands in excess are among the operands held at the start. -/
theorem mem_of_excessOperands {attached : List BlockId} {operand : OperandDef}
    (h : id ∈ excessOperands attached operand g) : id ∈ attached := by
  unfold excessOperands at h
  split at h
  · simp at h
  · exact List.mem_of_mem_filter (List.mem_of_mem_drop h)

/-- Trimming takes off the blocks beyond the most that is allowed, one after the other. -/
theorem trimOperand_eq {attached : List BlockId} (operand : OperandDef)
    (hattached : ∀ id ∈ attached, g.Movable id) :
    ∃ notices, (excessOperands attached operand g = [] → notices = []) ∧
      trimOperand attached operand g =
        .ok ⟨(excessOperands attached operand g).foldl unplug g,
          (excessOperands attached operand g).length, notices⟩ := by
  have hmovable : ∀ id ∈ excessOperands attached operand g, g.Movable id :=
    fun id hmem => hattached id (mem_of_excessOperands hmem)
  unfold excessOperands at hmovable ⊢
  rw [trimOperand]
  revert hmovable
  cases operand.cardinality.max.limit with
  | none => exact fun _ => ⟨[], fun _ => rfl, rfl⟩
  | some most =>
    intro hmovable
    simp only at hmovable ⊢
    generalize (attached.filter _).drop most.toNat = excess at hmovable ⊢
    cases excess with
    | nil => exact ⟨[], fun _ => rfl, rfl⟩
    | cons first rest =>
      refine ⟨[.ofLimit most.toNat operand first],
        fun hnone => absurd hnone (List.cons_ne_nil first rest), ?_⟩
      simp only [foldlM_detach hmovable]
      rfl

/-- Trimming the operands of one definition succeeds. -/
theorem trimOperand_succeeds {attached : List BlockId} (operand : OperandDef)
    (hattached : ∀ id ∈ attached, g.Movable id) : Succeeds (trimOperand attached operand) g := by
  rcases trimOperand_eq operand hattached with ⟨notices, hsilent, hrun⟩
  have hmovable : ∀ id ∈ excessOperands attached operand g, g.Movable id :=
    fun id hmem => hattached id (mem_of_excessOperands hmem)
  exact ⟨_, _, hrun, .several hmovable hsilent⟩

theorem trimOperands_succeeds (hsound : g.Sound) (command : BlockId) (definition : CommandDef) :
    Succeeds (trimOperands command definition) g :=
  Repaired.inTurn_succeeds hsound fun operand _ _ _ hblocks =>
    trimOperand_succeeds operand fun _ hmem =>
      (hsound.movable_of_mem_slotChain hmem).of_blocks hblocks

/-! ## All repairs -/

/-- The repair of a command succeeds. -/
theorem repairCommand_succeeds (hsound : g.Sound) (command : BlockId) (definition : CommandDef) :
    Succeeds (repairCommand command definition) g := by
  rcases unplugDuplicate_succeeds hsound command with ⟨first, taken, hfirst, hoff⟩
  obtain ⟨second, taken', hsecond, hoff'⟩ := hoff.andThen
    (unplugExclusive_succeeds (hoff.sound hsound) command definition.exclusiveOptions)
  obtain ⟨third, taken'', hthird, hoff''⟩ := hoff'.andThen
    (trimOperands_succeeds (hoff'.sound hsound) command definition)
  refine ⟨third, taken'', ?_, hoff''⟩
  rw [repairCommand, Fault.bind_eq_ok_iff]
  exact ⟨first, hfirst, Fault.bind_eq_ok_iff.2 ⟨second, hsecond, hthird⟩⟩

/-- The repair of a block succeeds. -/
theorem repairBlock_succeeds (hsound : g.Sound) (catalog : Catalog) (id : BlockId) :
    Succeeds (repairBlock catalog id) g := by
  rw [Succeeds, repairBlock]
  split
  · split
    · exact repairCommand_succeeds hsound id _
    · exact ⟨_, _, rfl, .start g⟩
  · exact ⟨_, _, rfl, .start g⟩

/-- A pass over the commands of a sound graph succeeds and only takes blocks off. -/
theorem repairAll_succeeds (hsound : g.Sound) (catalog : Catalog) :
    Succeeds (repairAll catalog) g :=
  Repaired.inTurn_succeeds hsound fun id _ _ hsound' _ => repairBlock_succeeds hsound' catalog id

/-- A pass leaves a sound graph. -/
theorem BlockGraph.Sound.of_repairAll {catalog : Catalog} (h : g.Sound)
    (hrun : repairAll catalog g = .ok done) : done.graph.Sound := by
  rcases repairAll_succeeds h catalog with ⟨done', taken, hrun', hoff⟩
  obtain rfl : done = done' := Except.ok.inj (hrun.symm.trans hrun')
  exact hoff.sound h

end ShellComposer
