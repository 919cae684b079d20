import ShellComposer.Proofs.Refusing
import ShellComposer.Repair.InPlace

/-!
# What repairs put on the log

A repair that succeeds comes to the same when it is done in place: it leaves the same graph, takes
off as many blocks, and puts its notices on the log in the order in which it lists them.  No repair
of a sound graph fails, so a whole reaction puts exactly the notices on the log that it adds to the
unread ones, also when it runs out of cycles.

Main results:

- Definition `AtBench.Agrees`: a repair done in place comes to the same.
- Theorem `AtBench.Agrees.inTurn`: so do repairs done in turn.
- Theorem `AtBench.agrees_repairAll`: so does one pass over the script.
- Theorem `Workspace.reactWithin_logs`: so does a reaction, and it adds to the unread notices what
  it puts on the log.
-/

namespace ShellComposer

open BlockGraph Catalog

variable {α β : Type} {g g' : BlockGraph} {command id : BlockId} {log : List Notice}
variable {done : Repaired}

namespace AtBench

/-! ## One thing after the other -/

/-- Of two things done at the bench, the second is done if the first succeeds. -/
theorem on_bind (work : AtBench α) (more : α → AtBench β) (bench : Bench) :
    on bench (work >>= more) = match on bench work with
      | (.ok value, bench') => on bench' (more value)
      | (.error fault, bench') => (.error fault, bench') := by
  unfold on
  rw [Fault.run_bind]
  rcases work.run bench with ⟨_ | _, _⟩ <;> rfl

/-- Giving a value changes nothing at the bench. -/
@[simp] theorem on_pure (bench : Bench) (value : α) : on bench (pure value) = (.ok value, bench) :=
  rfl

/-- Failing changes nothing at the bench. -/
@[simp] theorem on_throw (bench : Bench) (fault : Fault) :
    on bench (throw fault : AtBench α) = (.error fault, bench) :=
  rfl

/-- The graph is read as it is. -/
@[simp] theorem on_graph (bench : Bench) : on bench graph = (.ok bench.graph, bench) :=
  rfl

/-- A notice is put at the end of the log. -/
@[simp] theorem on_note (bench : Bench) (notice : Notice) :
    on bench (note notice) = (.ok (), ⟨bench.graph, bench.log ++ [notice]⟩) :=
  rfl

/-- Enabling and disabling changes the graph and notes nothing. -/
@[simp] theorem on_refresh (bench : Bench) :
    on bench refresh = (.ok (), ⟨bench.graph.refresh.2, bench.log⟩) :=
  rfl

/-- A block that can be taken off is taken off in place. -/
theorem on_detach (hdetach : g.detach id true = .ok g') (log : List Notice) :
    on ⟨g, log⟩ (edit (.detach id true)) = (.ok (), ⟨g', log⟩) := by
  have hgraph : InPlace.on g (.detach id true) = (.ok (), g') := by
    rw [InPlace.on_detach, hdetach, InPlace.decidedEdit_ok]
  exact congrArg (fun outcome => (outcome.1, (⟨outcome.2, log⟩ : Bench))) hgraph

/-! ## Repairs -/

/-- Whenever a repair of a graph succeeds, it comes to the same in place, and its notices are put on
the log. -/
def Agrees (work : AtBench Nat) (repair : BlockGraph → Except Fault Repaired) (g : BlockGraph) :
    Prop :=
  ∀ done, repair g = .ok done → ∀ log,
    on ⟨g, log⟩ work = (.ok done.removed, ⟨done.graph, log ++ done.notices⟩)

/-- Where a repair does nothing, nothing is done in place. -/
theorem on_nothing (hdone : Except.ok (ε := Fault) (.start g) = .ok done) (log : List Notice) :
    on ⟨g, log⟩ (pure 0) = (.ok done.removed, ⟨done.graph, log ++ done.notices⟩) := by
  obtain rfl : .start g = done := Except.ok.inj hdone
  rw [on_pure, Repaired.start, List.append_nil]

/-- Two repairs in place, one after the other. -/
theorem Agrees.andThen {work : AtBench Nat} {repair : BlockGraph → Except Fault Repaired}
    {all : Repaired} (h : Agrees work repair done.graph) (hrun : done.andThen repair = .ok all) :
    ∃ removed, all.removed = done.removed + removed ∧ ∀ log,
      on ⟨done.graph, log ++ done.notices⟩ work =
        (.ok removed, ⟨all.graph, log ++ all.notices⟩) := by
  rcases Fault.bind_eq_ok_iff.1 hrun with ⟨more, hmore, hall⟩
  obtain rfl := Except.ok.inj hall
  refine ⟨more.removed, rfl, fun log => ?_⟩
  rw [h more hmore, List.append_assoc]

/-- Repairs done in turn come to the same in place when each of them does. -/
theorem Agrees.inTurn {work : α → AtBench Nat} {repair : α → BlockGraph → Except Fault Repaired}
    (items : List α) (hitems : ∀ item ∈ items, ∀ g, Agrees (work item) (repair item) g)
    (g : BlockGraph) : Agrees (inTurn work items) (Repaired.inTurn repair items) g := by
  have hfold : ∀ before after : Repaired,
      items.foldlM (fun done item => done.andThen (repair item)) before = .ok after → ∀ log,
      on ⟨before.graph, log ++ before.notices⟩
        (items.foldlM (fun removed item => return removed + (← work item)) before.removed) =
          (.ok after.removed, ⟨after.graph, log ++ after.notices⟩) := by
    induction items with
    | nil =>
      intro before after hrun log
      obtain rfl : before = after := Except.ok.inj hrun
      rfl
    | cons first rest ih =>
      intro before after hrun log
      rw [List.foldlM_cons, Fault.bind_eq_ok_iff] at hrun
      rcases hrun with ⟨once, honce, hrest⟩
      have hfirst := (hitems first List.mem_cons_self before.graph).andThen honce
      rcases hfirst with ⟨removed, hremoved, hstep⟩
      rw [List.foldlM_cons, on_bind, on_bind, hstep]
      simp only [on_pure]
      rw [← hremoved]
      exact ih (fun item hmem => hitems item (List.mem_cons_of_mem _ hmem)) once after hrest log
  intro done hrun log
  have hall := hfold (.start g) done hrun log
  rwa [Repaired.start, List.append_nil] at hall

/-! ## The repairs of a command -/

/-- Taking off repeated options step by step agrees with the repair. -/
theorem agrees_unplugDuplicate (command : BlockId) (g : BlockGraph) :
    Agrees (unplugDuplicate command) (ShellComposer.unplugDuplicate command) g := by
  intro done hdone log
  unfold unplugDuplicate
  rw [ShellComposer.unplugDuplicate] at hdone
  rw [on_bind, on_graph]
  dsimp only
  cases hfirst : firstRepeated [] (flaggedOptions g command) with
  | none =>
    simp only [hfirst] at hdone
    exact on_nothing hdone log
  | some option =>
    simp only [hfirst] at hdone
    rcases Fault.bind_eq_ok_iff.1 hdone with ⟨g', hdetach, hpure⟩
    obtain rfl := Except.ok.inj hpure
    simp only [on_bind, on_detach hdetach, on_note, on_pure]

/-- Taking off the options of a group step by step agrees with the repair. -/
theorem agrees_unplugGroup (command : BlockId) (group : List String) (rounds : Nat)
    (g : BlockGraph) :
    Agrees (unplugGroup command group rounds)
      (ShellComposer.unplugGroup command group rounds) g := by
  induction rounds generalizing g with
  | zero => exact fun done hdone log => on_nothing hdone log
  | succ rounds ih =>
    intro done hdone log
    unfold unplugGroup
    rw [ShellComposer.unplugGroup] at hdone
    rw [on_bind, on_graph]
    dsimp only
    rcases hmembers : (flaggedOptions g command).filter fun option => group.contains option.2 with
      _ | ⟨⟨_, keeper⟩, _ | ⟨⟨second, flag⟩, others⟩⟩
    · simp only [hmembers] at hdone ⊢
      exact on_nothing hdone log
    · simp only [hmembers] at hdone ⊢
      exact on_nothing hdone log
    · simp only [hmembers] at hdone ⊢
      rcases Fault.bind_eq_ok_iff.1 hdone with ⟨g', hdetach, hmore⟩
      rcases (ih g').andThen hmore with ⟨removed, hremoved, hstep⟩
      have hnext := hstep log
      simp only [on_bind, on_detach hdetach, on_note, on_pure, hnext, hremoved]

/-- Treating the groups step by step agrees with the repair. -/
theorem agrees_unplugExclusive (command : BlockId) (groups : List (List String))
    (g : BlockGraph) :
    Agrees (unplugExclusive command groups) (ShellComposer.unplugExclusive command groups) g :=
  Agrees.inTurn groups (fun group _ g => agrees_unplugGroup command group g.size g) g

/-- Detaching blocks one by one is what the fold over them does. -/
theorem on_forM_detach {taken : List BlockId}
    (htaken : taken.foldlM (fun g id => g.detach id true) g = .ok g') (log : List Notice) :
    on ⟨g, log⟩ (taken.forM fun id => edit (.detach id true)) = (.ok (), ⟨g', log⟩) := by
  induction taken generalizing g with
  | nil =>
    obtain rfl : g = g' := Except.ok.inj htaken
    rfl
  | cons first rest ih =>
    rw [List.foldlM_cons, Fault.bind_eq_ok_iff] at htaken
    rcases htaken with ⟨once, hfirst, hrest⟩
    have hcons : ((first :: rest).forM fun id => edit (.detach id true)) =
        edit (.detach first true) >>= fun _ => rest.forM fun id => edit (.detach id true) := rfl
    rw [hcons, on_bind, on_detach hfirst]
    exact ih hrest

/-- Trimming an operand step by step agrees with the repair. -/
theorem agrees_trimOperand (attached : List BlockId) (operand : OperandDef) (g : BlockGraph) :
    Agrees (trimOperand attached operand) (ShellComposer.trimOperand attached operand) g := by
  intro done hdone log
  unfold trimOperand
  rw [ShellComposer.trimOperand] at hdone
  cases hlimit : operand.cardinality.max.limit with
  | none =>
    simp only [hlimit] at hdone
    exact on_nothing hdone log
  | some most =>
    simp only [hlimit] at hdone
    simp only [on_bind, on_graph]
    generalize (attached.filter _).drop most.toNat = excess at hdone ⊢
    cases excess with
    | nil => exact on_nothing hdone log
    | cons first rest =>
      rcases Fault.bind_eq_ok_iff.1 hdone with ⟨g', hdetach, hpure⟩
      obtain rfl := Except.ok.inj hpure
      simp only [on_bind, on_forM_detach hdetach, on_note, on_pure]

/-- Trimming all operands step by step agrees with the repair. -/
theorem agrees_trimOperands (command : BlockId) (definition : CommandDef) (g : BlockGraph) :
    Agrees (trimOperands command definition) (ShellComposer.trimOperands command definition) g :=
  Agrees.inTurn definition.operands (fun operand _ g' => agrees_trimOperand _ operand g') g

/-- Repairing a command step by step agrees with the repair. -/
theorem agrees_repairCommand (command : BlockId) (definition : CommandDef) (g : BlockGraph) :
    Agrees (repairCommand command definition)
      (ShellComposer.repairCommand command definition) g := by
  intro done hdone log
  rcases Fault.bind_eq_ok_iff.1 hdone with ⟨first, hfirst, hmore⟩
  rcases Fault.bind_eq_ok_iff.1 hmore with ⟨second, hsecond, hthird⟩
  have honce := agrees_unplugDuplicate command g first hfirst log
  rcases (agrees_unplugExclusive command definition.exclusiveOptions _).andThen hsecond with
    ⟨removed, hremoved, htwice⟩
  rcases (agrees_trimOperands command definition _).andThen hthird with
    ⟨removed', hremoved', hthrice⟩
  unfold repairCommand
  simp only [on_bind, honce, htwice log, hthrice log, on_pure, hremoved, hremoved']

/-! ## The script -/

/-- Repairing a block step by step agrees with the repair. -/
theorem agrees_repairBlock (catalog : Catalog) (id : BlockId) (g : BlockGraph) :
    Agrees (repairBlock catalog id) (ShellComposer.repairBlock catalog id) g := by
  intro done hdone log
  unfold repairBlock
  rw [ShellComposer.repairBlock] at hdone
  rw [on_bind, on_graph]
  dsimp only
  rcases hblock : g.get? id with _ | ⟨kind, fields, slots, enabled⟩
  · simp only [hblock] at hdone ⊢
    exact on_nothing hdone log
  · simp only [hblock] at hdone ⊢
    cases enabled with
    | false => cases kind <;> exact on_nothing hdone log
    | true =>
      cases kind with
      | command name =>
        cases hdefinition : catalog.command? name with
        | none =>
          simp only [hdefinition] at hdone ⊢
          exact on_nothing hdone log
        | some definition =>
          simp only [hdefinition] at hdone ⊢
          exact agrees_repairCommand id definition g done hdone log
      | _ => exact on_nothing hdone log

/-- A pass over the script comes to the same in place. -/
theorem agrees_repairAll (catalog : Catalog) (g : BlockGraph) :
    Agrees (repairAll catalog) (ShellComposer.repairAll catalog) g :=
  Agrees.inTurn g.ids (fun id _ g' => agrees_repairBlock catalog id g') g

end AtBench

/-! ## Reactions -/

namespace Workspace

variable {w : Workspace}

/-- One pass done in place: what it puts on the log, and whether it goes on. -/
theorem on_react (hrun : repairAll w.catalog w.refresh.graph = .ok done) (bound left : Nat)
    (log : List Notice) :
    AtBench.on ⟨w.graph, log⟩ (AtBench.react w.catalog bound left) =
      if done.removed = 0 then (.ok (), ⟨done.graph, log ++ done.notices⟩)
      else match left with
        | 0 => (.error (.unsettled bound), ⟨done.graph.refresh.2, log ++ done.notices⟩)
        | left + 1 =>
          AtBench.on ⟨done.graph, log ++ done.notices⟩ (AtBench.react w.catalog bound left) := by
  have hpass := AtBench.agrees_repairAll w.catalog w.refresh.graph done hrun log
  rw [AtBench.react.eq_def, AtBench.on_bind, AtBench.on_refresh]
  dsimp only
  rw [AtBench.on_bind]
  have hstart : (⟨w.graph.refresh.2, log⟩ : Bench) = ⟨w.refresh.graph, log⟩ := rfl
  rw [hstart, hpass]
  dsimp only
  split
  · rfl
  · cases left with
    | zero => simp only [AtBench.on_bind, AtBench.on_refresh, AtBench.on_throw]
    | succ left => rfl

/-- A reaction done in place ends as the reaction does and leaves the same graph, and what it puts
on the log is what the reaction adds to the unread notices, also when it runs out of cycles. -/
theorem reactWithin_logs (hsound : w.graph.Sound) (bound left : Nat) (log : List Notice) :
    ∃ given, (reactWithin bound left w).workspace.notices = w.notices ++ given ∧
      AtBench.on ⟨w.graph, log⟩ (AtBench.react w.catalog bound left) =
        ((reactWithin bound left w).result,
          ⟨(reactWithin bound left w).workspace.graph, log ++ given⟩) := by
  induction left generalizing w log with
  | zero =>
    rcases repairAll_succeeds hsound.refresh w.catalog with ⟨done, _, hrun, -⟩
    refine ⟨done.notices, ?_⟩
    have hrun' : repairAll w.refresh.catalog w.refresh.graph = .ok done := hrun
    rw [on_react hrun, reactWithin.eq_def]
    simp only [hrun']
    split <;> exact ⟨rfl, rfl⟩
  | succ left ih =>
    rcases repairAll_succeeds hsound.refresh w.catalog with ⟨done, _, hrun, -⟩
    have hrun' : repairAll w.refresh.catalog w.refresh.graph = .ok done := hrun
    rw [on_react hrun, reactWithin.eq_def]
    simp only [hrun']
    split
    · exact ⟨done.notices, rfl, rfl⟩
    · have hsound' : (w.refresh.repairedBy done).graph.Sound := hsound.refresh.of_repairAll hrun
      rcases ih hsound' (log ++ done.notices) with ⟨given, hnotices, hlogged⟩
      refine ⟨done.notices ++ given, ?_, ?_⟩
      · exact hnotices.trans (List.append_assoc ..)
      · rw [← List.append_assoc]
        exact hlogged

/-- What the reaction to a change puts on the log. -/
def given (w : Workspace) : List Notice :=
  (AtBench.on ⟨w.graph, []⟩ (AtBench.react w.catalog w.cycleBound w.cycleBound)).2.log

/-- A reaction adds to the unread notices what it puts on the log. -/
theorem notices_react (hsound : w.graph.Sound) :
    w.react.workspace.notices = w.notices ++ w.given := by
  rcases reactWithin_logs hsound w.cycleBound w.cycleBound [] with ⟨given, hnotices, hlogged⟩
  rw [Workspace.given, hlogged]
  exact hnotices

end Workspace

end ShellComposer
