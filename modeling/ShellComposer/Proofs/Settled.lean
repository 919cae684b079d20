import ShellComposer.Proofs.Repairing

/-!
# Commands that need no repair

A pass over the commands of the script that takes no block off has found every command in order: no
flag occurs twice, of options that exclude each other there is at most one, and no operand is given
more often than allowed.  And where all of them are in order, it takes nothing off.

Main results:

- Definition `Idle`: a repair that takes nothing off.
- Theorem `Idle.of_inTurn`: of repairs done in turn that take nothing off, none does.
- Structure `InOrder` and theorem `inOrder_of_idle`: what the repairs of a command leave.
- Theorem `inOrder_of_repairAll`: a pass that takes nothing off found every command in order.
- Theorem `repairAll_eq_start`: where every command is in order, a pass takes nothing off.
-/

namespace ShellComposer

open BlockGraph Catalog

variable {g : BlockGraph} {done : Repaired} {command id : BlockId} {definition : CommandDef}

/-! ## Repairs that take nothing off -/

/-- A repair of a graph that takes nothing off. -/
def Idle (repair : BlockGraph → Except Fault Repaired) (g : BlockGraph) : Prop :=
  ∃ done, repair g = .ok done ∧ done.removed = 0

/-- A repair that takes nothing off leaves the graph as it is. -/
theorem Succeeds.graph_eq {repair : BlockGraph → Except Fault Repaired} (h : Succeeds repair g)
    (hrun : repair g = .ok done) (hnone : done.removed = 0) : done.graph = g := by
  rcases h with ⟨done', taken, hrun', hoff⟩
  obtain rfl := Except.ok.inj (hrun'.symm.trans hrun)
  exact hoff.graph_eq_of_removed hnone

theorem Repaired.removed_le_of_andThen {repair : BlockGraph → Except Fault Repaired}
    {all : Repaired} (hrun : done.andThen repair = .ok all) : done.removed ≤ all.removed := by
  rcases Fault.bind_eq_ok_iff.1 hrun with ⟨more, -, hall⟩
  obtain rfl := Except.ok.inj hall
  exact Nat.le_add_right _ _

/-- If nothing has been taken off in the end, the last repair was idle. -/
theorem Idle.of_andThen {repair : BlockGraph → Except Fault Repaired} {all : Repaired}
    (hdone : done.graph = g) (hrepair : Succeeds repair g) (hrun : done.andThen repair = .ok all)
    (hnone : all.removed = 0) : Idle repair g ∧ all.graph = g := by
  rcases Fault.bind_eq_ok_iff.1 hrun with ⟨more, hmore, hall⟩
  obtain rfl := Except.ok.inj hall
  rcases Nat.add_eq_zero_iff.1 hnone with ⟨-, hsecond⟩
  rw [hdone] at hmore
  have hgraph : more.graph = g := hrepair.graph_eq hmore hsecond
  exact ⟨⟨more, hmore, hsecond⟩, hgraph⟩

theorem Repaired.removed_le_of_foldlM {α : Type} {repair : α → BlockGraph → Except Fault Repaired}
    {items : List α} {all : Repaired}
    (hrun : items.foldlM (fun done item => done.andThen (repair item)) done = .ok all) :
    done.removed ≤ all.removed := by
  induction items generalizing done with
  | nil =>
    obtain rfl := Except.ok.inj hrun
    exact Nat.le_refl _
  | cons first rest ih =>
    rw [List.foldlM_cons, Fault.bind_eq_ok_iff] at hrun
    rcases hrun with ⟨once, honce, hrest⟩
    exact Nat.le_trans (removed_le_of_andThen honce) (ih hrest)

/-- Of repairs done in turn that take nothing off, none does. -/
theorem Idle.of_inTurn {α : Type} (repair : α → BlockGraph → Except Fault Repaired)
    {items : List α} (hitems : ∀ item ∈ items, Succeeds (repair item) g)
    (hidle : Idle (Repaired.inTurn repair items) g) : ∀ item ∈ items, Idle (repair item) g := by
  rcases hidle with ⟨all, hrun, hnone⟩
  -- The run goes on from a graph that the repairs before have left as it was.
  have hfold : ∀ done : Repaired, done.graph = g →
      items.foldlM (fun done item => done.andThen (repair item)) done = .ok all →
      ∀ item ∈ items, Idle (repair item) g := by
    clear hrun
    induction items with
    | nil => exact fun _ _ _ item hmem => absurd hmem List.not_mem_nil
    | cons first rest ih =>
      intro done hdone hrun
      rw [List.foldlM_cons, Fault.bind_eq_ok_iff] at hrun
      rcases hrun with ⟨once, honce, hrest⟩
      have hzero : once.removed = 0 :=
        Nat.eq_zero_of_le_zero (hnone ▸ Repaired.removed_le_of_foldlM hrest)
      obtain ⟨hfirst, hgraph⟩ :=
        Idle.of_andThen hdone (hitems first List.mem_cons_self) honce hzero
      have hlater := ih (fun item hmem => hitems item (List.mem_cons_of_mem _ hmem)) once hgraph
        hrest
      intro item hmem
      rcases List.mem_cons.1 hmem with rfl | hmem
      · exact hfirst
      · exact hlater item hmem
  exact hfold (.start g) rfl hrun

/-! ## The three repairs of a command -/

/-- No flag is repeated exactly when the flags differ from each other and from those seen before. -/
theorem firstRepeated_eq_none_iff {seen : List String} {options : List (BlockId × String)} :
    firstRepeated seen options = none ↔
      (options.map Prod.snd).Nodup ∧ ∀ flag ∈ options.map Prod.snd, flag ∉ seen := by
  induction options generalizing seen with
  | nil => simp [firstRepeated]
  | cons first rest ih =>
    rcases first with ⟨id, flag⟩
    rw [firstRepeated]
    by_cases hseen : flag ∈ seen
    · simp [hseen]
    · rw [if_neg (by simpa using hseen), ih]
      simp only [List.map_cons, List.nodup_cons, List.mem_cons, not_or, forall_eq_or_imp]
      constructor
      · rintro ⟨hnodup, hfresh⟩
        refine ⟨⟨fun hmem => (hfresh flag hmem).1 rfl, hnodup⟩, hseen, fun other hmem => ?_⟩
        exact (hfresh other hmem).2
      · rintro ⟨⟨hnew, hnodup⟩, -, hfresh⟩
        refine ⟨hnodup, fun other hmem => ⟨?_, hfresh other hmem⟩⟩
        rintro rfl
        exact hnew hmem

/-- Without a duplicate to take off, the flags of a command are different. -/
theorem nodup_of_idle_unplugDuplicate (hidle : Idle (unplugDuplicate command) g) :
    ((flaggedOptions g command).map Prod.snd).Nodup := by
  rcases hidle with ⟨done, hrun, hnone⟩
  rw [unplugDuplicate] at hrun
  cases hfirst : firstRepeated [] (flaggedOptions g command) with
  | none => exact (firstRepeated_eq_none_iff.1 hfirst).1
  | some option =>
    rw [hfirst] at hrun
    rcases Fault.bind_eq_ok_iff.1 hrun with ⟨g', -, hdone⟩
    obtain rfl := Except.ok.inj hdone
    exact absurd hnone Nat.one_ne_zero

/-- Without an option to take off, at most one option of a group is there. -/
theorem length_le_of_idle_unplugGroup {group : List String} {rounds : Nat}
    (hidle : Idle (unplugGroup command group (rounds + 1)) g) :
    ((flaggedOptions g command).filter fun option => group.contains option.2).length ≤ 1 := by
  rcases hidle with ⟨done, hrun, hnone⟩
  rw [unplugGroup] at hrun
  split at hrun
  · rcases Fault.bind_eq_ok_iff.1 hrun with ⟨g', -, hrest⟩
    rcases Fault.bind_eq_ok_iff.1 hrest with ⟨more, -, hdone⟩
    obtain rfl := Except.ok.inj hdone
    simp at hnone
  · rename_i hfew
    cases hmembers : (flaggedOptions g command).filter fun option => group.contains option.2 with
    | nil => exact Nat.zero_le _
    | cons first rest =>
      cases rest with
      | nil => exact Nat.le_refl _
      | cons second rest => exact absurd hmembers (hfew _ _ _ _ _)

/-- Without an operand to take off, an operand is given no more often than allowed. -/
theorem length_le_of_idle_trimOperand {attached : List BlockId} {operand : OperandDef}
    {most : UInt32} (hmost : operand.cardinality.max.limit = some most)
    (hidle : Idle (trimOperand attached operand) g) :
    (attached.filter (g.hasKind (BlockKind.isOperandNamed operand.id))).length ≤ most.toNat := by
  rcases hidle with ⟨done, hrun, hnone⟩
  rw [trimOperand, hmost] at hrun
  cases hexcess : (attached.filter (g.hasKind (BlockKind.isOperandNamed operand.id))).drop
      most.toNat with
  | nil => exact List.drop_eq_nil_iff.1 hexcess
  | cons first rest =>
    simp only [hexcess] at hrun
    rcases Fault.bind_eq_ok_iff.1 hrun with ⟨g', -, hdone⟩
    obtain rfl := Except.ok.inj hdone
    exact absurd hnone (Nat.succ_ne_zero _)

/-! ## All repairs -/

/-- A command as its repairs leave it. -/
structure InOrder (g : BlockGraph) (command : BlockId) (definition : CommandDef) : Prop where
  /-- No flag occurs twice. -/
  distinct : ((flaggedOptions g command).map Prod.snd).Nodup
  /-- Of options that exclude each other there is at most one. -/
  exclusive : ∀ group ∈ definition.exclusiveOptions,
    ((flaggedOptions g command).filter fun option => group.contains option.2).length ≤ 1
  /-- No operand is given more often than allowed. -/
  bounded : ∀ operand ∈ definition.operands, ∀ most,
    operand.cardinality.max.limit = some most →
      ((g.slotChain command operandsSlot).filter
        (g.hasKind (BlockKind.isOperandNamed operand.id))).length ≤ most.toNat

/-- A command that its repairs leave alone is in order. -/
theorem inOrder_of_idle (hsound : g.Sound) (hidle : Idle (repairCommand command definition) g) :
    InOrder g command definition := by
  rcases hidle with ⟨third, hrun, hnone⟩
  rw [repairCommand, Fault.bind_eq_ok_iff] at hrun
  rcases hrun with ⟨first, hfirst, hrun⟩
  rcases Fault.bind_eq_ok_iff.1 hrun with ⟨second, hsecond, hthird⟩
  have hduplicate := unplugDuplicate_succeeds hsound command
  have hexclusive := unplugExclusive_succeeds hsound command definition.exclusiveOptions
  have htrim := trimOperands_succeeds hsound command definition
  have hsecondNone : second.removed = 0 :=
    Nat.eq_zero_of_le_zero (hnone ▸ Repaired.removed_le_of_andThen hthird)
  have hfirstNone : first.removed = 0 :=
    Nat.eq_zero_of_le_zero (hsecondNone ▸ Repaired.removed_le_of_andThen hsecond)
  have hgraph : first.graph = g := hduplicate.graph_eq hfirst hfirstNone
  rcases Idle.of_andThen hgraph hexclusive hsecond hsecondNone with ⟨hidle, hgraph'⟩
  rcases Idle.of_andThen hgraph' htrim hthird hnone with ⟨hidle', -⟩
  have hgroups : ∀ group ∈ definition.exclusiveOptions, Idle (unplugGroup command group g.size) g :=
    Idle.of_inTurn (fun group g => unplugGroup command group g.size g)
      (fun group _ => unplugGroup_succeeds hsound command group g.size) hidle
  have hoperands := Idle.of_inTurn (trimOperand (g.slotChain command operandsSlot))
    (fun operand _ => trimOperand_succeeds operand fun _ hmem =>
      hsound.movable_of_mem_slotChain hmem) hidle'
  refine ⟨nodup_of_idle_unplugDuplicate ⟨first, hfirst, hfirstNone⟩, fun group hmem => ?_,
    fun operand hmem most hmost => length_le_of_idle_trimOperand hmost (hoperands operand hmem)⟩
  have hsize : ∃ rounds, g.size = rounds + 1 := by
    refine Nat.exists_eq_succ_of_ne_zero ?_
    rw [← length_ids, ne_eq, List.length_eq_zero_iff]
    exact List.ne_nil_of_mem (mem_ids_iff.2 hsound.root_present)
  rcases hsize with ⟨rounds, hrounds⟩
  have hgroup := hgroups group hmem
  rw [hrounds] at hgroup
  exact length_le_of_idle_unplugGroup hgroup

/-- A pass that takes nothing off found every command of the script in order. -/
theorem inOrder_of_repairAll {catalog : Catalog} {block : Block} {name : String}
    (hsound : g.Sound) (hidle : Idle (repairAll catalog) g) (hblock : g.get? id = some block)
    (hkind : block.kind = .command name) (henabled : block.enabled = true)
    (hknown : catalog.command? name = some definition) : InOrder g id definition := by
  have hblocks := Idle.of_inTurn (repairBlock catalog)
    (fun id _ => repairBlock_succeeds hsound catalog id) hidle
  have hidle' := hblocks id (mem_ids_iff.2 (contains_iff.2 ⟨block, hblock⟩))
  have hrepair : repairBlock catalog id g = repairCommand id definition g := by
    rcases block with ⟨kind, fields, slots, enabled⟩
    obtain rfl : kind = .command name := hkind
    obtain rfl : enabled = true := henabled
    simp only [repairBlock, hblock, hknown]
  rcases hidle' with ⟨done, hrun, hnone⟩
  rw [hrepair] at hrun
  exact inOrder_of_idle hsound ⟨done, hrun, hnone⟩

/-! ## Commands in order are left alone -/

/-- Before any repair there is nothing that a repair goes on with. -/
theorem Repaired.start_andThen (repair : BlockGraph → Except Fault Repaired) :
    (Repaired.start g).andThen repair = repair g := by
  cases hrun : repair g <;>
    simp [Repaired.andThen, Repaired.start, hrun, bind, Except.bind, pure, Except.pure]

/-- Repairs done in turn leave a graph alone if each of them does. -/
theorem Repaired.inTurn_eq_start {α : Type} {repair : α → BlockGraph → Except Fault Repaired}
    {items : List α} (hitems : ∀ item ∈ items, repair item g = .ok (.start g)) :
    Repaired.inTurn repair items g = .ok (.start g) := by
  unfold Repaired.inTurn
  induction items with
  | nil => rfl
  | cons first rest ih =>
    rw [List.foldlM_cons, Repaired.start_andThen, hitems first List.mem_cons_self]
    exact ih fun item hmem => hitems item (List.mem_cons_of_mem _ hmem)

/-- The repairs of a command leave a command alone that is in order. -/
theorem InOrder.repairCommand_eq (h : InOrder g command definition) :
    repairCommand command definition g = .ok (.start g) := by
  have hduplicate : unplugDuplicate command g = .ok (.start g) :=
    unplugDuplicate_of_none (firstRepeated_eq_none_iff.2 ⟨h.distinct, by simp⟩)
  have hexclusive : unplugExclusive command definition.exclusiveOptions g = .ok (.start g) :=
    Repaired.inTurn_eq_start fun group hmem => unplugGroup_of_few g.size (h.exclusive group hmem)
  have htrim : trimOperands command definition g = .ok (.start g) := by
    refine Repaired.inTurn_eq_start fun operand hmem => ?_
    rw [trimOperand]
    cases hmost : operand.cardinality.max.limit with
    | none => rfl
    | some most =>
      simp only [List.drop_eq_nil_iff.2 (h.bounded operand hmem most hmost)]
      rfl
  have hrest : ((Repaired.start g).andThen
      (unplugExclusive command definition.exclusiveOptions) >>= fun second =>
        second.andThen (trimOperands command definition)) = .ok (.start g) := by
    rw [Repaired.start_andThen, Fault.bind_eq_ok_iff]
    exact ⟨_, hexclusive, (Repaired.start_andThen _).trans htrim⟩
  rw [repairCommand, Fault.bind_eq_ok_iff]
  exact ⟨_, hduplicate, hrest⟩

/-- A pass leaves a graph alone where every command of the script is in order. -/
theorem repairAll_eq_start {catalog : Catalog}
    (horder : ∀ id block name definition, g.get? id = some block → block.kind = .command name →
      block.enabled = true → catalog.command? name = some definition → InOrder g id definition) :
    repairAll catalog g = .ok (.start g) := by
  refine Repaired.inTurn_eq_start fun id _ => ?_
  rw [repairBlock]
  split
  · rename_i name fields slots hblock
    split
    · rename_i definition hknown
      exact (horder id _ name definition hblock rfl rfl hknown).repairCommand_eq
    · rfl
  · rfl

end ShellComposer
