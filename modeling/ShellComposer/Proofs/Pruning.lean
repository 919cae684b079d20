import ShellComposer.Proofs.Ending
import ShellComposer.Proofs.Settled
import ShellComposer.Proofs.Surplus

/-!
# Repairs take off surplus blocks

A repeated option, the second of two options that exclude each other when no group before has two
members, and an operand beyond a limit are all surplus.  So every repair takes off surplus blocks
only.  Operands are trimmed by a list read before, but an operand on it that has been taken off
since hangs nowhere, and taking it off again does nothing.

Main results:

- Theorem `Repaired.inTurn_induction`: what holds after each of several repairs holds after all.
- Theorems `unplugDuplicate_prunes`, `unplugExclusive_prunes`, `trimOperands_prunes`: the repairs of
  a command.
- Theorem `repairAll_prunes`: a pass over all commands.
- Theorem `InOrder.kept_eq`: a command in order keeps all its blocks.
-/

namespace ShellComposer

open BlockGraph Catalog Relation

variable {catalog : Catalog} {g g' : BlockGraph} {command id : BlockId}
variable {definition : CommandDef}

/-! ## The repairs of a command -/

variable {done : Repaired} {before after : List (List String)} {group : List String}

/-- What a repeated option repeats. -/
theorem exists_earlier_of_firstRepeated {seen : List String} {options : List (BlockId × String)}
    {option : BlockId × String} (h : firstRepeated seen options = some option) :
    option.2 ∈ seen ∨ ∃ earlier, [earlier, option].Sublist options ∧ earlier.2 = option.2 := by
  induction options generalizing seen with
  | nil => simp [firstRepeated] at h
  | cons first rest ih =>
    rw [firstRepeated] at h
    split at h
    · rename_i hseen
      obtain rfl := Option.some.inj h
      exact .inl (List.contains_iff_mem.1 hseen)
    · rcases ih h with hseen | ⟨earlier, hpair, hflag⟩
      · rcases List.mem_cons.1 hseen with hsame | hseen
        · have hlater := List.singleton_sublist.2 (mem_of_firstRepeated h)
          exact .inr ⟨first, hlater.cons_cons first, hsame.symm⟩
        · exact .inl hseen
      · exact .inr ⟨earlier, hpair.cons first, hflag⟩

namespace Cataloged

/-- The options slot of a command holds nothing but options. -/
theorem flaggedOptions_eq (h : Cataloged catalog g)
    (hcommand : ScriptCommand catalog g command definition) : flaggedOptions g command =
      (g.slotChain command optionsSlot).map fun id => (id, g.flagOf id) := by
  unfold flaggedOptions
  rw [List.filter_eq_self.2]
  · rfl
  · intro id hmem
    have hshown : g.tagShown id = some (Row.options.tag definition) :=
      h.tagShown_of_mem hcommand hmem
    rcases Option.bind_eq_some_iff.1 hshown with ⟨⟨kind, fields, slots, enabled⟩, hblock, htag⟩
    unfold hasKind
    rw [hblock]
    cases kind <;> simp_all [BlockKind.tag?, BlockKind.isOption, Row.tag]

/-- The members of a group are the attached options whose flag is in it, with their flags. -/
theorem groupMembers_eq (h : Cataloged catalog g)
    (hcommand : ScriptCommand catalog g command definition) (group : List String) :
    groupMembers g command group =
      ((g.slotChain command optionsSlot).filter fun id => group.contains (g.flagOf id)).map
        fun id => (id, g.flagOf id) := by
  unfold groupMembers
  rw [h.flaggedOptions_eq hcommand, List.filter_map]
  rfl

/-- A group has as many members as there are options with a flag in it. -/
theorem length_groupMembers (h : Cataloged catalog g)
    (hcommand : ScriptCommand catalog g command definition) (group : List String) :
    (groupMembers g command group).length =
      ((g.slotChain command optionsSlot).filter fun id => group.contains (g.flagOf id)).length := by
  rw [h.groupMembers_eq hcommand, List.length_map]

end Cataloged

/-- Taking off a duplicate takes off a surplus option. -/
theorem unplugDuplicate_prunes (hcataloged : Cataloged catalog g)
    (hcommand : ScriptCommand catalog g command definition)
    (hrun : unplugDuplicate command g = .ok done) : Prunes catalog g done.graph := by
  cases hfirst : firstRepeated [] (flaggedOptions g command) with
  | none =>
    obtain rfl := Except.ok.inj ((unplugDuplicate_of_none hfirst).symm.trans hrun)
    exact .refl hcataloged
  | some option =>
    have hheld := mem_slotChain_of_flaggedOptions (mem_of_firstRepeated hfirst)
    obtain ⟨notices, hoff⟩ :=
      unplugDuplicate_of_some hfirst (hcataloged.movable_of_mem_slotChain hheld)
    obtain rfl := Except.ok.inj (hoff.symm.trans hrun)
    obtain ⟨earlier, hpair, hsame⟩ :=
      (exists_earlier_of_firstRepeated hfirst).resolve_left List.not_mem_nil
    rw [hcataloged.flaggedOptions_eq hcommand] at hpair
    have hflags : ∀ other ∈ [earlier, option], other.2 = g.flagOf other.1 := by
      intro other hmem
      rcases List.mem_map.1 (hpair.subset hmem) with ⟨id, -, rfl⟩
      rfl
    have hchain : [earlier.1, option.1].Sublist (g.slotChain command optionsSlot) := by
      have hmap := hpair.map Prod.fst
      simpa [List.map_map, Function.comp_def] using hmap
    have hflag : g.flagOf earlier.1 = g.flagOf option.1 := by
      rw [← hflags earlier (by simp), ← hflags option (by simp), hsame]
    have hrepeated := keptOptions_of_repeated hcataloged.nodup_slotChain hchain hflag
      definition.exclusiveOptions
    have hsurplus : Surplus catalog g command definition .options option.1 :=
      ⟨hcommand, hheld, hrepeated.1⟩
    exact hsurplus.prunes hcataloged hrepeated.2

/-- No group gets more members when blocks are taken off. -/
theorem Prunes.length_groupMembers_le (h : Prunes catalog g g') (hcataloged : Cataloged catalog g)
    (hcommand : ScriptCommand catalog g command definition) (group : List String) :
    (groupMembers g' command group).length ≤ (groupMembers g command group).length := by
  rw [(h.cataloged hcataloged).length_groupMembers (h.scriptCommand hcataloged hcommand),
    hcataloged.length_groupMembers hcommand, flagOf_congr h.content_eq]
  exact ((h.slotChain_sublist hcataloged hcommand optionsSlot).filter _).length_le

/-- The loop over a group takes off surplus options, when no group before has two members. -/
theorem ClearsGroup.prunes {last : BlockGraph} (h : ClearsGroup command group g last)
    (hcataloged : Cataloged catalog g) (hcommand : ScriptCommand catalog g command definition)
    (hgroups : definition.exclusiveOptions = before ++ group :: after)
    (hfew : ∀ earlier ∈ before, (groupMembers g command earlier).length ≤ 1) :
    Prunes catalog g last := by
  induction h with
  | ends _ => exact .refl hcataloged
  | @goes g g' last keeper second rest many off _ ih =>
    have hpair : [keeper, second].Sublist (groupMembers g command group) := by
      rw [many]
      simp
    rw [hcataloged.groupMembers_eq hcommand] at hpair
    have hchain : [keeper.1, second.1].Sublist
        ((g.slotChain command optionsSlot).filter fun id => group.contains (g.flagOf id)) := by
      have hmap := hpair.map Prod.fst
      simpa [List.map_map, Function.comp_def] using hmap
    have hin : ∀ id ∈ [keeper.1, second.1], group.contains (g.flagOf id) = true :=
      fun id hmem => (List.mem_filter.1 (hchain.subset hmem)).2
    have hfew' : ∀ earlier ∈ before, ((g.slotChain command optionsSlot).filter
        fun id => earlier.contains (g.flagOf id)).length ≤ 1 := by
      intro earlier hmem
      rw [← hcataloged.length_groupMembers hcommand]
      exact hfew earlier hmem
    have hgroup := keptOptions_of_group hcataloged.nodup_slotChain hgroups
      (hchain.trans List.filter_sublist) (hin keeper.1 (by simp)) (hin second.1 (by simp)) hfew'
    have hsurplus : Surplus catalog g command definition .options second.1 :=
      ⟨hcommand, (hchain.trans List.filter_sublist).subset (by simp), hgroup.1⟩
    have honce := hsurplus.prunes hcataloged hgroup.2
    obtain rfl := (detach_eq_ok_iff.1 off).2.2
    have hrest := ih (honce.cataloged hcataloged) (honce.scriptCommand hcataloged hcommand)
      fun earlier hmem => Nat.le_trans
        (honce.length_groupMembers_le hcataloged hcommand earlier) (hfew earlier hmem)
    exact honce.trans hrest hcataloged

/-- What holds at first and after each of several repairs done in turn holds in the end. -/
theorem Repaired.inTurn_induction {α : Type} {repair : α → BlockGraph → Except Fault Repaired}
    {items : List α} {P : List α → BlockGraph → Prop} (hstart : P [] g)
    (hrepair : ∀ before item after, items = before ++ item :: after → ∀ g' done, P before g' →
      repair item g' = .ok done → P (before ++ [item]) done.graph)
    (hrun : inTurn repair items g = .ok done) : P items done.graph := by
  have hfold : ∀ (after before : List α) (once : Repaired), items = before ++ after →
      P before once.graph →
      after.foldlM (fun done item => done.andThen (repair item)) once = .ok done →
      P items done.graph := by
    intro after
    induction after with
    | nil =>
      intro before once hitems hbefore hrun
      obtain rfl := Except.ok.inj hrun
      rw [hitems, List.append_nil]
      exact hbefore
    | cons item after ih =>
      intro before once hitems hbefore hrun
      rw [List.foldlM_cons, Fault.bind_eq_ok_iff] at hrun
      rcases hrun with ⟨twice, htwice, hrest⟩
      rcases Fault.bind_eq_ok_iff.1 htwice with ⟨more, hmore, hmake⟩
      obtain rfl := Except.ok.inj hmake
      refine ih (before ++ [item]) _ (by simp [hitems]) ?_ hrest
      exact hrepair before item after hitems once.graph more hbefore hmore
  exact hfold items [] (.start g) rfl hstart hrun

/-- Taking off options that exclude each other takes off surplus options. -/
theorem unplugExclusive_prunes (hcataloged : Cataloged catalog g)
    (hcommand : ScriptCommand catalog g command definition)
    (hrun : unplugExclusive command definition.exclusiveOptions g = .ok done) :
    Prunes catalog g done.graph := by
  -- the groups dealt with so far have one member at most
  have hall := Repaired.inTurn_induction
    (P := fun before g' => Prunes catalog g g' ∧
      ∀ earlier ∈ before, (groupMembers g' command earlier).length ≤ 1)
    ⟨.refl hcataloged, by simp⟩ ?_ hrun
  · exact hall.1
  · rintro before group after hgroups g' done ⟨hprunes, hfew⟩ honce
    have hcataloged' := hprunes.cataloged hcataloged
    have hcommand' := hprunes.scriptCommand hcataloged hcommand
    obtain ⟨done', hrun', hclears⟩ := unplugGroup_clears hcataloged'.toSound command group
      hcataloged'.toSound.length_held_lt
    obtain rfl := Except.ok.inj (hrun'.symm.trans honce)
    have hmore := hclears.prunes hcataloged' hcommand' hgroups hfew
    refine ⟨hprunes.trans hmore hcataloged, fun earlier hmem => ?_⟩
    rcases List.mem_append.1 hmem with hmem | hmem
    · exact Nat.le_trans (hmore.length_groupMembers_le hcataloged' hcommand' earlier)
        (hfew earlier hmem)
    · obtain rfl := List.mem_singleton.1 hmem
      exact hclears.few

/-- An operand that the command may not keep is taken off, unless it has been taken off already. -/
theorem Prunes.unplug_operand (h : Prunes catalog g g') (hcataloged : Cataloged catalog g)
    (hcommand : ScriptCommand catalog g command definition)
    (hmem : id ∈ g.slotChain command operandsSlot)
    (hexcess : id ∉ keptOperands definition.operands g.operandName
      (g.slotChain command operandsSlot)) : Prunes catalog g (g'.unplug id) := by
  have hcataloged' := h.cataloged hcataloged
  have hcommand' := h.scriptCommand hcataloged hcommand
  have hexcess' : id ∉ Row.operands.kept definition g' (g'.slotChain command operandsSlot) := by
    rw [show operandsSlot = Row.operands.slot from rfl, h.kept_eq hcommand .operands]
    exact hexcess
  by_cases hheld : id ∈ g'.slotChain command operandsSlot
  · have hsurplus : Surplus catalog g' command definition .operands id :=
      ⟨hcommand', hheld, hexcess'⟩
    refine h.trans (hsurplus.prunes hcataloged' (ration_filter fun other hother => ?_)) hcataloged
    have hne : other ≠ id := fun hsame => hexcess' (hsame ▸ hother)
    simpa using hne
  · have hloose : g'.parent id = none := by
      rcases h with ⟨gone, hpruning⟩
      rw [hpruning.slotChain_eq hcataloged hcommand, List.mem_filter, not_and] at hheld
      have hgone : id ∈ gone := by simpa using hheld hmem
      exact (hpruning.taken.loose id hgone).1
    rw [unplug_eq_self hloose]
    exact h

/-- Operands that the command may not keep are taken off one after the other. -/
theorem Prunes.foldl_unplug_operands {excess : List BlockId} (h : Prunes catalog g g')
    (hcataloged : Cataloged catalog g) (hcommand : ScriptCommand catalog g command definition)
    (hexcess : ∀ id ∈ excess, id ∈ g.slotChain command operandsSlot ∧
      id ∉ keptOperands definition.operands g.operandName (g.slotChain command operandsSlot)) :
    Prunes catalog g (excess.foldl unplug g') := by
  induction excess generalizing g' with
  | nil => exact h
  | cons first rest ih =>
    rcases hexcess first List.mem_cons_self with ⟨hheld, hfirst⟩
    exact ih (h.unplug_operand hcataloged hcommand hheld hfirst)
      fun id hid => hexcess id (List.mem_cons_of_mem first hid)

/-- Trimming takes off surplus operands, also where some of the operands that were attached when
trimming began have been taken off since. -/
theorem trimOperand_prunes {operand : OperandDef} (h : Prunes catalog g g')
    (hcataloged : Cataloged catalog g) (hcommand : ScriptCommand catalog g command definition)
    (hmem : operand ∈ definition.operands)
    (hrun : trimOperand (g.slotChain command operandsSlot) operand g' = .ok done) :
    Prunes catalog g done.graph := by
  have hmovable : ∀ id ∈ g.slotChain command operandsSlot, g'.Movable id := by
    intro id hheld
    have hbefore := hcataloged.movable_of_mem_slotChain hheld
    have hshape := shape?_of_content? (h.content_eq id)
    exact ⟨hbefore.1, (contains_congr hshape).trans hbefore.2⟩
  obtain ⟨notices, -, hoff⟩ := trimOperand_eq operand hmovable
  obtain rfl := Except.ok.inj (hoff.symm.trans hrun)
  refine h.foldl_unplug_operands hcataloged hcommand fun id hid => ?_
  refine ⟨mem_of_excessOperands hid, ?_⟩
  unfold excessOperands at hid
  cases hlimit : operand.cardinality.max.limit with
  | none => simp [hlimit] at hid
  | some most =>
    rw [hasKind_congr h.content_eq, filter_isOperandNamed] at hid
    simp only [hlimit] at hid
    exact not_mem_keptOperands hcataloged.nodup_slotChain hmem hlimit hid

/-- Trimming all operands of a command prunes it. -/
theorem trimOperands_prunes (hcataloged : Cataloged catalog g)
    (hcommand : ScriptCommand catalog g command definition)
    (hrun : trimOperands command definition g = .ok done) : Prunes catalog g done.graph := by
  refine Repaired.inTurn_induction (P := fun _ g' => Prunes catalog g g') (.refl hcataloged)
    (fun before operand after hitems g' done hprunes honce => ?_) hrun
  have hmem : operand ∈ definition.operands := by simp [hitems]
  exact trimOperand_prunes hprunes hcataloged hcommand hmem honce

/-- All repairs of a command take off surplus blocks. -/
theorem repairCommand_prunes (hcataloged : Cataloged catalog g)
    (hcommand : ScriptCommand catalog g command definition)
    (hrun : repairCommand command definition g = .ok done) : Prunes catalog g done.graph := by
  rw [repairCommand, Fault.bind_eq_ok_iff] at hrun
  rcases hrun with ⟨first, hfirst, hrun⟩
  rcases Fault.bind_eq_ok_iff.1 hrun with ⟨second, hsecond, hthird⟩
  have honce := unplugDuplicate_prunes hcataloged hcommand hfirst
  rcases Fault.bind_eq_ok_iff.1 hsecond with ⟨more, hmore, hmake⟩
  obtain rfl := Except.ok.inj hmake
  have htwice := honce.trans (unplugExclusive_prunes (honce.cataloged hcataloged)
    (honce.scriptCommand hcataloged hcommand) hmore) hcataloged
  rcases Fault.bind_eq_ok_iff.1 hthird with ⟨last, hlast, hmake⟩
  obtain rfl := Except.ok.inj hmake
  have htrim := trimOperands_prunes (htwice.cataloged hcataloged)
    (htwice.scriptCommand hcataloged hcommand) hlast
  exact htwice.trans htrim hcataloged

/-- A pass takes off surplus blocks, when the enabled blocks are those that the script leads to. -/
theorem repairAll_prunes (hcataloged : Cataloged catalog g)
    (henabled : ∀ id block, g.get? id = some block → block.enabled = true →
      ReflTransGen g.Leads root id)
    (hrun : repairAll catalog g = .ok done) : Prunes catalog g done.graph := by
  have hall := Repaired.inTurn_induction
    (P := fun _ g' => Prunes catalog g g' ∧ g'.blocks = g.blocks) ⟨.refl hcataloged, rfl⟩ ?_ hrun
  · exact hall.1
  · rintro - id - - g' done ⟨hprunes, hblocks⟩ honce
    have hcataloged' := hprunes.cataloged hcataloged
    obtain ⟨done', taken, hrun', hoff⟩ := repairBlock_succeeds hcataloged'.toSound catalog id
    obtain rfl := Except.ok.inj (hrun'.symm.trans honce)
    refine ⟨?_, hoff.blocks_eq.trans hblocks⟩
    have hget : g'.get? id = g.get? id := by
      unfold get?
      rw [hblocks]
    unfold repairBlock at honce
    rw [hget] at honce
    split at honce
    · rename_i name fields slots hblock
      cases hknown : catalog.command? name with
      | none =>
        rw [hknown] at honce
        obtain rfl := Except.ok.inj honce
        exact hprunes
      | some definition =>
        simp only [hknown] at honce
        have hstands : StandsFor catalog g id (.command definition) := by
          refine ⟨_, hblock, ?_⟩
          unfold Catalog.definition?
          simp only [hknown, Option.map_some]
        have hcommand : ScriptCommand catalog g id definition :=
          ⟨henabled id _ hblock rfl, hstands⟩
        exact hprunes.trans (repairCommand_prunes hcataloged'
          (hprunes.scriptCommand hcataloged hcommand) honce) hcataloged
    · obtain rfl := Except.ok.inj honce
      exact hprunes

/-! ## Commands in order -/

/-- A command in order keeps all its blocks. -/
theorem InOrder.kept_eq (h : InOrder g command definition) (hcataloged : Cataloged catalog g)
    (hcommand : ScriptCommand catalog g command definition) (row : Row) :
    row.kept definition g (g.slotChain command row.slot) = g.slotChain command row.slot := by
  cases row with
  | options =>
    have hflags := h.distinct
    rw [hcataloged.flaggedOptions_eq hcommand, List.map_map] at hflags
    refine keptOptions_eq_self hflags fun group hgroup => ?_
    have hfew := h.exclusive group hgroup
    rw [hcataloged.flaggedOptions_eq hcommand, List.filter_map, List.length_map] at hfew
    exact hfew
  | operands =>
    refine keptOperands_eq_self fun operand hmem most hmost => ?_
    have hbound := h.bounded operand hmem most hmost
    rw [filter_isOperandNamed] at hbound
    exact hbound

end ShellComposer
