import ShellComposer.Proofs.Settled
import ShellComposer.Proofs.Templated
import ShellComposer.Proofs.Unplugging

/-!
# What a pass takes off

A pass reads the graph and changes it in turns.  What it will do can be read off the graph as it was
before: a block that is taken off leaves the chain that it was in, in which the others stay as they
are, and no other chain changes.  So the options that are left for the next repair are those that
have not been taken off, and what one command loses makes no difference to the others.

Main results:

- Structure `Removal`: a notice and the blocks that are taken off with it.
- Theorem `Sound.slotChain_foldl_unplug`: a chain once some blocks have been taken off.
- Definitions `optionRemovals`, `operandRemoval?`, `commandRemovals`, `passRemovals`: what the
  repairs of options and operands, of a command and of the whole script take off.
- Theorem `Repaired.inTurn_cons_of`: repairs one after the other are their removals one after the
  other.
- Theorem `repairAll_eq`: a pass makes the removals that are read off the graph before it.
- Inductive relation `Workspace.UnderRepair`: the graphs that passes are made on.
-/

namespace ShellComposer

open BlockGraph Catalog Relation

variable {catalog : Catalog} {g g' : BlockGraph} {command id : BlockId} {definition : CommandDef}

/-! ## Removals -/

/-- A notice about a block that is taken off, and the blocks that are taken off right after it
without notices of their own. -/
structure Removal where
  notice : Notice
  others : List BlockId

namespace Removal

/-- The blocks that are taken off, in order. -/
def taken (removal : Removal) : List BlockId :=
  removal.notice.block :: removal.others

/-- One block is taken off. -/
def single (notice : Notice) : Removal :=
  ⟨notice, []⟩

@[simp] theorem taken_single (notice : Notice) : (single notice).taken = [notice.block] := rfl

@[simp] theorem notice_single (notice : Notice) : (single notice).notice = notice := rfl

end Removal

namespace Notice

@[simp] theorem block_ofDuplicate (flag : String) (id : BlockId) :
    (ofDuplicate flag id).block = id := rfl

@[simp] theorem block_ofConflict (flag keeper : String) (id : BlockId) :
    (ofConflict flag keeper id).block = id := rfl

@[simp] theorem block_ofLimit (limit : Nat) (operand : OperandDef) (id : BlockId) :
    (ofLimit limit operand id).block = id := rfl

end Notice

/-- The blocks that several removals take off, in order. -/
def takenBy (removals : List Removal) : List BlockId :=
  removals.flatMap Removal.taken

@[simp] theorem takenBy_nil : takenBy [] = [] := rfl

@[simp] theorem takenBy_cons (removal : Removal) (removals : List Removal) :
    takenBy (removal :: removals) = removal.taken ++ takenBy removals := rfl

/-- Two lists of removals take what each of them takes. -/
@[simp] theorem takenBy_append (removals removals' : List Removal) :
    takenBy (removals ++ removals') = takenBy removals ++ takenBy removals' :=
  List.flatMap_append

/-- The graph once some removals have been made. -/
def BlockGraph.without (g : BlockGraph) (removals : List Removal) : BlockGraph :=
  (takenBy removals).foldl unplug g

/-- A graph stays sound when removals are carried out. -/
theorem BlockGraph.Sound.without (h : g.Sound) (removals : List Removal) :
    (g.without removals).Sound :=
  h.foldl_unplug _

namespace Repaired

/-- What has been done once some removals have been made. -/
def of (g : BlockGraph) (removals : List Removal) : Repaired :=
  ⟨g.without removals, (takenBy removals).length, removals.map Removal.notice⟩

/-- Two lists of removals are carried out one after the other, and count and tell together. -/
theorem of_append (g : BlockGraph) (removals removals' : List Removal) :
    of g (removals ++ removals') =
      ⟨(of (g.without removals) removals').graph,
        (of g removals).removed + (of (g.without removals) removals').removed,
        (of g removals).notices ++ (of (g.without removals) removals').notices⟩ := by
  simp only [of, without, takenBy_append, List.foldl_append, List.length_append, List.map_append]

/-- A further repair that makes removals. -/
theorem of_andThen {repair : BlockGraph → Except Fault Repaired} {removals removals' : List Removal}
    (hrun : repair (g.without removals) = .ok (of (g.without removals) removals')) :
    (of g removals).andThen repair = .ok (of g (removals ++ removals')) := by
  rw [of_append]
  exact Fault.bind_eq_ok_iff.2 ⟨_, hrun, rfl⟩

/-- What was counted and noticed before some repairs is added to what they count and notice. -/
theorem foldlM_shift {α : Type} {repair : α → BlockGraph → Except Fault Repaired} {items : List α}
    {once all : Repaired} (removed : Nat) (notices : List Notice)
    (hrun : items.foldlM (fun done item => Repaired.andThen done (repair item)) once = .ok all) :
    items.foldlM (fun done item => Repaired.andThen done (repair item))
        ⟨once.graph, removed + once.removed, notices ++ once.notices⟩ =
      .ok ⟨all.graph, removed + all.removed, notices ++ all.notices⟩ := by
  induction items generalizing once with
  | nil =>
    obtain rfl := Except.ok.inj hrun
    rfl
  | cons first rest ih =>
    rw [List.foldlM_cons, Fault.bind_eq_ok_iff] at hrun
    rcases hrun with ⟨twice, htwice, hrest⟩
    rcases Fault.bind_eq_ok_iff.1 htwice with ⟨more, hmore, hmake⟩
    obtain rfl := Except.ok.inj hmake
    rw [List.foldlM_cons, Fault.bind_eq_ok_iff]
    refine ⟨_, Fault.bind_eq_ok_iff.2 ⟨more, hmore, rfl⟩, ?_⟩
    have hrest' := ih hrest
    simp only [Nat.add_assoc, List.append_assoc] at hrest' ⊢
    exact hrest'

/-- Repairs done in turn after some removals are what they are on the graph without them. -/
theorem foldlM_of {α : Type} {repair : α → BlockGraph → Except Fault Repaired} {items : List α}
    {removals removals' : List Removal}
    (hrun : inTurn repair items (g.without removals) = .ok (of (g.without removals) removals')) :
    items.foldlM (fun done item => done.andThen (repair item)) (of g removals) =
      .ok (of g (removals ++ removals')) := by
  have hstart := foldlM_shift (of g removals).removed (of g removals).notices hrun
  rw [← of_append] at hstart
  simp only [start, Nat.add_zero, List.append_nil] at hstart
  exact hstart

/-- Repairs one after the other make the removals of the first and then those of the others. -/
theorem inTurn_cons_of {α : Type} {repair : α → BlockGraph → Except Fault Repaired} {first : α}
    {rest : List α} {removals removals' : List Removal}
    (hfirst : repair first g = .ok (of g removals))
    (hrest : inTurn repair rest (g.without removals) = .ok (of (g.without removals) removals')) :
    inTurn repair (first :: rest) g = .ok (of g (removals ++ removals')) := by
  unfold inTurn
  rw [List.foldlM_cons, start_andThen, Fault.bind_eq_ok_iff]
  exact ⟨_, hfirst, foldlM_of hrest⟩

end Repaired

/-! ## Chains without the blocks taken off -/

namespace BlockGraph

variable {taken : List BlockId} {owner d : BlockId} {slot : String}

/-- A block that is taken off leaves its chain, and no other chain changes. -/
theorem Sound.slotChain_unplug (h : g.Sound) (d owner : BlockId) (slot : String) :
    (g.unplug d).slotChain owner slot = (g.slotChain owner slot).filter (· ≠ d) := by
  cases hparent : g.parent d with
  | none =>
    rw [unplug_eq_self hparent, List.filter_eq_self.2]
    intro id hmem
    rcases h.exists_link_of_mem_slotChain hmem with ⟨source, outlet, hlink⟩
    refine decide_eq_true fun hsame => ?_
    subst hsame
    rw [h.parent_eq_some_iff.2 hlink] at hparent
    simp at hparent
  | some place =>
    have hheld := mem_links_of_parent hparent
    exact h.onward_unplug hheld fun hboth => absurd hboth.2 (by simp)

/-- A slot keeps the blocks that are not taken, in order. -/
theorem Sound.slotChain_foldl_unplug (h : g.Sound) (taken : List BlockId) (owner : BlockId)
    (slot : String) :
    (taken.foldl BlockGraph.unplug g).slotChain owner slot =
      (g.slotChain owner slot).filter (· ∉ taken) := by
  induction taken generalizing g with
  | nil =>
    rw [List.filter_eq_self.2 (by simp)]
    rfl
  | cons first rest ih =>
    rw [List.foldl_cons, ih (h.unplug first), h.slotChain_unplug, List.filter_filter]
    refine List.filter_congr fun id _ => ?_
    rw [Bool.eq_iff_iff]
    simp [and_comm]

/-- A chain from which nothing is taken off stays as it is. -/
theorem Sound.slotChain_foldl_unplug_eq_self (h : g.Sound)
    (hapart : ∀ d ∈ taken, d ∉ g.slotChain owner slot) :
    (taken.foldl BlockGraph.unplug g).slotChain owner slot = g.slotChain owner slot := by
  rw [h.slotChain_foldl_unplug, List.filter_eq_self]
  exact fun id hmem => decide_eq_true fun htaken => hapart id htaken hmem

/-- Taking blocks out leaves what is known of every block. -/
theorem get?_foldl_unplug (g : BlockGraph) (taken : List BlockId) (id : BlockId) :
    (taken.foldl unplug g).get? id = g.get? id := by
  unfold get?
  rw [blocks_foldl_unplug]

theorem hasKind_foldl_unplug (g : BlockGraph) (taken : List BlockId) (p : BlockKind → Bool) :
    (taken.foldl unplug g).hasKind p = g.hasKind p := by
  funext id
  simp only [hasKind, get?_foldl_unplug]

/-- The options of a command are those that have not been taken off. -/
theorem Sound.flaggedOptions_foldl_unplug (h : g.Sound) (taken : List BlockId)
    (command : BlockId) :
    flaggedOptions (taken.foldl BlockGraph.unplug g) command =
      (flaggedOptions g command).filter fun option => option.1 ∉ taken := by
  unfold flaggedOptions
  rw [h.slotChain_foldl_unplug, hasKind_foldl_unplug, List.filter_filter, List.filter_map,
    List.filter_filter]
  simp only [fieldText, get?_foldl_unplug]
  congr 1
  refine List.filter_congr fun id _ => ?_
  rw [Function.comp_apply, Bool.and_comm]

end BlockGraph

/-- No block is listed twice among the options of a command. -/
theorem nodup_flaggedOptions (hsound : g.Sound) (command : BlockId) :
    ((flaggedOptions g command).map Prod.fst).Nodup := by
  unfold flaggedOptions
  rw [List.map_map]
  simpa [Function.comp_def] using hsound.nodup_slotChain.filter _

/-- What is listed among the options of a command is an option. -/
theorem isOption_of_flaggedOptions {option : BlockId × String}
    (h : option ∈ flaggedOptions g command) : g.hasKind BlockKind.isOption option.1 = true := by
  rcases List.mem_map.1 h with ⟨id, hid, rfl⟩
  exact (List.mem_filter.1 hid).2

/-! ## Options -/

/-- The options that some removals leave. -/
def remaining (removals : List Removal) (options : List (BlockId × String)) :
    List (BlockId × String) :=
  options.filter fun option => option.1 ∉ takenBy removals

/-- The first option whose flag was seen before is taken off. -/
def duplicateRemovals (options : List (BlockId × String)) : List Removal :=
  (firstRepeated [] options).toList.map fun option => .single (.ofDuplicate option.2 option.1)

/-- All options whose flags are in a group are taken off but the first. -/
def groupRemovals (group : List String) (options : List (BlockId × String)) : List Removal :=
  match options.filter fun option => group.contains option.2 with
  | [] => []
  | keeper :: rest =>
    rest.map fun option => .single (.ofConflict option.2 keeper.2 option.1)

/-- Group after group is dealt with, each on the options that those before it have left. -/
def conflictRemovals : List (List String) → List (BlockId × String) → List Removal
  | [], _ => []
  | group :: groups, options =>
    groupRemovals group options ++
      conflictRemovals groups (remaining (groupRemovals group options) options)

/-- The options that a command loses: one duplicate, and then what the groups take off. -/
def optionRemovals (groups : List (List String)) (options : List (BlockId × String)) :
    List Removal :=
  duplicateRemovals options ++
    conflictRemovals groups (remaining (duplicateRemovals options) options)

/-- Behind some removals, the options of a command are those that remain of its options before. -/
theorem flaggedOptions_without (hsound : g.Sound) (removals : List Removal) (command : BlockId) :
    flaggedOptions (g.without removals) command = remaining removals (flaggedOptions g command) :=
  hsound.flaggedOptions_foldl_unplug _ command

/-- Options are taken off out of those that there are. -/
theorem takenBy_duplicateRemovals_subset (options : List (BlockId × String)) :
    takenBy (duplicateRemovals options) ⊆ options.map Prod.fst := by
  unfold duplicateRemovals
  cases hfirst : firstRepeated [] options with
  | none => simp
  | some option =>
    intro id hmem
    obtain rfl : id = option.1 := by simpa using hmem
    exact List.mem_map_of_mem (mem_of_firstRepeated hfirst)

/-- Every option given up for a conflict is taken off once. -/
theorem takenBy_conflicts (keeper : String) (options : List (BlockId × String)) :
    takenBy (options.map fun option => .single (.ofConflict option.2 keeper option.1)) =
      options.map Prod.fst := by
  induction options with
  | nil => rfl
  | cons first rest ih =>
    rw [List.map_cons, takenBy_cons, ih]
    rfl

/-- The options that a group takes off: its members but the first. -/
theorem takenBy_groupRemovals (group : List String) (options : List (BlockId × String)) :
    takenBy (groupRemovals group options) =
      ((options.filter fun option => group.contains option.2).drop 1).map Prod.fst := by
  unfold groupRemovals
  split
  · rename_i hnone
    rw [hnone]
    rfl
  · rename_i keeper rest hmembers
    rw [hmembers, takenBy_conflicts]
    rfl

/-- A group takes off nothing but options that are looked at. -/
theorem takenBy_groupRemovals_subset (group : List String) (options : List (BlockId × String)) :
    takenBy (groupRemovals group options) ⊆ options.map Prod.fst := by
  rw [takenBy_groupRemovals]
  exact List.map_subset _ fun _ hmem => List.mem_of_mem_filter (List.mem_of_mem_drop hmem)

/-- What remains was there before. -/
theorem remaining_subset (removals : List Removal) (options : List (BlockId × String)) :
    (remaining removals options).map Prod.fst ⊆ options.map Prod.fst :=
  List.map_subset _ (List.filter_subset_self _)

/-- Nor do several groups in turn. -/
theorem takenBy_conflictRemovals_subset (groups : List (List String))
    (options : List (BlockId × String)) :
    takenBy (conflictRemovals groups options) ⊆ options.map Prod.fst := by
  induction groups generalizing options with
  | nil => exact List.nil_subset _
  | cons group groups ih =>
    rw [conflictRemovals, takenBy_append]
    exact List.append_subset.2 ⟨takenBy_groupRemovals_subset group options,
      List.Subset.trans (ih _) (remaining_subset _ options)⟩

/-- The repair of the options takes off nothing but options. -/
theorem takenBy_optionRemovals_subset (groups : List (List String))
    (options : List (BlockId × String)) :
    takenBy (optionRemovals groups options) ⊆ options.map Prod.fst := by
  rw [optionRemovals, takenBy_append]
  exact List.append_subset.2 ⟨takenBy_duplicateRemovals_subset options,
    List.Subset.trans (takenBy_conflictRemovals_subset groups _) (remaining_subset _ options)⟩

/-- An option of a command may be taken off. -/
theorem movable_of_flaggedOptions (hsound : g.Sound) {option : BlockId × String}
    (hmem : option ∈ flaggedOptions g command) : g.Movable option.1 :=
  hsound.movable_of_mem_slotChain (mem_slotChain_of_flaggedOptions hmem)

/-- The repair of duplicates does the removals that are read off the options in front. -/
theorem unplugDuplicate_eq (hsound : g.Sound) (command : BlockId) :
    unplugDuplicate command g = .ok (.of g (duplicateRemovals (flaggedOptions g command))) := by
  unfold unplugDuplicate duplicateRemovals
  cases hfirst : firstRepeated [] (flaggedOptions g command) with
  | none => rfl
  | some option =>
    have hmovable := movable_of_flaggedOptions hsound (mem_of_firstRepeated hfirst)
    simp only [hmovable.detach, Option.toList_some, List.map_cons, List.map_nil]
    rfl

/-- Without some members behind the first a group has the others. -/
theorem filter_remaining_of_front {options front back : List (BlockId × String)}
    {p : BlockId × String → Bool} {keeper : BlockId × String} {removals : List Removal}
    (hnodup : (options.map Prod.fst).Nodup)
    (hmembers : options.filter p = keeper :: (front ++ back))
    (htaken : takenBy removals = front.map Prod.fst) :
    (remaining removals options).filter p = keeper :: back := by
  have hnodup' : ((keeper :: (front ++ back)).map Prod.fst).Nodup := by
    rw [← hmembers]
    exact hnodup.sublist (List.filter_sublist.map _)
  rw [List.map_cons, List.nodup_cons, List.map_append, List.mem_append, not_or,
    List.nodup_append'] at hnodup'
  obtain ⟨⟨hkeeper, -⟩, -, -, hapart⟩ := hnodup'
  have hcomm : (remaining removals options).filter p = remaining removals (options.filter p) := by
    rw [remaining, remaining, List.filter_filter, List.filter_filter]
    exact List.filter_congr fun option _ => Bool.and_comm _ _
  rw [hcomm, hmembers, remaining, htaken, List.filter_cons_of_pos (by simpa using hkeeper),
    List.filter_append, List.filter_eq_nil_iff.2, List.filter_eq_self.2, List.nil_append]
  · exact fun option hmem => decide_eq_true fun htaken =>
      hapart htaken (List.mem_map_of_mem hmem)
  · exact fun option hmem htaken => of_decide_eq_true htaken (List.mem_map_of_mem hmem)

/-- The loop over a group takes off its members one by one, always the second, as long as there is
one.  The first stays, so it is the one that every notice names. -/
theorem unplugGroup_eq (hsound : g.Sound) (command : BlockId) (group : List String) (rounds : Nat)
    (hrounds : (groupMembers g command group).length ≤ rounds + 1) :
    unplugGroup command group rounds g =
      .ok (.of g (groupRemovals group (flaggedOptions g command))) := by
  induction rounds generalizing g with
  | zero =>
    unfold groupMembers at hrounds
    unfold groupRemovals
    split
    · rfl
    · rename_i keeper rest hmembers
      rw [hmembers] at hrounds
      obtain rfl : rest = [] := by simpa using hrounds
      rfl
  | succ rounds ih =>
    unfold groupMembers at hrounds ih
    rcases hmembers : (flaggedOptions g command).filter fun option => group.contains option.2 with
      _ | ⟨keeper, _ | ⟨second, rest⟩⟩
    · rw [unplugGroup, groupRemovals, hmembers]
      rfl
    · rw [unplugGroup, groupRemovals, hmembers]
      rfl
    · have hsecond : second ∈ flaggedOptions g command :=
        List.mem_of_mem_filter (hmembers ▸ by simp :
          second ∈ (flaggedOptions g command).filter fun option => group.contains option.2)
      have hmovable := movable_of_flaggedOptions hsound hsecond
      let off : Removal := .single (.ofConflict second.2 keeper.2 second.1)
      have hless : (flaggedOptions (g.without [off]) command).filter
          (fun option => group.contains option.2) = keeper :: rest := by
        rw [flaggedOptions_without hsound]
        have hmembers' : (flaggedOptions g command).filter
            (fun option => group.contains option.2) = keeper :: ([second] ++ rest) := hmembers
        exact filter_remaining_of_front (nodup_flaggedOptions hsound command) hmembers' rfl
      have hrest := ih (g := g.without [off]) (hsound.without _) (by
        rw [hless]
        rw [hmembers] at hrounds
        simpa using hrounds)
      have hround : unplugGroup command group (rounds + 1) g =
          (Repaired.of g [off]).andThen (unplugGroup command group rounds) := by
        rw [unplugGroup, hmembers]
        simp only [hmovable.detach]
        rfl
      rw [hround, Repaired.of_andThen hrest]
      simp only [groupRemovals, hmembers, hless]
      rfl

/-- There are fewer members of a group than blocks. -/
theorem length_groupMembers_le (hsound : g.Sound) (command : BlockId) (group : List String) :
    (groupMembers g command group).length ≤ g.size := by
  have hsub : (groupMembers g command group).map Prod.fst ⊆ g.ids := by
    intro id hmem
    rcases List.mem_map.1 hmem with ⟨option, hoption, rfl⟩
    have hmovable := movable_of_flaggedOptions hsound (List.mem_of_mem_filter hoption)
    exact mem_ids_iff.2 hmovable.2
  have hnodup : ((groupMembers g command group).map Prod.fst).Nodup :=
    (nodup_flaggedOptions hsound command).sublist (List.filter_sublist.map _)
  have hlength := hnodup.length_le_of_subset hsub
  rwa [List.length_map, length_ids] at hlength

/-- The same holds of all groups of a command. -/
theorem unplugExclusive_eq (hsound : g.Sound) (command : BlockId) (groups : List (List String)) :
    unplugExclusive command groups g =
      .ok (.of g (conflictRemovals groups (flaggedOptions g command))) := by
  induction groups generalizing g with
  | nil => rfl
  | cons group groups ih =>
    have hfirst := unplugGroup_eq hsound command group g.size
      (Nat.le_succ_of_le (length_groupMembers_le hsound command group))
    have hrest := ih (hsound.without (groupRemovals group (flaggedOptions g command)))
    rw [flaggedOptions_without hsound] at hrest
    exact Repaired.inTurn_cons_of hfirst hrest

/-! ## Operands -/

/-- The operands of a kind beyond the most that is allowed, if there are any. -/
def operandRemoval? (g : BlockGraph) (attached : List BlockId) (operand : OperandDef) :
    Option Removal :=
  match operand.cardinality.max.limit with
  | none => none
  | some most =>
    match (attached.filter (g.hasKind (BlockKind.isOperandNamed operand.id))).drop most.toNat with
    | [] => none
    | first :: rest => some ⟨.ofLimit most.toNat operand first, rest⟩

/-- All operands beyond a limit are taken off together. -/
theorem takenBy_operandRemoval? (g : BlockGraph) (attached : List BlockId) (operand : OperandDef) :
    takenBy (operandRemoval? g attached operand).toList = excessOperands attached operand g := by
  unfold operandRemoval? excessOperands
  cases operand.cardinality.max.limit with
  | none => rfl
  | some most =>
    simp only
    split
    · rename_i hnone
      rw [hnone]
      rfl
    · rename_i first rest hsome
      rw [hsome]
      simp [Removal.taken]

/-- Which operands are beyond a limit is told from the blocks attached, wherever they are. -/
theorem operandRemoval?_without (g : BlockGraph) (removals : List Removal)
    (attached : List BlockId) :
    operandRemoval? (g.without removals) attached = operandRemoval? g attached := by
  funext operand
  simp only [operandRemoval?, without, hasKind_foldl_unplug]

theorem trimOperand_eq_of {attached : List BlockId} (operand : OperandDef)
    (hattached : ∀ id ∈ attached, g.Movable id) :
    trimOperand attached operand g = .ok (.of g (operandRemoval? g attached operand).toList) := by
  have hmovable : ∀ id ∈ excessOperands attached operand g, g.Movable id :=
    fun id hmem => hattached id (mem_of_excessOperands hmem)
  unfold trimOperand operandRemoval?
  unfold excessOperands at hmovable
  cases hlimit : operand.cardinality.max.limit with
  | none => rfl
  | some most =>
    simp only [hlimit] at hmovable ⊢
    rcases hexcess : (attached.filter (g.hasKind (BlockKind.isOperandNamed operand.id))).drop
      most.toNat with _ | ⟨first, rest⟩
    · rfl
    · rw [hexcess] at hmovable
      simp only [foldlM_detach hmovable]
      simp [Repaired.of, without, Removal.taken, bind, Except.bind, pure, Except.pure]

/-- Operands are trimmed out of those that were attached when trimming began, whatever has been
taken off since. -/
theorem inTurn_trimOperand_eq {attached : List BlockId} (operands : List OperandDef)
    (hattached : ∀ id ∈ attached, g.Movable id) :
    Repaired.inTurn (trimOperand attached) operands g =
      .ok (.of g (operands.filterMap (operandRemoval? g attached))) := by
  induction operands generalizing g with
  | nil => rfl
  | cons first rest ih =>
    have hfirst := trimOperand_eq_of first hattached
    have hrest := ih (g := g.without (operandRemoval? g attached first).toList) fun id hmem =>
      (hattached id hmem).of_blocks (blocks_foldl_unplug g _)
    rw [operandRemoval?_without] at hrest
    rw [Repaired.inTurn_cons_of hfirst hrest, List.filterMap_cons]
    cases operandRemoval? g attached first <;> rfl

/-! ## Commands -/

/-- What a command loses: options, and then operands. -/
def commandRemovals (g : BlockGraph) (command : BlockId) (definition : CommandDef) :
    List Removal :=
  optionRemovals definition.exclusiveOptions (flaggedOptions g command) ++
    definition.operands.filterMap (operandRemoval? g (g.slotChain command operandsSlot))

/-- What is taken off a command has been in one of its two slots. -/
theorem mem_slotChain_of_commandRemovals
    (hmem : id ∈ takenBy (commandRemovals g command definition)) :
    id ∈ g.slotChain command optionsSlot ∨ id ∈ g.slotChain command operandsSlot := by
  rw [commandRemovals, takenBy_append, List.mem_append] at hmem
  rcases hmem with hmem | hmem
  · rcases List.mem_map.1 (takenBy_optionRemovals_subset _ _ hmem) with ⟨option, hoption, rfl⟩
    exact .inl (mem_slotChain_of_flaggedOptions hoption)
  · rcases List.mem_flatMap.1 hmem with ⟨removal, hremoval, hid⟩
    rcases List.mem_filterMap.1 hremoval with ⟨operand, -, hoff⟩
    have htaken := takenBy_operandRemoval? g (g.slotChain command operandsSlot) operand
    rw [hoff] at htaken
    have hexcess : id ∈ excessOperands (g.slotChain command operandsSlot) operand g := by
      rw [← htaken]
      simpa using hid
    exact .inr (mem_of_excessOperands hexcess)

/-- The repair of a command does the removals that are read off the graph in front. -/
theorem repairCommand_eq (hsound : g.Sound) (command : BlockId) (definition : CommandDef) :
    repairCommand command definition g = .ok (.of g (commandRemovals g command definition)) := by
  have hfirst := unplugDuplicate_eq hsound command
  have hsecond := unplugExclusive_eq
    (hsound.without (duplicateRemovals (flaggedOptions g command))) command
    definition.exclusiveOptions
  rw [flaggedOptions_without hsound] at hsecond
  -- What has been taken off so far are options, so the operands are still as they were.
  have hoperands : ((g.without (optionRemovals definition.exclusiveOptions
      (flaggedOptions g command))).slotChain command operandsSlot) =
        g.slotChain command operandsSlot := by
    refine hsound.slotChain_foldl_unplug_eq_self fun d hmem hheld => ?_
    rcases List.mem_map.1 (takenBy_optionRemovals_subset _ _ hmem) with ⟨option, hoption, rfl⟩
    have hslot := (hsound.slotChain_unique (mem_slotChain_of_flaggedOptions hoption) hheld).2
    exact absurd hslot (by decide)
  have hthird := inTurn_trimOperand_eq (g := g.without (optionRemovals
      definition.exclusiveOptions (flaggedOptions g command))) definition.operands
    fun id (hmem : id ∈ g.slotChain command operandsSlot) =>
      (hsound.movable_of_mem_slotChain hmem).of_blocks (blocks_foldl_unplug g _)
  rw [operandRemoval?_without] at hthird
  rw [repairCommand, Fault.bind_eq_ok_iff]
  refine ⟨_, hfirst, Fault.bind_eq_ok_iff.2 ⟨_, Repaired.of_andThen hsecond, ?_⟩⟩
  refine Repaired.of_andThen ?_
  rw [← optionRemovals, trimOperands, hoperands]
  exact hthird

/-! ## All repairs -/

/-- The command by which a block is repaired: that of its kind, if the block is enabled. -/
def repairedAs? (catalog : Catalog) (g : BlockGraph) (id : BlockId) : Option CommandDef :=
  match g.get? id with
  | some ⟨.command command, _, _, true⟩ => catalog.command? command
  | _ => none

/-- What a pass takes off a block. -/
def blockRemovals (catalog : Catalog) (g : BlockGraph) (id : BlockId) : List Removal :=
  match repairedAs? catalog g id with
  | some definition => commandRemovals g id definition
  | none => []

/-- What a pass takes off, block after block. -/
def passRemovals (catalog : Catalog) (g : BlockGraph) : List Removal :=
  g.ids.flatMap (blockRemovals catalog g)

/-- So does the repair of a block, which does nothing unless the block is a known command. -/
theorem repairBlock_eq (hsound : g.Sound) (catalog : Catalog) (id : BlockId) :
    repairBlock catalog id g = .ok (.of g (blockRemovals catalog g id)) := by
  have hrepair : repairBlock catalog id g = match repairedAs? catalog g id with
      | some definition => repairCommand id definition g
      | none => .ok (.start g) := by
    unfold repairBlock repairedAs?
    rcases g.get? id with _ | ⟨kind, fields, slots, enabled⟩
    · rfl
    · cases kind <;> cases enabled <;> rfl
  rw [hrepair, blockRemovals]
  cases repairedAs? catalog g id with
  | none => rfl
  | some definition => exact repairCommand_eq hsound id definition

/-- What the repair of a command takes off is held in one of the two slots of the command. -/
theorem mem_slotChain_of_blockRemovals (hmem : id ∈ takenBy (blockRemovals catalog g command)) :
    id ∈ g.slotChain command optionsSlot ∨ id ∈ g.slotChain command operandsSlot := by
  unfold blockRemovals at hmem
  split at hmem
  · exact mem_slotChain_of_commandRemovals hmem
  · simp at hmem

/-- What is taken off one command makes no difference to what is taken off another. -/
theorem blockRemovals_without (hsound : g.Sound) {other : BlockId} (hne : other ≠ command) :
    blockRemovals catalog (g.without (blockRemovals catalog g command)) other =
      blockRemovals catalog g other := by
  have hapart : ∀ slot, ∀ d ∈ takenBy (blockRemovals catalog g command),
      d ∉ g.slotChain other slot := by
    intro slot d hmem hheld
    rcases mem_slotChain_of_blockRemovals hmem with hmem | hmem
    · exact hne (hsound.slotChain_unique hheld hmem).1
    · exact hne (hsound.slotChain_unique hheld hmem).1
  have hchain : ∀ slot, (g.without (blockRemovals catalog g command)).slotChain other slot =
      g.slotChain other slot := fun slot => hsound.slotChain_foldl_unplug_eq_self (hapart slot)
  have hkind : ∀ p, (g.without (blockRemovals catalog g command)).hasKind p = g.hasKind p :=
    hasKind_foldl_unplug g _
  have hget : ∀ id, (g.without (blockRemovals catalog g command)).get? id = g.get? id :=
    get?_foldl_unplug g _
  have hoperands := operandRemoval?_without g (blockRemovals catalog g command)
  generalize g.without (blockRemovals catalog g command) = g' at hchain hkind hget hoperands ⊢
  simp only [blockRemovals, repairedAs?, commandRemovals, flaggedOptions, fieldText, hchain, hkind,
    hget, hoperands]

/-- A pass makes the removals that are read off the graph before it. -/
theorem repairAll_eq (hsound : g.Sound) (catalog : Catalog) :
    repairAll catalog g = .ok (.of g (passRemovals catalog g)) := by
  have hblocks : ∀ (ids : List BlockId) (g : BlockGraph), g.Sound → ids.Nodup →
      Repaired.inTurn (repairBlock catalog) ids g =
        .ok (.of g (ids.flatMap (blockRemovals catalog g))) := by
    intro ids
    induction ids with
    | nil => exact fun _ _ _ => rfl
    | cons first rest ih =>
      intro g hsound hnodup
      rcases List.nodup_cons.1 hnodup with ⟨hfresh, hnodup⟩
      refine Repaired.inTurn_cons_of (repairBlock_eq hsound catalog first)
        ((ih _ (hsound.without _) hnodup).trans ?_)
      have hsame : rest.flatMap (blockRemovals catalog
          (g.without (blockRemovals catalog g first))) = rest.flatMap (blockRemovals catalog g) :=
        List.flatMap_congr fun id hmem =>
          blockRemovals_without hsound fun hsame => hfresh (hsame ▸ hmem)
      exact congrArg (fun removals => Except.ok (Repaired.of _ removals)) hsame
  exact hblocks g.ids g hsound g.nodup_ids

/-! ## The graphs that passes are made on -/

namespace Workspace

variable {settings : Settings} {start before : Workspace}

/-- The graphs that passes are made on: those of the workspaces that changes lead to, and those that
the reaction to a change comes by on its way. -/
inductive UnderRepair (catalog : Catalog) (settings : Settings) : BlockGraph → Prop where
  | resting {w : Workspace} (reached : Reached catalog settings w) :
      UnderRepair catalog settings w.graph
  | reacting {w start before : Workspace} (reached : Reached catalog settings w)
      (changed : Change w start) (passed : ReflTransGen Pass start before) :
      UnderRepair catalog settings before.refresh.graph

/-- Passes go on with a sound graph, under the same catalog. -/
theorem sound_of_passes (hpasses : ReflTransGen Pass start before) (hsound : start.graph.Sound) :
    before.graph.Sound ∧ before.catalog = start.catalog := by
  induction hpasses with
  | refl => exact ⟨hsound, rfl⟩
  | tail _ hpass ih =>
    rcases ih with ⟨hsound', hcatalog⟩
    exact ⟨hpass.sound hsound', (hpass.frame hsound').1.trans hcatalog⟩

theorem UnderRepair.sound (h : UnderRepair catalog settings g) : g.Sound := by
  cases h with
  | resting reached => exact reached.valid.tended.sound
  | reacting reached changed passed =>
    exact (sound_of_passes passed (changed.tended reached.valid.tended).sound).1.refresh

/-- On each of them a pass makes the removals that are read off it. -/
theorem UnderRepair.repairAll_eq (h : UnderRepair catalog settings g) :
    repairAll catalog g = .ok (.of g (passRemovals catalog g)) :=
  ShellComposer.repairAll_eq h.sound catalog

end Workspace

end ShellComposer
