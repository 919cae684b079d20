import ShellComposer.Proofs.Loaded
import ShellComposer.Proofs.Pruned
import ShellComposer.Proofs.Removals

/-!
# What a pass says it has done

A pass says how many blocks it has taken off, and its notices say which.  Every option that it
takes off has a notice of its own.  Operands are trimmed for one definition after the other, by a
list read before: where two definitions with one id are given too often, the blocks beyond both
limits are taken off and counted twice, and each definition has its notice.  Otherwise no block is
taken off twice, and count and notices are those of the blocks that the script has lost.

Main results:

- Definition `lost` and theorem `mem_lost_iff`: what a pass has taken off the script.
- Definition `exceeded`: the operands of a command that are given too often.
- Theorem `nodup_takenBy_passRemovals`: when no block is taken off twice.
- Structures `Explained` and `Accounted`: what notices say of any pass, and of one that counts
  right.
- Theorem `passes_explained`: every pass is explained by its notices, and when its count is right.
-/

namespace ShellComposer

open BlockGraph Catalog

variable {catalog : Catalog} {settings : Settings} {g g' : BlockGraph} {command id : BlockId}
variable {definition : CommandDef} {operand : OperandDef} {name : String}
variable {attached : List BlockId} {removals : List Removal}

/-! ## Blocks lost -/

namespace BlockGraph

variable {d : BlockId}

/-- The blocks that hang nowhere once a block is taken out: those before, and the block itself. -/
theorem Sound.parent_unplug_eq_none_iff (h : g.Sound) :
    (g.unplug d).parent id = none ↔ g.parent id = none ∨ id = d := by
  cases hparent : g.parent d with
  | none =>
    rw [unplug_eq_self hparent]
    refine (or_iff_left_of_imp ?_).symm
    rintro rfl
    exact hparent
  | some place =>
    have hheld := mem_links_of_parent hparent
    by_cases hsame : id = d
    · subst hsame
      exact iff_of_true (h.loose_unplug hheld).1 (.inr rfl)
    · rw [or_iff_left hsame, parent_eq_none_iff, parent_eq_none_iff]
      constructor
      · intro hnone link hlink htarget
        subst htarget
        by_cases hbehind : link.source = d ∧ link.outlet = .next
        · rcases link with ⟨source, outlet, target⟩
          rcases hbehind with ⟨rfl, rfl⟩
          exact hnone ⟨place.1, place.2, target⟩
            ((h.mem_links_unplug hheld).2 (.inr ⟨hlink, rfl, rfl⟩)) rfl
        · exact hnone link ((h.mem_links_unplug hheld).2 (.inl ⟨hlink, hsame, hbehind⟩)) rfl
      · intro hnone link hlink htarget
        rcases (h.mem_links_unplug hheld).1 hlink with ⟨hbefore, -, -⟩ | ⟨hbefore, -, -⟩
        · exact hnone link hbefore htarget
        · exact hnone _ hbefore htarget

/-- After the removals a block hangs loose if it did so before or is one of those that were taken.
-/
theorem Sound.parent_without_eq_none_iff (h : g.Sound) (removals : List Removal) :
    (g.without removals).parent id = none ↔ g.parent id = none ∨ id ∈ takenBy removals := by
  unfold BlockGraph.without
  generalize takenBy removals = taken
  induction taken generalizing g with
  | nil => simp
  | cons first rest ih =>
    rw [List.foldl_cons, ih (h.unplug first), h.parent_unplug_eq_none_iff, List.mem_cons, or_assoc]

end BlockGraph

/-- The blocks that hung somewhere before and hang nowhere after. -/
def lost (g g' : BlockGraph) : List BlockId :=
  g.held.filter fun id => (g'.parent id).isNone

/-- No block is lost twice. -/
theorem nodup_lost (g g' : BlockGraph) : (lost g g').Nodup :=
  (g.nodup_ids.filter _).filter _

/-- The operands of a command that have an id. -/
def operandsNamed (g : BlockGraph) (command : BlockId) (name : String) : List BlockId :=
  (g.slotChain command operandsSlot).filter (g.hasKind (BlockKind.isOperandNamed name))

/-- The operands of a command that are beyond the limit of a definition. -/
def beyond (g : BlockGraph) (command : BlockId) (operand : OperandDef) : List BlockId :=
  excessOperands (g.slotChain command operandsSlot) operand g

/-- The operands by a definition of which more are given than allowed. -/
def exceeded (g : BlockGraph) (command : BlockId) (definition : CommandDef) : List OperandDef :=
  definition.operands.filter fun operand => beyond g command operand ≠ []

/-- The operands of a name are among the blocks in the operands slot. -/
theorem mem_slotChain_of_operandsNamed (h : id ∈ operandsNamed g command name) :
    id ∈ g.slotChain command operandsSlot :=
  List.mem_of_mem_filter h

/-- What is beyond the limit of a definition are the last of the operands with its id. -/
theorem exists_beyond_eq (g : BlockGraph) (command : BlockId) (operand : OperandDef) :
    beyond g command operand = [] ∨ ∃ most,
      beyond g command operand = (operandsNamed g command operand.id).drop most := by
  unfold beyond excessOperands
  split
  · exact .inl rfl
  · rename_i most hmost
    exact .inr ⟨most.toNat, rfl⟩

/-- The operands beyond a bound are operands of the name that the bound is for. -/
theorem mem_operandsNamed_of_beyond (h : id ∈ beyond g command operand) :
    id ∈ operandsNamed g command operand.id := by
  rcases exists_beyond_eq g command operand with hnone | ⟨most, hdrop⟩
  · rw [hnone] at h
    exact absurd h List.not_mem_nil
  · rw [hdrop] at h
    exact List.mem_of_mem_drop h

/-- An operand has one id. -/
theorem operandsNamed_unique {command' : BlockId} {name' : String} (hsound : g.Sound)
    (h : id ∈ operandsNamed g command name) (h' : id ∈ operandsNamed g command' name') :
    command = command' ∧ name = name' := by
  rcases List.mem_filter.1 h with ⟨hheld, hname⟩
  rcases List.mem_filter.1 h' with ⟨hheld', hname'⟩
  refine ⟨(hsound.slotChain_unique hheld hheld').1, ?_⟩
  unfold hasKind at hname hname'
  cases hblock : g.get? id with
  | none => simp [hblock] at hname
  | some block =>
    rcases block with ⟨kind, fields, slots, enabled⟩
    cases kind <;> simp_all [BlockKind.isOperandNamed]

/-- An operand is no option. -/
theorem not_isOption_of_operandsNamed (h : id ∈ operandsNamed g command name) :
    g.hasKind BlockKind.isOption id = false := by
  have hname := (List.mem_filter.1 h).2
  unfold hasKind at hname ⊢
  cases hblock : g.get? id with
  | none => rfl
  | some block =>
    rcases block with ⟨kind, fields, slots, enabled⟩
    cases kind <;> simp_all [BlockKind.isOperandNamed, BlockKind.isOption]

/-! ## What a command loses -/

/-- The blocks that the notices of some removals name. -/
def namedBy (removals : List Removal) : List BlockId :=
  removals.map fun removal => removal.notice.block

/-- The blocks that notices name are among those that are taken. -/
theorem namedBy_subset (removals : List Removal) : namedBy removals ⊆ takenBy removals := by
  intro id hmem
  rcases List.mem_map.1 hmem with ⟨removal, hremoval, rfl⟩
  exact List.mem_flatMap.2 ⟨removal, hremoval, List.mem_cons_self⟩

/-- Where every removal takes one block only, all that are taken are named. -/
theorem namedBy_eq_takenBy (h : ∀ removal ∈ removals, removal.others = []) :
    namedBy removals = takenBy removals := by
  induction removals with
  | nil => rfl
  | cons first rest ih =>
    have hrest := ih fun removal hmem => h removal (List.mem_cons_of_mem _ hmem)
    rw [takenBy_cons, Removal.taken, h first List.mem_cons_self, ← hrest]
    rfl

section Options

variable {options : List (BlockId × String)} {removal : Removal}

/-- Every option that is taken off has a notice of its own. -/
theorem others_of_optionRemovals {groups : List (List String)}
    (h : removal ∈ optionRemovals groups options) : removal.others = [] := by
  have hgroup : ∀ group options, removal ∈ groupRemovals group options → removal.others = [] := by
    intro group options hmem
    unfold groupRemovals at hmem
    split at hmem
    · exact absurd hmem List.not_mem_nil
    · rcases List.mem_map.1 hmem with ⟨option, -, rfl⟩
      rfl
  have hconflict : ∀ groups options, removal ∈ conflictRemovals groups options →
      removal.others = [] := by
    intro groups
    induction groups with
    | nil => exact fun _ hmem => absurd hmem List.not_mem_nil
    | cons group groups ih =>
      intro options hmem
      rcases List.mem_append.1 hmem with hmem | hmem
      · exact hgroup group options hmem
      · exact ih _ hmem
  rcases List.mem_append.1 h with hmem | hmem
  · rcases List.mem_map.1 hmem with ⟨option, -, rfl⟩
    rfl
  · exact hconflict groups _ hmem

/-- No block is taken off twice, if what is taken off later is out of what has been left. -/
theorem nodup_takenBy_append {later : List Removal} (h : (takenBy removals).Nodup)
    (h' : (takenBy later).Nodup)
    (hleft : takenBy later ⊆ (remaining removals options).map Prod.fst) :
    (takenBy (removals ++ later)).Nodup := by
  rw [takenBy_append, List.nodup_append']
  refine ⟨h, h', fun id hmem hlater => ?_⟩
  rcases List.mem_map.1 (hleft hlater) with ⟨option, hoption, rfl⟩
  exact of_decide_eq_true (List.mem_filter.1 hoption).2 hmem

/-- What remains of different options is different options. -/
theorem nodup_remaining (hnodup : (options.map Prod.fst).Nodup) (removals : List Removal) :
    ((remaining removals options).map Prod.fst).Nodup :=
  hnodup.sublist (List.filter_sublist.map _)

/-- No option is taken off twice. -/
theorem nodup_takenBy_optionRemovals (hnodup : (options.map Prod.fst).Nodup)
    (groups : List (List String)) : (takenBy (optionRemovals groups options)).Nodup := by
  have hconflict : ∀ (groups : List (List String)) (options : List (BlockId × String)),
      (options.map Prod.fst).Nodup → (takenBy (conflictRemovals groups options)).Nodup := by
    intro groups
    induction groups with
    | nil => exact fun _ _ => List.nodup_nil
    | cons group groups ih =>
      intro options hnodup
      refine nodup_takenBy_append ?_ (ih _ (nodup_remaining hnodup _))
        (takenBy_conflictRemovals_subset groups _)
      rw [takenBy_groupRemovals]
      exact hnodup.sublist (((List.drop_sublist 1 _).trans List.filter_sublist).map _)
  refine nodup_takenBy_append ?_ (hconflict groups _ (nodup_remaining hnodup _))
    (takenBy_conflictRemovals_subset groups _)
  unfold duplicateRemovals
  cases firstRepeated [] options <;> simp

end Options

/-- What is taken off among the options of a command are options. -/
theorem isOption_of_optionRemovals {groups : List (List String)}
    (h : id ∈ takenBy (optionRemovals groups (flaggedOptions g command))) :
    g.hasKind BlockKind.isOption id = true := by
  rcases List.mem_map.1 (takenBy_optionRemovals_subset groups _ h) with ⟨option, hoption, rfl⟩
  exact isOption_of_flaggedOptions hoption

/-- What a command loses: options, and the operands beyond the limit of each definition. -/
theorem takenBy_commandRemovals (g : BlockGraph) (command : BlockId) (definition : CommandDef) :
    takenBy (commandRemovals g command definition) =
      takenBy (optionRemovals definition.exclusiveOptions (flaggedOptions g command)) ++
        definition.operands.flatMap (beyond g command) := by
  rw [commandRemovals, takenBy_append]
  congr 1
  induction definition.operands with
  | nil => rfl
  | cons operand operands ih =>
    have hfirst := takenBy_operandRemoval? g (g.slotChain command operandsSlot) operand
    rw [List.flatMap_cons, ← ih, beyond, ← hfirst, List.filterMap_cons]
    cases operandRemoval? g (g.slotChain command operandsSlot) operand <;> simp

/-- What the notices about a command name: its options, and one operand for each definition. -/
theorem namedBy_commandRemovals (g : BlockGraph) (command : BlockId) (definition : CommandDef) :
    namedBy (commandRemovals g command definition) =
      takenBy (optionRemovals definition.exclusiveOptions (flaggedOptions g command)) ++
        definition.operands.filterMap fun operand => (beyond g command operand).head? := by
  rw [commandRemovals, namedBy, List.map_append]
  congr 1
  · exact namedBy_eq_takenBy fun _ => others_of_optionRemovals
  · rw [List.map_filterMap]
    refine List.filterMap_congr fun operand _ => ?_
    unfold operandRemoval? beyond excessOperands
    cases operand.cardinality.max.limit with
    | none => rfl
    | some most =>
      simp only
      split
      · rename_i hnone
        rw [hnone]
        rfl
      · rename_i first rest hsome
        rw [hsome]
        rfl

/-- A block is taken from a command as one of its options or as an operand beyond a bound. -/
theorem mem_takenBy_commandRemovals_iff : id ∈ takenBy (commandRemovals g command definition) ↔
    id ∈ takenBy (optionRemovals definition.exclusiveOptions (flaggedOptions g command)) ∨
      ∃ operand ∈ definition.operands, id ∈ beyond g command operand := by
  rw [takenBy_commandRemovals, List.mem_append, List.mem_flatMap]

/-- No operand is taken off twice, if no two definitions with one id are given too often. -/
theorem nodup_flatMap_beyond (hsound : g.Sound)
    (hapart : ((exceeded g command definition).map OperandDef.id).Nodup) :
    (definition.operands.flatMap (beyond g command)).Nodup := by
  rw [List.nodup_flatMap]
  constructor
  · intro operand _
    rcases exists_beyond_eq g command operand with hnone | ⟨most, hdrop⟩
    · rw [hnone]
      exact List.nodup_nil
    · rw [hdrop]
      exact (hsound.nodup_slotChain.filter _).sublist (List.drop_sublist _ _)
  · rw [exceeded, List.Nodup, List.pairwise_map, List.pairwise_filter] at hapart
    refine hapart.imp fun {operand operand'} hne id hmem hmem' => ?_
    have hids := operandsNamed_unique hsound (mem_operandsNamed_of_beyond hmem)
      (mem_operandsNamed_of_beyond hmem')
    exact hne (decide_eq_true (List.ne_nil_of_mem hmem))
      (decide_eq_true (List.ne_nil_of_mem hmem')) hids.2

/-- No block is taken off a command twice, if no two definitions with one id are given too often. -/
theorem nodup_takenBy_commandRemovals (hsound : g.Sound)
    (hapart : ((exceeded g command definition).map OperandDef.id).Nodup) :
    (takenBy (commandRemovals g command definition)).Nodup := by
  rw [takenBy_commandRemovals, List.nodup_append']
  refine ⟨nodup_takenBy_optionRemovals (nodup_flaggedOptions hsound command) _,
    nodup_flatMap_beyond hsound hapart, fun id hoption hmem => ?_⟩
  rcases List.mem_flatMap.1 hmem with ⟨operand, -, hbeyond⟩
  have hoperand := not_isOption_of_operandsNamed (mem_operandsNamed_of_beyond hbeyond)
  exact Bool.false_ne_true (hoperand.symm.trans (isOption_of_optionRemovals hoption))

/-! ## What a pass takes off -/

/-- A pass takes what is taken from each block in turn. -/
theorem takenBy_passRemovals (catalog : Catalog) (g : BlockGraph) :
    takenBy (passRemovals catalog g) =
      g.ids.flatMap fun command => takenBy (blockRemovals catalog g command) :=
  List.flatMap_assoc

/-- A pass names what is named of each block in turn. -/
theorem namedBy_passRemovals (catalog : Catalog) (g : BlockGraph) :
    namedBy (passRemovals catalog g) =
      g.ids.flatMap fun command => namedBy (blockRemovals catalog g command) :=
  List.map_flatMap

/-- From a block that is repaired as a command, the removals are those of the command. -/
theorem blockRemovals_eq (hknown : repairedAs? catalog g command = some definition) :
    blockRemovals catalog g command = commandRemovals g command definition := by
  rw [blockRemovals, hknown]

/-- What is repaired is one of the blocks of the graph. -/
theorem mem_ids_of_repairedAs? (hknown : repairedAs? catalog g command = some definition) :
    command ∈ g.ids := by
  unfold repairedAs? at hknown
  split at hknown
  · rename_i hblock
    exact mem_ids_iff.2 (contains_iff.2 ⟨_, hblock⟩)
  · simp at hknown

/-- A pass takes a block if one of the commands that are repaired loses it. -/
theorem mem_takenBy_passRemovals_iff : id ∈ takenBy (passRemovals catalog g) ↔
    ∃ command definition, repairedAs? catalog g command = some definition ∧
      id ∈ takenBy (commandRemovals g command definition) := by
  rw [takenBy_passRemovals, List.mem_flatMap]
  constructor
  · rintro ⟨command, -, hmem⟩
    unfold blockRemovals at hmem
    split at hmem
    · rename_i definition hknown
      exact ⟨command, definition, hknown, hmem⟩
    · simp at hmem
  · rintro ⟨command, definition, hknown, hmem⟩
    rw [← blockRemovals_eq hknown] at hmem
    exact ⟨command, mem_ids_of_repairedAs? hknown, hmem⟩

/-- What is taken off is taken off one command. -/
theorem holder_unique {command' : BlockId} (hsound : g.Sound)
    (h : id ∈ takenBy (blockRemovals catalog g command))
    (h' : id ∈ g.slotChain command' optionsSlot ∨ id ∈ g.slotChain command' operandsSlot) :
    command = command' := by
  rcases mem_slotChain_of_blockRemovals h with hmem | hmem <;> rcases h' with hmem' | hmem' <;>
    exact (hsound.slotChain_unique hmem hmem').1

/-- No block is taken off twice, if no two definitions with one id are given too often. -/
theorem nodup_takenBy_passRemovals (hsound : g.Sound)
    (hapart : ∀ command definition, repairedAs? catalog g command = some definition →
      ((exceeded g command definition).map OperandDef.id).Nodup) :
    (takenBy (passRemovals catalog g)).Nodup := by
  rw [takenBy_passRemovals, List.nodup_flatMap]
  constructor
  · intro command _
    unfold blockRemovals
    split
    · rename_i definition hknown
      exact nodup_takenBy_commandRemovals hsound (hapart command definition hknown)
    · exact List.nodup_nil
  · refine g.nodup_ids.imp fun {command command'} hne id hmem hmem' => ?_
    exact hne (holder_unique hsound hmem (mem_slotChain_of_blockRemovals hmem'))

/-- What a pass takes off are the blocks that are lost. -/
theorem mem_lost_iff (hsound : g.Sound) :
    id ∈ lost g (g.without (passRemovals catalog g)) ↔
      id ∈ takenBy (passRemovals catalog g) := by
  have hheld : id ∈ takenBy (passRemovals catalog g) → id ∈ g.held := by
    intro hmem
    rcases mem_takenBy_passRemovals_iff.1 hmem with ⟨command, definition, -, hoff⟩
    have hlink : ∃ source outlet, ⟨source, outlet, id⟩ ∈ g.links := by
      rcases mem_slotChain_of_commandRemovals hoff with hslot | hslot
      · exact hsound.exists_link_of_mem_slotChain hslot
      · exact hsound.exists_link_of_mem_slotChain hslot
    rcases hlink with ⟨source, outlet, hlink⟩
    refine List.mem_filter.2 ⟨mem_ids_iff.2 (hsound.ends_present _ hlink).2, ?_⟩
    rw [hsound.parent_eq_some_iff.2 hlink]
    rfl
  rw [lost, List.mem_filter, Option.isNone_iff_eq_none, hsound.parent_without_eq_none_iff]
  constructor
  · rintro ⟨hbefore, hnone | hmem⟩
    · have hsome := (List.mem_filter.1 hbefore).2
      rw [hnone] at hsome
      simp at hsome
    · exact hmem
  · exact fun hmem => ⟨hheld hmem, .inr hmem⟩

/-- The notices about blocks of one command are among those of its removals. -/
theorem filter_namedBy_passRemovals (hsound : g.Sound)
    (hknown : repairedAs? catalog g command = some definition) {p : BlockId → Bool}
    (hp : ∀ id, p id = true →
      id ∈ g.slotChain command optionsSlot ∨ id ∈ g.slotChain command operandsSlot) :
    (namedBy (passRemovals catalog g)).filter p =
      (namedBy (commandRemovals g command definition)).filter p := by
  have hother : ∀ others : List BlockId, command ∉ others →
      (others.flatMap fun other => (namedBy (blockRemovals catalog g other)).filter p) = [] := by
    refine fun others hfresh => List.flatMap_eq_nil_iff.2 fun other hmem => ?_
    refine List.filter_eq_nil_iff.2 fun id hnamed hid => hfresh ?_
    rwa [← holder_unique hsound (namedBy_subset _ hnamed) (hp id hid)]
  obtain ⟨before, after, hids⟩ := List.append_of_mem (mem_ids_of_repairedAs? hknown)
  have hnodup := g.nodup_ids
  rw [hids, List.nodup_middle, List.nodup_cons, List.mem_append, not_or] at hnodup
  rw [namedBy_passRemovals, List.filter_flatMap, hids, List.flatMap_append, List.flatMap_cons,
    hother before hnodup.1.1, hother after hnodup.1.2, List.nil_append, List.append_nil,
    blockRemovals_eq hknown]

/-! ## Count and notices -/

/-- What the notices of a pass say, and its count, whatever the catalog. -/
structure Explained (catalog : Catalog) (g : BlockGraph) (done : Repaired) : Prop where
  /-- No more blocks are lost than counted. -/
  lost_le : (lost g done.graph).length ≤ done.removed
  /-- Every option that is lost is named by one notice. -/
  option_noted : ∀ id ∈ lost g done.graph, g.hasKind BlockKind.isOption id = true →
    (done.notices.map Notice.block).count id = 1
  /-- Of the operands of a command with an id, the notices name the first beyond each limit that is
  exceeded. -/
  operands_noted : ∀ command definition name,
    repairedAs? catalog g command = some definition →
      (done.notices.map Notice.block).filter (· ∈ operandsNamed g command name) =
        ((exceeded g command definition).filter (·.id = name)).filterMap
          fun operand => (beyond g command operand).head?
  /-- Only blocks that are lost are named. -/
  noted_lost : ∀ notice ∈ done.notices, notice.block ∈ lost g done.graph
  /-- What is lost are options, and the operands beyond the limits that are exceeded. -/
  lost_cases : ∀ id ∈ lost g done.graph, g.hasKind BlockKind.isOption id = true ∨
    ∃ command definition, repairedAs? catalog g command = some definition ∧
      ∃ operand ∈ exceeded g command definition, id ∈ beyond g command operand

/-- The count of a pass is that of the blocks lost, and there is one notice for each option lost,
and one for all operands lost of a command and an id, which names the first of them. -/
structure Accounted (g : BlockGraph) (done : Repaired) : Prop where
  /-- The blocks counted are those that hung somewhere before and hang nowhere after. -/
  removed_eq : done.removed = (lost g done.graph).length
  option_noted : ∀ id ∈ lost g done.graph, g.hasKind BlockKind.isOption id = true →
    (done.notices.map Notice.block).count id = 1
  operands_noted : ∀ command name first rest,
    (operandsNamed g command name).filter (· ∈ lost g done.graph) = first :: rest →
      (done.notices.map Notice.block).filter (· ∈ operandsNamed g command name) = [first]
  /-- There is no notice about a block that is not lost. -/
  noted_lost : ∀ notice ∈ done.notices, notice.block ∈ lost g done.graph
  /-- Nothing is lost without a notice: there are no other blocks than these. -/
  lost_cases : ∀ id ∈ lost g done.graph, g.hasKind BlockKind.isOption id = true ∨
    ∃ command name, id ∈ operandsNamed g command name

/-- The operands exceeded are the defined ones with blocks beyond their bound. -/
theorem mem_exceeded_iff : operand ∈ exceeded g command definition ↔
    operand ∈ definition.operands ∧ beyond g command operand ≠ [] := by
  rw [exceeded, List.mem_filter, decide_eq_true_iff]

/-- Of the operands of a command with an id, one for each definition that is exceeded is named. -/
theorem filter_namedBy_operands (g : BlockGraph) (command : BlockId) (definition : CommandDef)
    (name : String) (hsound : g.Sound) :
    (namedBy (commandRemovals g command definition)).filter (· ∈ operandsNamed g command name) =
      ((exceeded g command definition).filter (·.id = name)).filterMap
        fun operand => (beyond g command operand).head? := by
  have hoptions : (takenBy (optionRemovals definition.exclusiveOptions
      (flaggedOptions g command))).filter (· ∈ operandsNamed g command name) = [] := by
    refine List.filter_eq_nil_iff.2 fun id hoption hmem => ?_
    have hoperand := not_isOption_of_operandsNamed (of_decide_eq_true hmem)
    exact Bool.false_ne_true (hoperand.symm.trans (isOption_of_optionRemovals hoption))
  rw [namedBy_commandRemovals, List.filter_append, hoptions, List.nil_append, exceeded,
    List.filter_filter, List.filterMap_filter, List.filter_filterMap]
  refine List.filterMap_congr fun operand _ => ?_
  cases hbeyond : beyond g command operand with
  | nil => simp
  | cons first rest =>
    have hfirst : first ∈ operandsNamed g command operand.id :=
      mem_operandsNamed_of_beyond (hbeyond ▸ List.mem_cons_self)
    have hiff : first ∈ operandsNamed g command name ↔ operand.id = name := by
      refine ⟨fun hmem => (operandsNamed_unique hsound hfirst hmem).2, ?_⟩
      rintro rfl
      exact hfirst
    simp [hiff, Option.filter]

/-- An option that a pass takes off is named once. -/
theorem count_namedBy_of_option (hsound : g.Sound) (hmem : id ∈ takenBy (passRemovals catalog g))
    (hoption : g.hasKind BlockKind.isOption id = true) :
    (namedBy (passRemovals catalog g)).count id = 1 := by
  have hbeyond : ∀ command operand, id ∉ beyond g command operand := by
    intro command operand hbeyond
    have hoperand := not_isOption_of_operandsNamed (mem_operandsNamed_of_beyond hbeyond)
    exact Bool.false_ne_true (hoperand.symm.trans hoption)
  rcases mem_takenBy_passRemovals_iff.1 hmem with ⟨command, definition, hknown, hoff⟩
  have hpart : (namedBy (passRemovals catalog g)).filter (· = id) =
      (namedBy (commandRemovals g command definition)).filter (· = id) := by
    refine filter_namedBy_passRemovals hsound hknown fun other hsame => ?_
    rw [of_decide_eq_true hsame]
    exact mem_slotChain_of_commandRemovals hoff
  have htaken : id ∈ takenBy
      (optionRemovals definition.exclusiveOptions (flaggedOptions g command)) := by
    refine (mem_takenBy_commandRemovals_iff.1 hoff).resolve_right ?_
    rintro ⟨operand, -, hmem⟩
    exact hbeyond command operand hmem
  have hoperands : id ∉ definition.operands.filterMap
      fun operand => (beyond g command operand).head? := by
    intro hhead
    rcases List.mem_filterMap.1 hhead with ⟨operand, -, hfirst⟩
    exact hbeyond command operand (List.mem_of_mem_head? hfirst)
  have hcount : ∀ ids : List BlockId, (ids.filter (· = id)).count id = ids.count id :=
    fun ids => List.count_filter (decide_eq_true rfl)
  rw [← hcount, hpart, hcount, namedBy_commandRemovals, List.count_append,
    List.count_eq_zero.2 hoperands, Nat.add_zero]
  exact List.count_eq_one_of_mem
    (nodup_takenBy_optionRemovals (nodup_flaggedOptions hsound command) _) htaken

/-- Every pass is explained by its notices. -/
theorem explained_of (hsound : g.Sound) (catalog : Catalog) :
    Explained catalog g (.of g (passRemovals catalog g)) := by
  have hnamed : (Repaired.of g (passRemovals catalog g)).notices.map Notice.block =
      namedBy (passRemovals catalog g) := List.map_map
  have hlost : ∀ id, id ∈ lost g (Repaired.of g (passRemovals catalog g)).graph ↔
      id ∈ takenBy (passRemovals catalog g) := fun _ => mem_lost_iff hsound
  refine ⟨?_, fun id hmem hoption => ?_, fun command definition name hknown => ?_,
    fun notice hmem => ?_, fun id hmem => ?_⟩
  · exact (nodup_lost _ _).length_le_of_subset fun id hmem => (hlost id).1 hmem
  · rw [hnamed]
    exact count_namedBy_of_option hsound ((hlost id).1 hmem) hoption
  · rw [hnamed, filter_namedBy_passRemovals hsound hknown fun id hmem =>
      .inr (mem_slotChain_of_operandsNamed (of_decide_eq_true hmem))]
    exact filter_namedBy_operands g command definition name hsound
  · have hblock : notice.block ∈ namedBy (passRemovals catalog g) :=
      hnamed ▸ List.mem_map_of_mem hmem
    exact (hlost _).2 (namedBy_subset _ hblock)
  · rcases mem_takenBy_passRemovals_iff.1 ((hlost id).1 hmem) with
      ⟨command, definition, hknown, hoff⟩
    rcases mem_takenBy_commandRemovals_iff.1 hoff with hoption | ⟨operand, hoperand, hbeyond⟩
    · exact .inl (isOption_of_optionRemovals hoption)
    · exact .inr ⟨command, definition, hknown, operand,
        mem_exceeded_iff.2 ⟨hoperand, List.ne_nil_of_mem hbeyond⟩, hbeyond⟩

/-- The first operand beyond a limit that is exceeded is lost. -/
theorem exists_first_beyond (hsound : g.Sound)
    (hknown : repairedAs? catalog g command = some definition)
    (hmem : operand ∈ exceeded g command definition) :
    ∃ first rest, beyond g command operand = first :: rest ∧
      first ∈ operandsNamed g command operand.id ∧
      first ∈ lost g (g.without (passRemovals catalog g)) := by
  rcases mem_exceeded_iff.1 hmem with ⟨hoperand, hsome⟩
  rcases List.exists_cons_of_ne_nil hsome with ⟨first, rest, hbeyond⟩
  have hfirst : first ∈ beyond g command operand := hbeyond ▸ List.mem_cons_self
  refine ⟨first, rest, hbeyond, mem_operandsNamed_of_beyond hfirst, ?_⟩
  exact (mem_lost_iff hsound).2 (mem_takenBy_passRemovals_iff.2 ⟨command, definition, hknown,
    mem_takenBy_commandRemovals_iff.2 (.inr ⟨operand, hoperand, hfirst⟩)⟩)

/-- Where the notices are one for each command and id, no two definitions with one id are
exceeded. -/
theorem Accounted.nodup_exceeded (h : Accounted g (.of g (passRemovals catalog g)))
    (hsound : g.Sound) (hknown : repairedAs? catalog g command = some definition) :
    ((exceeded g command definition).map OperandDef.id).Nodup := by
  refine List.nodup_iff_count_le_one.2 fun name => ?_
  have hcount : ((exceeded g command definition).map OperandDef.id).count name =
      ((exceeded g command definition).filter (·.id = name)).length := by
    rw [List.count_eq_countP, List.countP_map, List.countP_eq_length_filter]
    exact congrArg List.length (List.filter_congr fun operand _ => rfl)
  rw [hcount]
  have hnoted := (explained_of hsound catalog).operands_noted command definition name hknown
  rcases hsame : (exceeded g command definition).filter (·.id = name) with _ | ⟨operand, others⟩
  · rw [hsame]
    exact Nat.zero_le 1
  · have hoperand : operand ∈ (exceeded g command definition).filter (·.id = name) :=
      hsame ▸ List.mem_cons_self
    rcases List.mem_filter.1 hoperand with ⟨hexceeded, hname⟩
    obtain rfl := of_decide_eq_true hname
    rcases exists_first_beyond hsound hknown hexceeded with ⟨first, -, -, hnamed, hlost⟩
    -- As the operand is lost, there is just one notice, and so there is just one definition.
    have hmem : first ∈ (operandsNamed g command operand.id).filter
        (· ∈ lost g (g.without (passRemovals catalog g))) :=
      List.mem_filter.2 ⟨hnamed, decide_eq_true hlost⟩
    rcases List.exists_cons_of_ne_nil (List.ne_nil_of_mem hmem) with ⟨earliest, later, hcons⟩
    have hone := h.operands_noted command operand.id earliest later hcons
    rw [hnoted] at hone
    have hall : ∀ operand' ∈ (exceeded g command definition).filter (·.id = operand.id),
        ((beyond g command operand').head?).isSome = true := by
      intro operand' hmem'
      rcases exists_first_beyond hsound hknown (List.mem_of_mem_filter hmem') with
        ⟨first', rest', hbeyond', -⟩
      rw [hbeyond']
      rfl
    have hlength := List.filterMap_length_eq_length.2 hall
    rw [hone] at hlength
    exact Nat.le_of_eq hlength.symm

/-- Of blocks that are all different, those among the last are the last. -/
theorem filter_mem_drop {ids : List BlockId} (hnodup : ids.Nodup) (most : Nat) :
    ids.filter (· ∈ ids.drop most) = ids.drop most := by
  have hparts : (ids.take most).filter (· ∈ ids.drop most) ++
      (ids.drop most).filter (· ∈ ids.drop most) = ids.drop most := by
    rw [List.filter_eq_nil_iff.2, List.filter_eq_self.2 (fun _ hmem => decide_eq_true hmem),
      List.nil_append]
    exact fun id htake hdrop =>
      List.disjoint_take_drop hnodup (Nat.le_refl most) htake (of_decide_eq_true hdrop)
  rwa [← List.filter_append, List.take_append_drop] at hparts

/-- Where no two definitions with one id are exceeded, what a command has lost of an id are the
operands beyond the one limit. -/
theorem filter_lost_eq_beyond (hsound : g.Sound)
    (hknown : repairedAs? catalog g command = some definition)
    (hapart : ((exceeded g command definition).map OperandDef.id).Nodup)
    (hmem : operand ∈ exceeded g command definition) :
    (operandsNamed g command operand.id).filter
      (· ∈ lost g (g.without (passRemovals catalog g))) = beyond g command operand := by
  have hiff : ∀ id ∈ operandsNamed g command operand.id,
      (id ∈ lost g (g.without (passRemovals catalog g)) ↔ id ∈ beyond g command operand) := by
    intro id hnamed
    rw [mem_lost_iff hsound, mem_takenBy_passRemovals_iff]
    constructor
    · rintro ⟨command', definition', hknown', hoff⟩
      rcases mem_takenBy_commandRemovals_iff.1 hoff with hoption | ⟨operand', hlisted, hbeyond⟩
      · have hoperand := not_isOption_of_operandsNamed hnamed
        exact absurd (hoperand.symm.trans (isOption_of_optionRemovals hoption)) (by simp)
      · rcases operandsNamed_unique hsound hnamed (mem_operandsNamed_of_beyond hbeyond) with
          ⟨rfl, hname⟩
        obtain rfl := Option.some.inj (hknown.symm.trans hknown')
        have hmem' := mem_exceeded_iff.2 ⟨hlisted, List.ne_nil_of_mem hbeyond⟩
        rwa [List.inj_on_of_nodup_map hapart hmem hmem' hname]
    · intro hbeyond
      exact ⟨command, definition, hknown, mem_takenBy_commandRemovals_iff.2
        (.inr ⟨operand, (mem_exceeded_iff.1 hmem).1, hbeyond⟩)⟩
  rcases exists_beyond_eq g command operand with hnone | ⟨most, hdrop⟩
  · exact absurd hnone (mem_exceeded_iff.1 hmem).2
  · rw [hdrop] at hiff ⊢
    rw [List.filter_congr fun id hnamed => decide_eq_decide.2 (hiff id hnamed)]
    exact filter_mem_drop (hsound.nodup_slotChain.filter _) most

/-- Of operands with different ids just one has the id of one of them. -/
theorem filter_id_eq_singleton {operands : List OperandDef}
    (hnodup : (operands.map OperandDef.id).Nodup) (hmem : operand ∈ operands) :
    operands.filter (·.id = operand.id) = [operand] := by
  have hsame : operands.filter (·.id = operand.id) = operands.filter (· = operand) :=
    List.filter_congr fun other hother => decide_eq_decide.2
      ⟨List.inj_on_of_nodup_map hnodup hother hmem, congrArg OperandDef.id⟩
  rw [hsame, List.filter_eq, List.count_eq_one_of_mem hnodup.of_map hmem]
  rfl

/-- A pass counts right, with one notice for each command and id, exactly when no two definitions
with one id are exceeded. -/
theorem accounted_iff (hsound : g.Sound) (catalog : Catalog) :
    Accounted g (.of g (passRemovals catalog g)) ↔
      ∀ command definition, repairedAs? catalog g command = some definition →
        ((exceeded g command definition).map OperandDef.id).Nodup := by
  refine ⟨fun h _ _ hknown => h.nodup_exceeded hsound hknown, fun hapart => ?_⟩
  have hexplained := explained_of hsound catalog
  refine ⟨?_, hexplained.option_noted, fun command name first rest hfirst => ?_,
    hexplained.noted_lost, fun id hmem => ?_⟩
  · have hnodup := nodup_takenBy_passRemovals hsound hapart
    have hperm : (takenBy (passRemovals catalog g)).Perm
        (lost g (g.without (passRemovals catalog g))) :=
      (List.perm_ext_iff_of_nodup hnodup (nodup_lost _ _)).2 fun _ => (mem_lost_iff hsound).symm
    exact hperm.length_eq
  · have hmem : first ∈ (operandsNamed g command name).filter
        (· ∈ lost g (g.without (passRemovals catalog g))) := hfirst ▸ List.mem_cons_self
    rcases List.mem_filter.1 hmem with ⟨hnamed, hlost⟩
    -- The definition by which the first operand was taken off is the only one with its id.
    rcases hexplained.lost_cases first (of_decide_eq_true hlost) with hoption |
      ⟨command', definition, hknown, operand, hexceeded, hbeyond⟩
    · have hoperand := not_isOption_of_operandsNamed hnamed
      exact absurd (hoperand.symm.trans hoption) (by simp)
    · rcases operandsNamed_unique hsound hnamed (mem_operandsNamed_of_beyond hbeyond) with
        ⟨rfl, rfl⟩
      have hsame := filter_lost_eq_beyond hsound hknown (hapart _ _ hknown) hexceeded
      have honly := filter_id_eq_singleton (hapart _ _ hknown) hexceeded
      rw [hexplained.operands_noted command definition operand.id hknown, honly]
      have hcons : beyond g command operand = first :: rest := hsame.symm.trans hfirst
      simp [hcons]
  · rcases hexplained.lost_cases id hmem with hoption | ⟨command, _, _, operand, _, hbeyond⟩
    · exact .inl hoption
    · exact .inr ⟨command, operand.id, mem_operandsNamed_of_beyond hbeyond⟩

namespace Workspace

/-- Every pass over a graph that changes lead to is explained by its notices.  It counts right, with
one notice for each option and one for the operands of each command and id, exactly when no two
definitions with one id are exceeded at any command. -/
theorem passes_explained (hrepair : UnderRepair catalog settings g) :
    ∃ done, repairAll catalog g = .ok done ∧ Explained catalog g done ∧
      (Accounted g done ↔ ∀ command definition, repairedAs? catalog g command = some definition →
        ((exceeded g command definition).map OperandDef.id).Nodup) :=
  ⟨_, hrepair.repairAll_eq, explained_of hrepair.sound catalog, accounted_iff hrepair.sound catalog⟩

/-- A workspace with a block plugged into the script, before the reaction to it. -/
def plugged (w : Workspace) (id : BlockId) : Workspace :=
  { w with graph := (w.graph.cut id).plug root (.slot stackSlot) id }

/-- The reaction to a block that is plugged into the script starts with a pass over that graph. -/
theorem underRepair_plugged {w : Workspace} (hreached : Reached catalog settings w)
    (hid : id ≠ root) (hpresent : w.graph.contains id = true)
    (hfits : w.graph.Fits ⟨root, .slot stackSlot, id⟩)
    (hapart : w.graph.isAncestor id root = false) :
    UnderRepair catalog settings (w.plugged id).refresh.graph := by
  have hattach : GraphCall.run w.graph (.attach root stackSlot id) = .ok (w.plugged id).graph :=
    attach_eq_ok_iff.2 ⟨hid, hpresent, hfits, hapart, rfl⟩
  have hchange : Change w (w.plugged id) :=
    .edited hattach (retains_of_blocks (blocks_attach hattach))
  exact .reacting hreached hchange .refl

@[inherit_doc crowdedSteps]
def crowdedPass : BlockGraph :=
  (uncrowded.plugged 1).refresh.graph

/-- Of the four options and two operands of the command three are taken off, each with a notice. -/
theorem crowdedPass_explained :
    UnderRepair sortingCatalog .standard crowdedPass ∧
      ∃ done, repairAll sortingCatalog crowdedPass = .ok done ∧ Accounted crowdedPass done ∧
        done.removed = 3 ∧ done.notices.map Notice.block = [5, 3, 7] ∧
        lost crowdedPass done.graph = [3, 5, 7] := by
  have hrepair : UnderRepair sortingCatalog .standard crowdedPass :=
    underRepair_plugged (reached_run sortingCatalog .standard crowdedSteps) (by decide)
      (by decide +kernel) ⟨.command, by decide +kernel, by decide +kernel⟩ (by decide +kernel)
  have hapart : ∀ command ∈ crowdedPass.ids,
      ∀ definition ∈ repairedAs? sortingCatalog crowdedPass command,
        ((exceeded crowdedPass command definition).map OperandDef.id).Nodup := by decide +kernel
  rcases passes_explained hrepair with ⟨done, hrun, -, haccounted⟩
  have hdone : (repairAll sortingCatalog crowdedPass).toOption.map (fun done =>
      (done.removed, done.notices.map Notice.block, lost crowdedPass done.graph)) =
      some (3, [5, 3, 7], [3, 5, 7]) := by decide +kernel
  rw [hrun] at hdone
  simp only [Except.toOption, Option.map_some, Option.some.injEq, Prod.mk.injEq] at hdone
  exact ⟨hrepair, done, hrun, haccounted.2 fun command definition hknown =>
    hapart command (mem_ids_of_repairedAs? hknown) definition hknown, hdone⟩

/-- A small catalog: a command that lists at most one file, and says so twice. -/
def filingText : String :=
  "\x7b\"commands\": [\x7b\"shellCommand\": \"ls\", \"operands\": [" ++
    "\x7b\"id\": \"file\", \"cardinality\": \x7b\"max\": 1\x7d\x7d, " ++
      "\x7b\"id\": \"file\", \"cardinality\": \x7b\"max\": 1\x7d\x7d]\x7d]\x7d"

@[inherit_doc filingText]
def filing : Definitions where
  commands := [⟨none, "ls", "", "", "", "", [], none, [],
    [⟨"file", "", "", "", .string, "", ⟨0, .limited 1⟩, []⟩,
      ⟨"file", "", "", "", .string, "", ⟨0, .limited 1⟩, []⟩], none, [], none⟩]
  operators := []
  controls := []
  categories := []

@[inherit_doc filingText]
def filingCatalog : Catalog :=
  .compile Pattern.search filing.normalize

/-- Make the command and give it three files. -/
def filingSteps : List Mutation :=
  [.create (.command "ls"), .create (.operand "ls" "file"), .create (.operand "ls" "file"),
    .create (.operand "ls" "file"), .attach 1 operandsSlot 2, .insertAfter 2 3, .insertAfter 3 4]

/-- The command with its files plugged into the script. -/
def filingPass : BlockGraph :=
  ((run filingCatalog .standard filingSteps).plugged 1).refresh.graph

/-- Two files are taken off, but the pass counts four, and a second notice names the first of them
again. -/
theorem filingPass_not_accounted :
    Catalog.load Pattern.search filingText = .ok filingCatalog ∧
      UnderRepair filingCatalog .standard filingPass ∧
      (repairAll filingCatalog filingPass).toOption.map (fun done =>
        (done.removed, done.notices.map Notice.block, lost filingPass done.graph)) =
        some (4, [3, 3], [3, 4]) ∧
      ¬ ∀ g, UnderRepair filingCatalog .standard g →
        ∃ done, repairAll filingCatalog g = .ok done ∧ Accounted g done := by
  have hload : Catalog.load Pattern.search filingText = .ok filingCatalog :=
    load_eq_ok (by decide +kernel) (by decide +kernel)
  have hrepair : UnderRepair filingCatalog .standard filingPass :=
    underRepair_plugged (reached_run filingCatalog .standard filingSteps) (by decide)
      (by decide +kernel) ⟨.command, by decide +kernel, by decide +kernel⟩ (by decide +kernel)
  have hdone : (repairAll filingCatalog filingPass).toOption.map (fun done =>
      (done.removed, done.notices.map Notice.block, lost filingPass done.graph)) =
      some (4, [3, 3], [3, 4]) := by decide +kernel
  refine ⟨hload, hrepair, hdone, fun hall => ?_⟩
  rcases hall filingPass hrepair with ⟨done, hrun, haccounted⟩
  rw [hrun] at hdone
  simp only [Except.toOption, Option.map_some, Option.some.injEq, Prod.mk.injEq] at hdone
  have hcount := haccounted.removed_eq
  rw [hdone.1, hdone.2.2] at hcount
  exact absurd hcount (by decide)

end Workspace

end ShellComposer
