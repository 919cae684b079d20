import ShellComposer.Proofs.Accounting
import ShellComposer.Proofs.Pruning

/-!
# What a notice about an option says

An option is taken off because an earlier one has the same flag, or because an earlier one has a
flag of the same group.  A pass takes off one repeated option of a command only, and then compares
flags with the groups, not with each other.  So a further repeat of a flag that is in a group is
taken off by the group, and where the option that the group keeps has this very flag, the notice
says that it cannot be used with itself.

Main results:

- Theorems `Notice.ofConflict_inj` and `Notice.ofDuplicate_ne_ofConflict`: what is told by the texts
  of notices.
- Definition `Turn`: the options in a group when the turn of the group comes.
- Inductive relation `Told` and theorem `told_of_passRemovals`: what the notices about options say.
- Definition `Honest` and theorem `honest_iff`: when a pass reports every repeat as a duplicate.
- Theorem `notices_told`: where the notices of a run come from, and which of them are honest.
-/

namespace ShellComposer

open BlockGraph Catalog Relation

variable {catalog : Catalog} {settings : Settings} {g : BlockGraph} {command : BlockId}
variable {definition : CommandDef} {groups : List (List String)} {group : List String}
variable {options left : List (BlockId × String)} {option keeper : BlockId × String}
variable {removal : Removal} {before after : List Removal} {notice : Notice}

/-! ## Texts of notices -/

namespace Notice

variable {flag flag' keeper keeper' : String} {id id' : BlockId}

theorem message_ofDuplicate (flag : String) (id : BlockId) :
    (ofDuplicate flag id).message = "Option \"" ++ flag ++ "\" removed as a duplicate." := rfl

theorem message_ofConflict (flag keeper : String) (id : BlockId) :
    (ofConflict flag keeper id).message =
      "Conflict: option \"" ++ flag ++ "\" cannot be used with \"" ++ keeper ++ "\"." := rfl

/-- The text about a conflict tells which option is kept. -/
theorem ofConflict_inj :
    ofConflict flag keeper id = ofConflict flag keeper' id ↔ keeper = keeper' := by
  refine ⟨fun h => ?_, fun h => h ▸ rfl⟩
  have htext := congrArg Notice.message h
  rwa [message_ofConflict, message_ofConflict, String.append_left_inj, String.append_right_inj]
    at htext

/-- Duplicates and conflicts are told apart by the first letter. -/
theorem ofDuplicate_ne_ofConflict : ofDuplicate flag id ≠ ofConflict flag' keeper id' := by
  intro h
  have hduplicate : "Option \"".toList.head? = some 'O' := by decide +kernel
  have hconflict : "Conflict: option \"".toList.head? = some 'C' := by decide +kernel
  have htext := congrArg (fun notice => notice.message.toList.head?) h
  simp only [message_ofDuplicate, message_ofConflict, String.toList_append, List.append_assoc,
    List.head?_append, hduplicate, hconflict, Option.some_or] at htext
  exact absurd htext (by decide)

end Notice

/-! ## Places in a list of removals -/

/-- A place in two lists after each other is a place in the first or in the second. -/
theorem split_append {α : Type} {xs ys before after : List α} {x : α}
    (h : xs ++ ys = before ++ x :: after) :
    (∃ after', xs = before ++ x :: after') ∨
      ∃ before', before = xs ++ before' ∧ ys = before' ++ x :: after := by
  rcases List.append_eq_append_iff.1 h with ⟨middle, hbefore, hys⟩ | ⟨middle, hxs, hmiddle⟩
  · exact .inr ⟨middle, hbefore, hys⟩
  · cases middle with
    | nil => exact .inr ⟨[], by rw [hxs, List.append_nil, List.append_nil], hmiddle.symm⟩
    | cons first middle =>
      obtain ⟨rfl, -⟩ := List.cons.inj hmiddle
      exact .inl ⟨middle, hxs⟩

/-- A place in lists that follow each other is a place in one of them. -/
theorem split_flatMap {α β : Type} {f : α → List β} {items : List α} {before after : List β}
    {x : β} (h : items.flatMap f = before ++ x :: after) :
    ∃ front item back before' after', items = front ++ item :: back ∧
      before = front.flatMap f ++ before' ∧ f item = before' ++ x :: after' := by
  induction items generalizing before with
  | nil => simp at h
  | cons first rest ih =>
    rcases split_append h with ⟨after', hfirst⟩ | ⟨later, rfl, hrest⟩
    · exact ⟨[], first, rest, before, after', rfl, rfl, hfirst⟩
    · rcases ih hrest with ⟨front, item, back, before', after', rfl, rfl, hitem⟩
      exact ⟨first :: front, item, back, before', after', rfl, (List.append_assoc ..).symm, hitem⟩

/-! ## Turns of groups -/

theorem remaining_nil (options : List (BlockId × String)) : remaining [] options = options :=
  List.filter_eq_self.2 (by simp)

/-- What remains after two lists of removals remains after one and then the other. -/
theorem remaining_append (removals later : List Removal) (options : List (BlockId × String)) :
    remaining (removals ++ later) options = remaining later (remaining removals options) := by
  rw [remaining, remaining, remaining, List.filter_filter, takenBy_append]
  refine List.filter_congr fun option _ => ?_
  rw [Bool.eq_iff_iff]
  simp [and_comm]

/-- Later groups take off what they can of what the others have left. -/
theorem conflictRemovals_append (done later : List (List String))
    (options : List (BlockId × String)) : conflictRemovals (done ++ later) options =
      conflictRemovals done options ++
        conflictRemovals later (remaining (conflictRemovals done options) options) := by
  induction done generalizing options with
  | nil => rw [List.nil_append, conflictRemovals, List.nil_append, remaining_nil]
  | cons first done ih =>
    rw [List.cons_append, conflictRemovals, conflictRemovals, ih, remaining_append,
      List.append_assoc]

/-- Groups are treated in turn, each with the options that the ones before it have left. -/
theorem optionRemovals_append (done later : List (List String))
    (options : List (BlockId × String)) : optionRemovals (done ++ later) options =
      optionRemovals done options ++
        conflictRemovals later (remaining (optionRemovals done options) options) := by
  rw [optionRemovals, optionRemovals, conflictRemovals_append, remaining_append, List.append_assoc]

/-- What is taken off after the duplicate is taken off at the turn of some group. -/
theorem split_conflictRemovals (h : conflictRemovals groups options = before ++ removal :: after) :
    ∃ done group later before' after', groups = done ++ group :: later ∧
      before = conflictRemovals done options ++ before' ∧
      groupRemovals group (remaining (conflictRemovals done options) options) =
        before' ++ removal :: after' := by
  induction groups generalizing options before with
  | nil => simp [conflictRemovals] at h
  | cons first groups ih =>
    rw [conflictRemovals] at h
    rcases split_append h with ⟨after', hfirst⟩ | ⟨later', rfl, hrest⟩
    · refine ⟨[], first, groups, before, after', rfl, rfl, ?_⟩
      rwa [conflictRemovals, remaining_nil]
    · rcases ih hrest with ⟨done, group, later, before', after', rfl, rfl, hgroup⟩
      refine ⟨first :: done, group, later, before', after', rfl, ?_, ?_⟩
      · rw [conflictRemovals, List.append_assoc]
      · rwa [conflictRemovals, remaining_append]

/-- The options in a group, a first one and others, when the turn of the group comes: what has been
taken off by then are a duplicate and what the groups before it have taken off. -/
def Turn (groups : List (List String)) (options : List (BlockId × String)) (group : List String)
    (keeper : BlockId × String) (others : List (BlockId × String)) : Prop :=
  ∃ done later, groups = done ++ group :: later ∧
    (remaining (optionRemovals done options) options).filter
      (fun option => group.contains option.2) = keeper :: others

variable {others : List (BlockId × String)}

/-- All but the first are taken off. -/
theorem Turn.mem_optionRemovals (h : Turn groups options group keeper others)
    (hmem : option ∈ others) :
    .single (.ofConflict option.2 keeper.2 option.1) ∈ optionRemovals groups options := by
  rcases h with ⟨done, later, rfl, hmembers⟩
  rw [optionRemovals_append, conflictRemovals, groupRemovals, hmembers]
  exact List.mem_append_right _ (List.mem_append_left _
    (List.mem_map_of_mem (f := fun option : BlockId × String =>
      Removal.single (.ofConflict option.2 keeper.2 option.1)) hmem))

/-- The options that a group loses are among those that were there at its turn. -/
theorem Turn.mem_options (h : Turn groups options group keeper others) (hmem : option ∈ others) :
    option ∈ options := by
  rcases h with ⟨done, later, -, hmembers⟩
  have hmember : option ∈ (remaining (optionRemovals done options) options).filter
      fun option => group.contains option.2 := hmembers ▸ List.mem_cons_of_mem _ hmem
  exact List.mem_of_mem_filter (List.mem_of_mem_filter hmember)

/-! ## What notices say -/

/-- An earlier option has the same flag. -/
def Repeats (options : List (BlockId × String)) (option : BlockId × String) : Prop :=
  ∃ earlier, [earlier, option].Sublist options ∧ earlier.2 = option.2

/-- What a notice says about an option, by the options that the command had before the pass, and
those that are left when it is taken off. -/
inductive Told (groups : List (List String)) (options left : List (BlockId × String))
    (option : BlockId × String) : Notice → Prop where
  /-- It repeats an earlier one. -/
  | duplicate (repeats : Repeats left option) :
      Told groups options left option (.ofDuplicate option.2 option.1)
  /-- It is in a group of which an earlier one is kept, and the notice names that one.  The option
  is a repeat exactly when both have one flag. -/
  | conflict {group : List String} {keeper : BlockId × String}
      {others : List (BlockId × String)} (turn : Turn groups options group keeper others)
      (among : option ∈ others) (repeats_iff : Repeats left option ↔ keeper.2 = option.2) :
      Told groups options left option (.ofConflict option.2 keeper.2 option.1)

/-- The second option left in a group is a repeat exactly when it has the flag of the first. -/
theorem repeats_iff_of_second {rest : List (BlockId × String)} (hnodup : (left.map Prod.fst).Nodup)
    (hmembers : left.filter (fun option => group.contains option.2) = keeper :: option :: rest) :
    Repeats left option ↔ keeper.2 = option.2 := by
  have hsub : [keeper, option].Sublist left :=
    ((List.nil_sublist rest).cons_cons option |>.cons_cons keeper).trans
      (hmembers ▸ List.filter_sublist)
  refine ⟨?_, fun hflag => ⟨keeper, hsub, hflag⟩⟩
  rintro ⟨earlier, hpair, hflag⟩
  have hlisted : group.contains option.2 = true :=
    (List.mem_filter.1 (hmembers ▸ by simp :
      option ∈ left.filter (fun option => group.contains option.2))).2
  have hmembers' : [earlier, option].Sublist (keeper :: option :: rest) := by
    have hfiltered := hpair.filter fun option => group.contains option.2
    rw [hmembers] at hfiltered
    rwa [List.filter_eq_self.2 (by simpa [hflag] using hlisted)] at hfiltered
  -- The only option before this one is the keeper, since no option is there twice.
  have hfresh : option ∉ rest := by
    have hdifferent : (keeper :: option :: rest).Nodup :=
      hmembers ▸ hnodup.of_map.filter _
    exact (List.nodup_cons.1 (List.nodup_cons.1 hdifferent).2).1
  rcases List.sublist_cons_iff.1 hmembers' with hlater | ⟨others, hhead, -⟩
  · refine absurd ?_ hfresh
    rcases List.sublist_cons_iff.1 hlater with hlater | ⟨others, hhead, hothers⟩
    · exact hlater.subset (by simp)
    · obtain ⟨rfl, rfl⟩ := List.cons.inj hhead
      exact hothers.subset (by simp)
  · obtain ⟨rfl, -⟩ := List.cons.inj hhead
    exact hflag

/-- At the turn of a group its members are taken off one after the other, always the second. -/
theorem split_groupRemovals (hnodup : (left.map Prod.fst).Nodup)
    (h : groupRemovals group left = before ++ removal :: after) :
    ∃ keeper others option rest,
      left.filter (fun option => group.contains option.2) = keeper :: others ∧ option ∈ others ∧
      (remaining before left).filter (fun option => group.contains option.2) =
        keeper :: option :: rest ∧ removal = .single (.ofConflict option.2 keeper.2 option.1) := by
  unfold groupRemovals at h
  split at h
  · simp at h
  · rename_i keeper others hmembers
    rcases List.map_eq_append_iff.1 h with ⟨front, back, rfl, hbefore, hback⟩
    rcases List.map_eq_cons_iff.1 hback with ⟨option, rest, rfl, hremoval, -⟩
    have htaken : takenBy before = front.map Prod.fst := by
      rw [← hbefore, takenBy_conflicts]
    exact ⟨keeper, _, option, rest, hmembers, by simp,
      filter_remaining_of_front hnodup hmembers htaken, hremoval.symm⟩

/-- Nothing is taken off before the duplicate, which repeats an earlier option. -/
theorem split_duplicateRemovals (h : duplicateRemovals options = before ++ removal :: after) :
    before = [] ∧ ∃ option ∈ options, Repeats options option ∧
      removal = .single (.ofDuplicate option.2 option.1) := by
  unfold duplicateRemovals at h
  cases hfirst : firstRepeated [] options with
  | none => simp [hfirst] at h
  | some option =>
    rw [hfirst] at h
    rcases List.singleton_eq_append_iff.1 h with ⟨hbefore, hremoval⟩ | ⟨-, hremoval⟩
    · exact ⟨hbefore, option, mem_of_firstRepeated hfirst,
        (exists_earlier_of_firstRepeated hfirst).resolve_left List.not_mem_nil,
        (List.cons.inj hremoval).1⟩
    · simp at hremoval

/-- Every option that is taken off is told about. -/
theorem told_of_optionRemovals (hnodup : (options.map Prod.fst).Nodup)
    (h : optionRemovals groups options = before ++ removal :: after) :
    ∃ option ∈ remaining before options, removal.notice.block = option.1 ∧
      Told groups options (remaining before options) option removal.notice := by
  rcases split_append h with ⟨after', hduplicate⟩ | ⟨later, rfl, hconflict⟩
  · rcases split_duplicateRemovals hduplicate with ⟨rfl, option, hmem, hrepeats, rfl⟩
    rw [remaining_nil]
    exact ⟨option, hmem, rfl, .duplicate hrepeats⟩
  · rcases split_conflictRemovals hconflict with
      ⟨done, group, later, before', after', rfl, rfl, hgroup⟩
    rw [← remaining_append, ← optionRemovals] at hgroup
    rcases split_groupRemovals (nodup_remaining hnodup _) hgroup with
      ⟨keeper, others, option, rest, hturn, hmem, hmembers, rfl⟩
    rw [← remaining_append] at hmembers
    rw [← List.append_assoc, ← optionRemovals]
    have hoption : option ∈ (remaining (optionRemovals done options ++ before') options).filter
        fun option => group.contains option.2 := hmembers ▸ by simp
    have hrepeats := repeats_iff_of_second (nodup_remaining hnodup _) hmembers
    exact ⟨option, List.mem_of_mem_filter hoption, rfl,
      .conflict ⟨done, later, rfl, hturn⟩ hmem hrepeats⟩

/-- What a notice of a pass says: that an option is taken off, or operands are beyond a limit. -/
inductive ToldOf (catalog : Catalog) (g g' : BlockGraph) (notice : Notice) : Prop where
  | option {command : BlockId} {definition : CommandDef} {option : BlockId × String}
      (known : repairedAs? catalog g command = some definition)
      (attached : option ∈ flaggedOptions g' command) (block_eq : notice.block = option.1)
      (told : Told definition.exclusiveOptions (flaggedOptions g command)
        (flaggedOptions g' command) option notice)
  | operand {command : BlockId} {definition : CommandDef} {operand : OperandDef} (most : Nat)
      (known : repairedAs? catalog g command = some definition)
      (listed : operand ∈ definition.operands)
      (beyond : notice.block ∈ beyond g command operand)
      (notice_eq : notice = .ofLimit most operand notice.block)

/-- The notice about operands names a limit, and one of the operands beyond it. -/
theorem told_of_operandRemoval? {operand : OperandDef}
    (h : operandRemoval? g (g.slotChain command operandsSlot) operand = some removal) :
    ∃ most, removal.notice.block ∈ beyond g command operand ∧
      removal.notice = .ofLimit most operand removal.notice.block := by
  have htaken := takenBy_operandRemoval? g (g.slotChain command operandsSlot) operand
  rw [h] at htaken
  have hbeyond : removal.notice.block ∈ beyond g command operand := by
    rw [beyond, ← htaken]
    simp [Removal.taken]
  unfold operandRemoval? at h
  split at h
  · simp at h
  · rename_i most _
    split at h
    · simp at h
    · obtain rfl := Option.some.inj h
      exact ⟨most.toNat, hbeyond, rfl⟩

/-- When something is taken off a command, its options are those that its own removals have left. -/
theorem flaggedOptions_without_front (hsound : g.Sound) {front : List BlockId}
    (hfresh : command ∉ front) (removals : List Removal) :
    flaggedOptions (g.without (front.flatMap (blockRemovals catalog g) ++ removals)) command =
      remaining removals (flaggedOptions g command) := by
  rw [flaggedOptions_without hsound, remaining_append]
  congr 1
  refine List.filter_eq_self.2 fun option hoption => decide_eq_true fun htaken => hfresh ?_
  rw [takenBy, List.flatMap_assoc] at htaken
  rcases List.mem_flatMap.1 htaken with ⟨other, hother, hoff⟩
  rwa [← holder_unique hsound hoff (.inl (mem_slotChain_of_flaggedOptions hoption))]

/-- Whatever a pass takes off is told about. -/
theorem told_of_passRemovals (hsound : g.Sound)
    (h : passRemovals catalog g = before ++ removal :: after) :
    ToldOf catalog g (g.without before) removal.notice := by
  rcases split_flatMap h with ⟨front, command, back, before', after', hids, rfl, hcommand⟩
  have hfresh : command ∉ front := by
    have hnodup := g.nodup_ids
    rw [hids, List.nodup_middle, List.nodup_cons, List.mem_append, not_or] at hnodup
    exact hnodup.1.1
  unfold blockRemovals at hcommand
  split at hcommand
  · rename_i definition hknown
    rcases split_append hcommand with ⟨after'', hoptions⟩ | ⟨later, rfl, hoperands⟩
    · rcases told_of_optionRemovals (nodup_flaggedOptions hsound command) hoptions with
        ⟨option, hmem, hblock, htold⟩
      rw [← flaggedOptions_without_front hsound hfresh] at hmem htold
      exact .option hknown hmem hblock htold
    · have hmem : removal ∈ definition.operands.filterMap
          (operandRemoval? g (g.slotChain command operandsSlot)) := hoperands ▸ by simp
      rcases List.mem_filterMap.1 hmem with ⟨operand, hlisted, hremoval⟩
      rcases told_of_operandRemoval? hremoval with ⟨most, hbeyond, hnotice⟩
      exact .operand most hknown hlisted hbeyond hnotice
  · simp at hcommand

/-! ## When every repeat is reported as a duplicate -/

/-- Every option that is taken off although an earlier one has the same flag is reported as a
duplicate, and none is reported as one that cannot be used with itself. -/
def Honest (catalog : Catalog) (g : BlockGraph) : Prop :=
  ∀ before removal after, passRemovals catalog g = before ++ removal :: after →
    ∀ command, ∀ option ∈ flaggedOptions (g.without before) command,
      removal.notice.block = option.1 →
        (Repeats (flaggedOptions (g.without before) command) option →
          removal.notice = .ofDuplicate option.2 option.1) ∧
        removal.notice ≠ .ofConflict option.2 option.2 option.1

/-- When the turn of a group comes, no other option has the flag of the one that is kept. -/
def Unrepeated (catalog : Catalog) (g : BlockGraph) : Prop :=
  ∀ command definition, repairedAs? catalog g command = some definition →
    ∀ group keeper others,
      Turn definition.exclusiveOptions (flaggedOptions g command) group keeper others →
        keeper.2 ∉ others.map Prod.snd

/-- An option block is an option of one command, with one flag. -/
theorem flaggedOptions_unique {command' : BlockId} {option' : BlockId × String} (hsound : g.Sound)
    (h : option ∈ flaggedOptions g command) (h' : option' ∈ flaggedOptions g command')
    (hsame : option.1 = option'.1) : command = command' ∧ option = option' := by
  have hslot := mem_slotChain_of_flaggedOptions h
  have hslot' := mem_slotChain_of_flaggedOptions h'
  rw [← hsame] at hslot'
  refine ⟨(hsound.slotChain_unique hslot hslot').1, ?_⟩
  rcases List.mem_map.1 h with ⟨id, -, rfl⟩
  rcases List.mem_map.1 h' with ⟨id', -, rfl⟩
  obtain rfl : id = id' := hsame
  rfl

/-- The options left after some removals were options before. -/
theorem mem_flaggedOptions_of_without (hsound : g.Sound)
    (h : option ∈ flaggedOptions (g.without before) command) :
    option ∈ flaggedOptions g command := by
  rw [flaggedOptions_without hsound] at h
  exact List.mem_of_mem_filter h

/-- A notice that names an option of a command tells that it is taken off this command. -/
theorem told_of_flaggedOptions (hsound : g.Sound)
    (hsplit : passRemovals catalog g = before ++ removal :: after)
    (hmem : option ∈ flaggedOptions g command) (hblock : removal.notice.block = option.1) :
    option ∈ flaggedOptions (g.without before) command ∧
      ∃ definition, repairedAs? catalog g command = some definition ∧
        Told definition.exclusiveOptions (flaggedOptions g command)
          (flaggedOptions (g.without before) command) option removal.notice := by
  cases told_of_passRemovals hsound hsplit with
  | option known attached block_eq told =>
    have hbefore := mem_flaggedOptions_of_without hsound attached
    obtain ⟨rfl, rfl⟩ := flaggedOptions_unique hsound hbefore hmem (block_eq.symm.trans hblock)
    exact ⟨attached, _, known, told⟩
  | operand most known listed beyond notice_eq =>
    have hoption := isOption_of_flaggedOptions hmem
    rw [← hblock] at hoption
    have hoperand := not_isOption_of_operandsNamed (mem_operandsNamed_of_beyond beyond)
    exact absurd (hoperand.symm.trans hoption) (by simp)

/-- A pass reports every repeat as a duplicate exactly when no group is left with two options of the
flag that it keeps. -/
theorem honest_iff (hsound : g.Sound) : Honest catalog g ↔ Unrepeated catalog g := by
  constructor
  · intro hhonest command definition hknown group keeper others hturn hrepeated
    rcases List.mem_map.1 hrepeated with ⟨option, hmem, hflag⟩
    have hoff : .single (.ofConflict option.2 keeper.2 option.1) ∈ passRemovals catalog g := by
      refine List.mem_flatMap.2 ⟨command, mem_ids_of_repairedAs? hknown, ?_⟩
      rw [blockRemovals_eq hknown]
      exact List.mem_append_left _ (hturn.mem_optionRemovals hmem)
    obtain ⟨before, after, hsplit⟩ := List.append_of_mem hoff
    have hattached := (told_of_flaggedOptions hsound hsplit (hturn.mem_options hmem) rfl).1
    have hnamed := (hhonest _ _ _ hsplit command option hattached rfl).2
    exact hnamed (by rw [hflag, Removal.notice_single])
  · intro hunrepeated before removal after hsplit command option hattached hblock
    have hmem := mem_flaggedOptions_of_without hsound hattached
    rcases told_of_flaggedOptions hsound hsplit hmem hblock with ⟨-, definition, hknown, htold⟩
    generalize removal.notice = notice at htold
    cases htold with
    | duplicate repeats => exact ⟨fun _ => rfl, Notice.ofDuplicate_ne_ofConflict⟩
    | conflict turn among repeats_iff =>
      -- The group keeps another flag, so the option is no repeat.
      have hother := fun hflag => hunrepeated _ _ hknown _ _ _ turn
        (List.mem_map.2 ⟨option, among, Eq.symm hflag⟩)
      exact ⟨fun hrepeats => absurd (repeats_iff.1 hrepeats) hother,
        fun hsame => hother (Notice.ofConflict_inj.1 hsame)⟩

/-- A pass that finds no more than one repeat at any command reports it as a duplicate. -/
theorem unrepeated_of_nodup (hnodup : ∀ command definition,
    repairedAs? catalog g command = some definition →
      ((remaining (duplicateRemovals (flaggedOptions g command))
        (flaggedOptions g command)).map Prod.snd).Nodup) : Unrepeated catalog g := by
  rintro command definition hknown group keeper others ⟨done, later, -, hmembers⟩
  have hsub : (keeper :: others).Sublist (remaining (duplicateRemovals (flaggedOptions g command))
      (flaggedOptions g command)) := by
    rw [← hmembers, optionRemovals, remaining_append]
    exact List.filter_sublist.trans List.filter_sublist
  exact (List.nodup_cons.1 ((hnodup command definition hknown).sublist (hsub.map Prod.snd))).1

/-! ## Notices of a run -/

namespace Workspace

variable {w start before : Workspace}

/-- The notices of a pass that a reaction makes are those of the graph that it is made on. -/
theorem notices_of_passes (hreached : Reached catalog settings w) (hchange : Change w start)
    (hpasses : ReflTransGen Pass start before) (hmem : notice ∈ before.notices) :
    notice ∈ w.notices ∨ ∃ g, UnderRepair catalog settings g ∧
      notice ∈ (passRemovals catalog g).map Removal.notice := by
  induction hpasses with
  | refl => exact .inl (hchange.notices ▸ hmem)
  | tail hpasses hpass ih =>
    rcases hpass with ⟨done, hrun, -, rfl⟩
    rcases List.mem_append.1 hmem with hmem | hmem
    · exact ih hmem
    · have hrepair := UnderRepair.reacting hreached hchange hpasses
      have hsound := (hchange.tended hreached.valid.tended).sound
      rw [(sound_of_passes hpasses hsound).2, hchange.setting.1, hreached.valid.catalog_eq,
        hrepair.repairAll_eq] at hrun
      obtain rfl := Except.ok.inj hrun
      exact .inr ⟨_, hrepair, hmem⟩

/-- Every notice of a run comes from a pass. -/
theorem Reached.exists_pass (h : Reached catalog settings w) (hmem : notice ∈ w.notices) :
    ∃ g, UnderRepair catalog settings g ∧ notice ∈ (passRemovals catalog g).map Removal.notice := by
  induction h with
  | new => exact absurd hmem List.not_mem_nil
  | @changed w mutation earlier ih =>
    rcases w.answer_cases mutation with ⟨fault, hrun⟩ | ⟨start, made, hchange, hrun⟩
    · rw [hrun] at hmem
      exact ih hmem
    · rcases react_exits (hchange.tended earlier.valid.tended).sound with ⟨last, hpasses, hends, -⟩
      have hlast : notice ∈ last.notices := by
        rw [hrun] at hmem
        have hworkspace : (start.react.map fun _ => made).workspace = last.refresh.revalidate :=
          hends
        rwa [hworkspace] at hmem
      exact (notices_of_passes earlier hchange hpasses hlast).elim ih id
  | drained => exact absurd hmem List.not_mem_nil

/-- What the notices of a pass say, and when they report every repeat as a duplicate. -/
structure Telling (catalog : Catalog) (g : BlockGraph) : Prop where
  /-- The pass makes its removals, with a notice for each. -/
  run_eq : repairAll catalog g = .ok (.of g (passRemovals catalog g))
  /-- A notice is about what is taken off next, out of what has been left. -/
  told : ∀ before removal after, passRemovals catalog g = before ++ removal :: after →
    ToldOf catalog g (g.without before) removal.notice
  honest_iff : Honest catalog g ↔ Unrepeated catalog g
  /-- One duplicate is taken off each command, so a single repeat is always reported as such. -/
  honest_of_nodup : (∀ command definition, repairedAs? catalog g command = some definition →
    ((remaining (duplicateRemovals (flaggedOptions g command))
      (flaggedOptions g command)).map Prod.snd).Nodup) → Honest catalog g

/-- Every notice of a run comes from a pass over a graph that changes lead to.  Such a pass tells of
each option which earlier one it repeats or cannot be used with, and it reports every repeat as a
duplicate exactly when no group is left with two options of the flag that it keeps. -/
theorem notices_told (h : Reached catalog settings w) :
    (∀ notice ∈ w.notices, ∃ g, UnderRepair catalog settings g ∧
      notice ∈ (passRemovals catalog g).map Removal.notice) ∧
        ∀ g, UnderRepair catalog settings g → Telling catalog g :=
  ⟨fun _ hmem => h.exists_pass hmem, fun _ hrepair => ⟨hrepair.repairAll_eq,
    fun _ _ _ hsplit => told_of_passRemovals hrepair.sound hsplit, honest_iff hrepair.sound,
    fun hnodup => (honest_iff hrepair.sound).2 (unrepeated_of_nodup hnodup)⟩⟩

/-- Of the four options of the command one repeats another, and it is reported as a duplicate. -/
theorem crowdedPass_told :
    (run sortingCatalog .standard (crowdedSteps ++ [.attach root stackSlot 1])).notices =
        [.ofDuplicate "-r" 5, .ofConflict "-h" "-n" 3,
          .ofLimit 1 ⟨"file", "", "", "", .string, "", ⟨0, .limited 1⟩, []⟩ 7] ∧
      (∃ g, UnderRepair sortingCatalog .standard g ∧
        Notice.ofDuplicate "-r" 5 ∈ (passRemovals sortingCatalog g).map Removal.notice) ∧
      UnderRepair sortingCatalog .standard crowdedPass ∧ Honest sortingCatalog crowdedPass := by
  have hreached := reached_run sortingCatalog .standard (crowdedSteps ++ [.attach root stackSlot 1])
  have hnotices : (run sortingCatalog .standard
      (crowdedSteps ++ [.attach root stackSlot 1])).notices =
        [.ofDuplicate "-r" 5, .ofConflict "-h" "-n" 3,
          .ofLimit 1 ⟨"file", "", "", "", .string, "", ⟨0, .limited 1⟩, []⟩ 7] := by decide +kernel
  rcases notices_told hreached with ⟨hpass, htelling⟩
  have hrepair : UnderRepair sortingCatalog .standard crowdedPass :=
    underRepair_plugged (reached_run sortingCatalog .standard crowdedSteps) (by decide)
      (by decide +kernel) ⟨.command, by decide +kernel, by decide +kernel⟩ (by decide +kernel)
  have hsingle : ∀ command ∈ crowdedPass.ids,
      ((remaining (duplicateRemovals (flaggedOptions crowdedPass command))
        (flaggedOptions crowdedPass command)).map Prod.snd).Nodup := by decide +kernel
  refine ⟨hnotices, hpass _ (hnotices ▸ List.mem_cons_self), hrepair, ?_⟩
  exact (htelling _ hrepair).honest_of_nodup fun command _ hknown =>
    hsingle command (mem_ids_of_repairedAs? hknown)

/-- A small catalog: a command with an option that is in a group. -/
def repeatingText : String :=
  "\x7b\"commands\": [\x7b\"shellCommand\": \"ls\", \"options\": [\x7b\"flag\": \"-l\"\x7d, " ++
    "\x7b\"flag\": \"-x\"\x7d], \"exclusiveOptions\": [[\"-l\", \"-x\"]]\x7d]\x7d"

@[inherit_doc repeatingText]
def repeating : Definitions where
  commands := [⟨none, "ls", "", "", "", "", [⟨"-l", none, "", none⟩, ⟨"-x", none, "", none⟩], none,
    [["-l", "-x"]], [], none, [], none⟩]
  operators := []
  controls := []
  categories := []

@[inherit_doc repeatingText]
def repeatingCatalog : Catalog :=
  .compile Pattern.search repeating.normalize

/-- Give the command one option three times, and plug it into the script. -/
def repeatingSteps : List Mutation :=
  [.create (.command "ls"), .create (.option "ls"), .create (.option "ls"), .create (.option "ls"),
    .attach 1 optionsSlot 2, .insertAfter 2 3, .insertAfter 3 4, .attach root stackSlot 1]

/-- Two options repeat the first, but the pass reports the second of them as one that cannot be used
with itself. -/
theorem repeatingSteps_conflict_with_itself :
    Catalog.load Pattern.search repeatingText = .ok repeatingCatalog ∧
      (run repeatingCatalog .standard repeatingSteps).notices =
        [.ofDuplicate "-l" 3, .ofConflict "-l" "-l" 4] ∧
      ¬ ∀ w, Reached repeatingCatalog .standard w → ∀ notice ∈ w.notices, ∀ flag keeper id,
        notice = .ofConflict flag keeper id → flag ≠ keeper := by
  have hload : Catalog.load Pattern.search repeatingText = .ok repeatingCatalog :=
    load_eq_ok (by decide +kernel) (by decide +kernel)
  have hnotices : (run repeatingCatalog .standard repeatingSteps).notices =
      [.ofDuplicate "-l" 3, .ofConflict "-l" "-l" 4] := by decide +kernel
  refine ⟨hload, hnotices, fun hall => ?_⟩
  have hreached := reached_run repeatingCatalog .standard repeatingSteps
  exact hall _ hreached (.ofConflict "-l" "-l" 4) (hnotices ▸ by simp) "-l" "-l" 4 rfl rfl

end Workspace

end ShellComposer
