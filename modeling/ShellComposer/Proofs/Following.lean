import Mathlib.Data.List.Induction
import ShellComposer.Proofs.Ending
import ShellComposer.Proofs.Loaded

/-!
# Blocks known from answers

A caller can keep a list of the blocks that are there by going by the answers: a creation that
succeeds answers the block it made, a deletion that succeeds answers the blocks it deleted, and after
a fault the list stays as it is.  But blocks are made and deleted before the reaction that follows,
and a reaction may run out of cycles; then the change answers a fault although it has been made.  So
the list is right as long as no creation and no deletion is cut short in this way.

Main results:

- Structure `Followed` and definition `followed`: a run of changes, and the list of its caller.
- Theorems `contains_create`, `contains_remove`, `contains_edit`: what changes do to the blocks that
  are there, whatever they answer.
- Theorem `knows_after_iff`: one change leaves the list right exactly when it is not cut short.
- Theorem `known_ids_iff`: so does a run of changes.
- Theorem `known_ids_of_unset`: without a bound on reactions no change is cut short.
-/

namespace ShellComposer

open BlockGraph Catalog

/-! ## Going by the answers -/

/-- The blocks that a caller knows of after an answer: what a creation made is added, and what a
deletion deleted is left out. -/
def Mutation.follow (known : List BlockId) : Mutation → Except Fault (List BlockId) → List BlockId
  | create _, .ok made => made ++ known
  | remove _, .ok deleted => known.filter fun id => !deleted.contains id
  | _, _ => known

/-- Whether a change may make or delete blocks. -/
def Mutation.isCreateOrRemove : Mutation → Bool
  | create _ => true
  | remove _ => true
  | _ => false

namespace Workspace

/-- A workspace, and the blocks that its caller knows of. -/
structure Followed where
  workspace : Workspace
  known : List BlockId

/-- Make a change and go by its answer. -/
def Followed.after (state : Followed) (mutation : Mutation) : Followed where
  workspace := (mutation.answer state.workspace).workspace
  known := mutation.follow state.known (mutation.answer state.workspace).result

/-- A run of changes, each of which may succeed or fail; at first there is the script. -/
def followed (catalog : Catalog) (settings : Settings) (mutations : List Mutation) : Followed :=
  mutations.foldl Followed.after ⟨.new catalog settings, [root]⟩

/-- The blocks that the caller knows of are those that are there. -/
def Followed.Knows (state : Followed) : Prop :=
  ∀ id, state.workspace.graph.contains id = true ↔ id ∈ state.known

/-- A change makes or deletes blocks, but answers that its reaction ran out of cycles. -/
def CutShort (w : Workspace) (mutation : Mutation) : Prop :=
  mutation.isCreateOrRemove = true ∧
    ∃ bound, (mutation.answer w).result = .error (.unsettled bound)

variable {catalog : Catalog} {settings : Settings} {w : Workspace} {id : BlockId}
variable {kind : BlockKind} {definition : Definition}

/-- The workspace that is followed is the one that the changes lead to. -/
theorem followed_workspace (catalog : Catalog) (settings : Settings) (mutations : List Mutation) :
    (followed catalog settings mutations).workspace = run catalog settings mutations := by
  have hfold : ∀ state : Followed, (mutations.foldl Followed.after state).workspace =
      mutations.foldl (fun w mutation => (mutation.answer w).workspace) state.workspace := by
    induction mutations with
    | nil => exact fun _ => rfl
    | cons mutation rest ih => exact fun state => ih (state.after mutation)
  exact hfold _

/-- One more change leads one step further. -/
theorem followed_append (catalog : Catalog) (settings : Settings) (mutations : List Mutation)
    (mutation : Mutation) : followed catalog settings (mutations ++ [mutation]) =
      (followed catalog settings mutations).after mutation := by
  rw [followed, List.foldl_append]
  rfl

/-! ## What changes do to the blocks that are there -/

/-- A reaction succeeds or runs out of cycles. -/
theorem react_result_cases (hsound : w.graph.Sound) :
    w.react.result = .ok () ∨ w.react.result = .error (.unsettled w.cycleBound) := by
  rcases react_exits hsound with ⟨-, -, -, ⟨-, hok⟩ | hcut⟩
  · exact .inl hok
  · exact .inr hcut

/-- A reaction makes and deletes no blocks. -/
theorem contains_react (hsound : w.graph.Sound) (id : BlockId) :
    w.react.workspace.graph.contains id = w.graph.contains id :=
  contains_congr ((sameFrame_react hsound).retains.shape_eq id)

/-- The creation of a known block makes it, whatever it answers. -/
theorem contains_create (h : w.Tended) (hknown : w.catalog.definition? kind = some definition)
    (hscript : definition ≠ .script) (id : BlockId) :
    (w.create kind).workspace.graph.contains id = true ↔
      id = w.graph.nextId ∨ w.graph.contains id = true := by
  have hplaced := (Change.placed hknown hscript).tended h
  have hget : (w.place kind definition.template).2.graph.get? id =
      if id = w.graph.nextId
      then some ⟨kind, definition.template.fields, definition.template.slots, false⟩
      else w.graph.get? id := get?_insert w.graph kind _ _ id
  rw [create_of_known hknown hscript, Answer.map, contains_react hplaced.sound, contains_iff, hget,
    contains_iff]
  by_cases hnew : id = w.graph.nextId
  · simp [hnew]
  · simp [hnew]

/-- A deletion that the graph does not refuse deletes its blocks, whatever it answers. -/
theorem contains_remove {doomed : List BlockId} {g : BlockGraph} (h : w.Tended)
    (hremove : w.graph.remove id = .ok (doomed, g)) (other : BlockId) :
    (w.remove id).workspace.graph.contains other = true ↔
      w.graph.contains other = true ∧ other ∉ doomed := by
  have hforgotten := (Change.removed hremove).tended h
  have hget := get?_remove hremove other
  have hanswer : w.remove id = (w.forget g doomed).react.map fun _ => doomed := by
    rw [remove, hremove]
  rw [hanswer, Answer.map, contains_react hforgotten.sound, contains_iff, forget, hget, contains_iff]
  by_cases hgone : other ∈ doomed
  · simp [hgone]
  · simp [hgone]

/-- Other changes make and delete no blocks, whatever they answer. -/
theorem contains_edit (h : w.Tended) {mutation : Mutation}
    (hother : mutation.isCreateOrRemove = false) (id : BlockId) :
    (mutation.answer w).workspace.graph.contains id = w.graph.contains id := by
  have hedit : ∀ {change : Except Fault BlockGraph} (call : GraphCall),
      call.run w.graph = change → (∀ g, change = .ok g → Retains w.graph g) →
        (w.edit change).workspace.graph.contains id = w.graph.contains id := by
    intro change call hcall hkept
    cases hchange : change with
    | error fault => rfl
    | ok g =>
      have hretains := hkept g hchange
      have hstart : ({ w with graph := g } : Workspace).Tended :=
        (Change.edited (hcall.trans hchange) hretains).tended h
      exact (contains_react hstart.sound id).trans (contains_congr (hretains.shape_eq id))
  cases mutation with
  | create kind => exact absurd hother (by simp [Mutation.isCreateOrRemove])
  | setField target name value =>
    exact hedit (.setField target name value) rfl fun _ hset => retains_setField hset
  | attach parent slot child =>
    exact hedit (.attach parent slot child) rfl
      fun _ hattach => retains_of_blocks (blocks_attach hattach)
  | insertAfter previous child =>
    exact hedit (.insertAfter previous child) rfl
      fun _ hinsert => retains_of_blocks (blocks_insertAfter hinsert)
  | detach target heal =>
    exact hedit (.detach target heal) rfl
      fun _ hdetach => retains_of_blocks (blocks_detach hdetach)
  | remove target => exact absurd hother (by simp [Mutation.isCreateOrRemove])
  | react => exact contains_react h.sound id

/-! ## One change -/

section OneChange

variable {state : Followed} {mutation : Mutation}

/-- After a change that is refused and does nothing, the list stays right. -/
theorem Followed.Knows.after_of_refused {fault : Fault} (hknows : state.Knows)
    (hanswer : mutation.answer state.workspace = ⟨.error fault, state.workspace⟩) :
    (state.after mutation).Knows := by
  have hknown : mutation.follow state.known (.error fault) = state.known := by
    cases mutation <;> rfl
  unfold Followed.Knows Followed.after
  rw [hanswer, hknown]
  exact hknows

/-- Only a reaction that runs out of cycles cuts a change short. -/
theorem not_cutShort_of_refused {fault : Fault} (hfault : fault.report.phase ≠ .reaction)
    (hanswer : mutation.answer w = ⟨.error fault, w⟩) : ¬ CutShort w mutation := by
  rintro ⟨-, bound, hcut⟩
  rw [hanswer] at hcut
  obtain rfl := Except.error.inj hcut
  exact hfault rfl

/-- A creation leaves the list right exactly when it is not cut short. -/
theorem knows_after_create_iff (h : state.workspace.Tended) (hknows : state.Knows)
    (kind : BlockKind) :
    (state.after (.create kind)).Knows ↔ ¬ CutShort state.workspace (.create kind) := by
  rcases state with ⟨w, known⟩
  rcases w.create_cases kind with ⟨fault, hphase, hanswer⟩ | ⟨definition, hknown, hscript, hanswer⟩
  · exact iff_of_true (hknows.after_of_refused hanswer)
      (not_cutShort_of_refused (by rw [hphase]; decide) hanswer)
  · have hthere := contains_create h hknown hscript
    have hresult : ((Mutation.create kind).answer w).result =
        (w.place kind definition.template).2.react.result.map fun _ => [w.graph.nextId] := by
      rw [hanswer]
      rfl
    rcases react_result_cases ((Change.placed hknown hscript).tended h).sound with hok | hcut
    · rw [hok] at hresult
      refine iff_of_true (fun id => ?_) ?_
      · refine (hthere id).trans ?_
        rw [Followed.after, hresult, hknows id]
        exact List.mem_cons.symm
      · rintro ⟨-, bound, hcut⟩
        rw [hresult] at hcut
        exact absurd hcut (by simp [Except.map])
    · rw [hcut] at hresult
      refine iff_of_false (fun hright => ?_) (not_not_intro ⟨rfl, _, hresult⟩)
      -- The new block is there, but it was not there before, so it is not on the list.
      have hlisted := (hright w.graph.nextId).1 ((hthere _).2 (.inl rfl))
      rw [Followed.after, hresult] at hlisted
      have hbefore := (hknows w.graph.nextId).2 hlisted
      exact Bool.false_ne_true (h.sound.not_contains_nextId.symm.trans hbefore)

/-- So does a deletion. -/
theorem knows_after_remove_iff (h : state.workspace.Tended) (hknows : state.Knows)
    (id : BlockId) :
    (state.after (.remove id)).Knows ↔ ¬ CutShort state.workspace (.remove id) := by
  rcases state with ⟨w, known⟩
  cases hremove : w.graph.remove id with
  | error fault =>
    have hanswer : (Mutation.remove id).answer w = ⟨.error fault, w⟩ := by
      rw [Mutation.answer, remove, hremove]
    have hphase := w.graph.graphFaults_remove id fault hremove
    exact iff_of_true (hknows.after_of_refused hanswer)
      (not_cutShort_of_refused (by rw [hphase]; decide) hanswer)
  | ok removed =>
    rcases removed with ⟨doomed, g⟩
    have hthere := contains_remove h hremove
    have hresult : ((Mutation.remove id).answer w).result =
        (w.forget g doomed).react.result.map fun _ => doomed := by
      rw [Mutation.answer, remove, hremove]
      rfl
    rcases react_result_cases ((Change.removed hremove).tended h).sound with hok | hcut
    · rw [hok] at hresult
      refine iff_of_true (fun other => ?_) ?_
      · refine (hthere other).trans ?_
        rw [Followed.after, hresult, hknows other]
        simp [Except.map, Mutation.follow]
      · rintro ⟨-, bound, hcut⟩
        rw [hresult] at hcut
        exact absurd hcut (by simp [Except.map])
    · rw [hcut] at hresult
      refine iff_of_false (fun hright => ?_) (not_not_intro ⟨rfl, _, hresult⟩)
      -- The block itself is not there any more, but it was, so it is still on the list.
      rcases remove_eq_ok_iff.1 hremove with ⟨-, hbefore, hdoomed, -⟩
      have hgone : id ∈ doomed := hdoomed ▸ mem_rows_of_mem List.mem_cons_self
      have hlisted := (hknows id).1 hbefore
      have hright' := (hright id).2 (by rw [Followed.after, hresult]; exact hlisted)
      exact ((hthere id).1 hright').2 hgone

/-- One change leaves the list right exactly when it is not cut short. -/
theorem knows_after_iff (h : state.workspace.Tended) (hknows : state.Knows)
    (mutation : Mutation) :
    (state.after mutation).Knows ↔ ¬ CutShort state.workspace mutation := by
  have hedit : mutation.isCreateOrRemove = false →
      ((state.after mutation).Knows ↔ ¬ CutShort state.workspace mutation) := by
    intro hother
    have hknown : ∀ result, mutation.follow state.known result = state.known := by
      intro result
      cases mutation <;> first | rfl | exact absurd hother (by simp [Mutation.isCreateOrRemove])
    refine iff_of_true (fun id => ?_) fun hcut => ?_
    · unfold Followed.after
      rw [hknown, contains_edit h hother]
      exact hknows id
    · exact Bool.false_ne_true (hother.symm.trans hcut.1)
  cases mutation with
  | create kind => exact knows_after_create_iff h hknows kind
  | remove id => exact knows_after_remove_iff h hknows id
  | _ => exact hedit rfl

end OneChange

/-! ## Runs of changes -/

/-- Of a new workspace every id is known. -/
theorem knows_new (catalog : Catalog) (settings : Settings) :
    (followed catalog settings []).Knows := by
  intro id
  rw [followed, List.foldl_nil, List.mem_singleton]
  constructor
  · intro hid
    rcases contains_iff.1 hid with ⟨block, hblock⟩
    exact (get?_new_eq_some hblock).1
  · rintro rfl
    rfl

/-- After one more change the ids are known unless the change is cut short. -/
theorem knows_append_iff {earlier : List Mutation}
    (hknows : (followed catalog settings earlier).Knows) (mutation : Mutation) :
    (followed catalog settings (earlier ++ [mutation])).Knows ↔
      ¬ CutShort (run catalog settings earlier) mutation := by
  have htended := (tended_run catalog settings earlier).1
  rw [← followed_workspace] at htended
  rw [followed_append, ← followed_workspace]
  exact knows_after_iff htended hknows mutation

/-- If no creation and no deletion of a run is cut short, the list is right all the time. -/
theorem knows_of_uncut {mutations : List Mutation}
    (huncut : ∀ earlier mutation, earlier ++ [mutation] <+: mutations →
      ¬ CutShort (run catalog settings earlier) mutation)
    (earlier : List Mutation) (hearlier : earlier <+: mutations) :
    (followed catalog settings earlier).Knows := by
  induction earlier using List.reverseRecOn with
  | nil => exact knows_new catalog settings
  | append_singleton before mutation ih =>
    have hbefore := ih ((List.prefix_append before [mutation]).trans hearlier)
    exact (knows_append_iff hbefore mutation).2 (huncut before mutation hearlier)

/-- Without a bound on reactions no change is cut short. -/
theorem not_cutShort_of_unset (h : Valid catalog settings w)
    (hunset : settings.maxReactionCycles = none) (mutation : Mutation) :
    ¬ CutShort w mutation := by
  rintro ⟨-, bound, hcut⟩
  have hphase := phase_of_fault (fun start hchange => ?_) hcut
  · exact absurd hphase (by simp [Fault.report, Report.make])
  · have hsettings : start.settings.maxReactionCycles = none := by
      rw [hchange.setting.2, h.settings_eq, hunset]
    rcases react_settles (hchange.tended h.tended).sound hsettings with ⟨_, _, -, -, hends⟩
    rw [hends]

/-- So without a bound the blocks that are there are always those known from the answers. -/
theorem known_ids_of_unset (catalog : Catalog) (hunset : settings.maxReactionCycles = none)
    (mutations : List Mutation) (id : BlockId) :
    (run catalog settings mutations).graph.contains id = true ↔
      id ∈ (followed catalog settings mutations).known := by
  rw [← followed_workspace]
  refine knows_of_uncut (fun earlier mutation _ => ?_) mutations List.prefix_rfl id
  exact not_cutShort_of_unset (valid_run catalog settings earlier) hunset mutation

/-- At every point of a run the blocks that are there are those known from the answers, exactly when
no creation and no deletion of the run is cut short. -/
theorem known_ids_iff (catalog : Catalog) (settings : Settings) (mutations : List Mutation) :
    (∀ earlier, earlier <+: mutations → ∀ id,
        (run catalog settings earlier).graph.contains id = true ↔
          id ∈ (followed catalog settings earlier).known) ↔
      ∀ earlier mutation, earlier ++ [mutation] <+: mutations →
        ¬ CutShort (run catalog settings earlier) mutation := by
  have hread : ∀ earlier, (followed catalog settings earlier).Knows ↔ ∀ id,
      (run catalog settings earlier).graph.contains id = true ↔
        id ∈ (followed catalog settings earlier).known := by
    intro earlier
    rw [← followed_workspace]
    rfl
  simp only [← hread]
  refine ⟨fun hright earlier mutation hlater => ?_, knows_of_uncut⟩
  have hbefore := hright earlier ((List.prefix_append earlier [mutation]).trans hlater)
  exact (knows_append_iff hbefore mutation).1 (hright _ hlater)

/-- A small catalog: a command that lists files, with one option. -/
def flaggingText : String :=
  "\x7b\"commands\": [\x7b\"shellCommand\": \"ls\", \"options\": [\x7b\"flag\": \"-l\"\x7d]\x7d]\x7d"

@[inherit_doc flaggingText]
def flagging : Definitions where
  commands := [⟨none, "ls", "", "", "", "", [⟨"-l", none, "", none⟩], none, [], [], none, [], none⟩]
  operators := []
  controls := []
  categories := []

@[inherit_doc flaggingText]
def flaggingCatalog : Catalog :=
  .compile Pattern.search flagging.normalize

/-- Settings under which a reaction that repairs anything runs out of cycles. -/
def hurriedText : String :=
  "\x7b\"maxReactionCycles\": 0\x7d"

@[inherit_doc hurriedText]
def hurried : Settings :=
  { Settings.standard with maxReactionCycles := some 0 }

/-- Give a command the same option four times, and plug it into the script. -/
def flaggingSteps : List Mutation :=
  [.create (.command "ls"), .create (.option "ls"), .create (.option "ls"), .create (.option "ls"),
    .create (.option "ls"), .insertAfter 2 3, .insertAfter 3 4, .insertAfter 4 5,
    .attach 1 optionsSlot 2, .attach root stackSlot 1]

/-- Then make a block, and delete an option that has been taken off. -/
def flaggingOn : List Mutation :=
  flaggingSteps ++ [.create (.command "ls"), .remove 3]

/-- The last creation and the deletion are cut short: the block made is not known, and the block
deleted is still thought to be there. -/
theorem flagging_cutShort :
    Catalog.load Pattern.search flaggingText = .ok flaggingCatalog ∧
      Settings.ofText hurriedText = .ok hurried ∧
      (run flaggingCatalog hurried flaggingOn).graph.ids = [0, 1, 2, 4, 5, 6] ∧
      (followed flaggingCatalog hurried flaggingOn).known = [5, 4, 3, 2, 1, 0] ∧
      ¬ ∀ id, (run flaggingCatalog hurried flaggingOn).graph.contains id = true ↔
        id ∈ (followed flaggingCatalog hurried flaggingOn).known := by
  have hload : Catalog.load Pattern.search flaggingText = .ok flaggingCatalog :=
    load_eq_ok (by decide +kernel) (by decide +kernel)
  have hids : (run flaggingCatalog hurried flaggingOn).graph.ids = [0, 1, 2, 4, 5, 6] := by
    decide +kernel
  have hknown : (followed flaggingCatalog hurried flaggingOn).known = [5, 4, 3, 2, 1, 0] := by
    decide +kernel
  refine ⟨hload, by decide +kernel, hids, hknown, fun hright => ?_⟩
  have hlisted := hright 6
  rw [← mem_ids_iff, hids, hknown] at hlisted
  exact absurd hlisted (by decide)

end Workspace

end ShellComposer
