import ShellComposer.Block.InPlace
import ShellComposer.Proofs.Templated
import ShellComposer.Session

/-!
# What is refused changes nothing

A change that answers with a fault, other than that repairs did not settle, leaves everything as it
was: blocks, fields, links, enabled flags, meanings, violations, unread notices and the id for the
next block.  Edits look up blocks again after they have taken links away, so this is shown for the
edits done in place: on a sound graph nothing that is looked up late is ever missing, and they come
to the same as the edits that decide first.  The reactions that follow an edit fail in one way only.

Main results:

- Theorems `InPlace.on_attach`, `on_insertAfter`, `on_detach`, `on_remove`, `on_setField`: edits
  done in place come to the same as edits that decide first.
- Definition `Mutation.answerInPlace` and theorem `Mutation.answerInPlace_eq`: so do changes.
- Theorem `Workspace.answer_eq_of_fault`: a change that is refused leaves the workspace as it is.
- Inductive type `SessionCall` and theorem `refused_changes_nothing`: so does a call of a session.
-/

namespace ShellComposer

open BlockGraph Decimal Relation

variable {α β : Type} {g : BlockGraph} {id parent previous child place : BlockId}
variable {outlet : Outlet}

/-! ## Edits in place -/

namespace InPlace

/-- What an edit comes to that decides before it changes anything: what it makes of the graph, or a
fault and the graph as it was. -/
def decided (g : BlockGraph) : Except Fault (α × BlockGraph) → Except Fault α × BlockGraph
  | .ok (value, g') => (.ok value, g')
  | .error fault => (.error fault, g)

/-- What an edit without an answer comes to. -/
def decidedEdit (g : BlockGraph) (result : Except Fault BlockGraph) :
    Except Fault Unit × BlockGraph :=
  decided g (result.map fun g' => ((), g'))

@[simp] theorem decidedEdit_ok (g g' : BlockGraph) : decidedEdit g (.ok g') = (.ok (), g') :=
  rfl

/-- Of two edits in a row, the second is done if the first succeeds. -/
theorem on_bind (edit : InPlace α) (more : α → InPlace β) (g : BlockGraph) :
    on g (edit >>= more) = match on g edit with
      | (.ok value, g') => on g' (more value)
      | (.error fault, g') => (.error fault, g') := by
  unfold on
  rw [Fault.run_bind]
  rcases edit.run g with ⟨_ | _, _⟩ <;> rfl

/-- Giving a value changes no graph. -/
@[simp] theorem on_pure (value : α) : on g (pure value) = (.ok value, g) :=
  rfl

@[simp] theorem on_get : on g get = (.ok g, g) :=
  rfl

@[simp] theorem on_modify (f : BlockGraph → BlockGraph) : on g (modify f) = (.ok (), f g) :=
  rfl

/-- Asking a question changes no graph, whatever the answer. -/
@[simp] theorem on_look (question : BlockGraph → Except Fault α) :
    on g (look question) = (question g, g) :=
  rfl

/-- Looking at the graph changes nothing, so what is decided later is decided on the same graph. -/
theorem on_look_bind {question : BlockGraph → Except Fault α} {more : α → InPlace Unit}
    {whole : α → Except Fault BlockGraph}
    (hmore : ∀ value, question g = .ok value → on g (more value) = decidedEdit g (whole value)) :
    on g (look question >>= more) = decidedEdit g (question g >>= whole) := by
  rw [on_bind, on_look]
  cases hquestion : question g with
  | error fault => rfl
  | ok value => exact hmore value hquestion

/-- A block that is there can be located. -/
theorem on_locate (hid : g.contains id = true) : on g (locate id) = (.ok (), g) := by
  rcases contains_iff.1 hid with ⟨block, hblock⟩
  unfold locate
  rw [on_bind, on_look, block_eq_ok_iff.2 hblock]
  rfl

/-- Setting a field in place decides like the edit, and a refusal leaves the graph. -/
theorem on_setField (g : BlockGraph) (id : BlockId) (name value : String) :
    on g (setField id name value) = decidedEdit g (g.setField id name value) := by
  unfold setField BlockGraph.setField
  exact on_look_bind fun _ _ => rfl

/-- A block is taken off step by step as it is at once. -/
theorem on_detach (g : BlockGraph) (id : BlockId) (heal : Bool) :
    on g (detach id heal) = decidedEdit g (g.detach id heal) := by
  cases hmovable : g.ensureMovable id with
  | error fault =>
    unfold detach BlockGraph.detach
    rw [on_bind, on_look, hmovable]
    rfl
  | ok done =>
    have hid := (ensureMovable_eq_ok_iff.1 hmovable).2
    have hwhole : g.detach id heal = .ok (if heal then g.unplug id else g.cut id) := by
      unfold BlockGraph.detach
      rw [hmovable]
      rfl
    rw [hwhole, decidedEdit_ok]
    unfold detach unplug cut
    rw [on_bind, on_look, hmovable]
    simp only [on_bind, on_locate hid, on_get]
    cases hparent : g.parent id with
    | none => cases heal <;> simp [dropIncoming_eq_self hparent]
    | some held =>
      rcases held with ⟨source, outlet⟩
      simp only [on_bind, on_modify]
      cases heal with
      | false => rfl
      | true =>
        simp only [if_true, on_bind, on_get]
        cases (g.dropIncoming id).next id with
        | none => rfl
        | some after => simp only [on_bind, on_modify]

/-- The end of a stack that is put in place is a block of the graph. -/
theorem contains_stackTail (h : g.WellLinked) (hchild : g.contains child = true) :
    ((g.dropOutlet place outlet).addLink ⟨place, outlet, child⟩).contains
      (((g.dropOutlet place outlet).addLink ⟨place, outlet, child⟩).stackTail child) = true := by
  unfold stackTail chainFrom
  generalize hwalk : walk _ _ child = passed
  cases hlast : passed.getLast? with
  | none => exact hchild
  | some tail =>
    have hmem : tail ∈ passed := List.mem_of_getLast? hlast
    rw [← hwalk] at hmem
    rw [Option.getD_some]
    rcases (mem_walk hmem).cases_tail with rfl | ⟨before, -, hstep⟩
    · exact hchild
    · rcases mem_links_addLink.1 (mem_links_of_target? hstep) with hnew | hold
      · obtain rfl : tail = child := congrArg Link.target hnew
        exact hchild
      · exact (h.ends_present _ (mem_links_dropOutlet.1 hold).1).2

/-- A stack is put in step by step as it is at once; nothing that is looked up is missing. -/
theorem on_plug (h : g.WellLinked) (hplace : g.contains place = true)
    (hchild : g.contains child = true) :
    on g (plug place outlet child) = (.ok (), g.plug place outlet child) := by
  unfold plug BlockGraph.plug
  simp only [on_bind, on_locate hplace, on_locate hchild, on_get, on_modify]
  cases g.target? place outlet with
  | none => rfl
  | some displaced =>
    simp only [on_bind, on_get, on_locate (contains_stackTail h hchild), on_modify]

/-- The steps of both edits that change links. -/
theorem on_move (h : g.Sound) (hne : child ≠ root) (hchild : g.contains child = true)
    (hplace : g.contains place = true) :
    on g (do detach child false; plug place outlet child) =
      (.ok (), (g.cut child).plug place outlet child) := by
  have hcut : g.detach child false = .ok (g.cut child) := detach_eq_ok_iff.2 ⟨hne, hchild, rfl⟩
  rw [on_bind, on_detach, hcut, decidedEdit_ok]
  exact on_plug (h.dropIncoming child).toWellLinked hplace hchild

/-- Attaching in place decides like the edit, and a refusal leaves the graph. -/
theorem on_attach (h : g.Sound) (parent : BlockId) (slot : String) (child : BlockId) :
    on g (attach parent slot child) = decidedEdit g (g.attach parent slot child) := by
  refine on_look_bind fun _ hmovable => on_look_bind fun owner howner => ?_
  rcases ensureMovable_eq_ok_iff.1 hmovable with ⟨hne, hchild⟩
  have hparent : g.contains parent = true := contains_iff.2 ⟨owner, block_eq_ok_iff.1 howner⟩
  cases owner.slot? slot with
  | none => rfl
  | some accepted =>
    exact on_look_bind fun _ _ => on_look_bind fun _ _ => on_move h hne hchild hparent

/-- Inserting in place decides like the edit, and a refusal leaves the graph. -/
theorem on_insertAfter (h : g.Sound) (previous child : BlockId) :
    on g (insertAfter previous child) = decidedEdit g (g.insertAfter previous child) := by
  refine on_look_bind fun _ hmovable => on_look_bind fun before hbefore => ?_
  rcases ensureMovable_eq_ok_iff.1 hmovable with ⟨hne, hchild⟩
  have hprevious : g.contains previous = true :=
    contains_iff.2 ⟨before, block_eq_ok_iff.1 hbefore⟩
  cases before.kind.tag? with
  | none => rfl
  | some tag => exact on_look_bind fun _ _ => on_look_bind fun _ _ => on_move h hne hchild hprevious

/-- Removing in place decides like the edit, and a refusal leaves the graph. -/
theorem on_remove (g : BlockGraph) (id : BlockId) :
    on g (remove id) = decided g (g.remove id) := by
  unfold remove BlockGraph.remove
  rw [on_bind, on_detach]
  cases hdetach : g.detach id true with
  | error fault => rfl
  | ok healed =>
    rcases detach_eq_ok_iff.1 hdetach with ⟨-, hid, hhealed⟩
    have hid' : healed.contains id = true := by
      rw [contains, ← hhealed, if_pos rfl, blocks_unplug]
      exact hid
    simp only [decidedEdit_ok, on_bind, on_locate hid', on_modify, on_get, on_pure]
    rfl

end InPlace

/-! ## Changes done in place -/

namespace Workspace

/-- React to a graph that was edited in place, or report why the edit failed.  The graph is then as
far as the edit got. -/
def editInPlace (w : Workspace) (change : InPlace Unit) : Answer Unit :=
  match InPlace.on w.graph change with
  | (.ok (), graph) => { w with graph }.react
  | (.error fault, graph) => ⟨.error fault, { w with graph }⟩

/-- Delete a block in place. -/
def removeInPlace (w : Workspace) (id : BlockId) : Answer (List BlockId) :=
  match InPlace.on w.graph (.remove id) with
  | (.ok removed, graph) => (w.forget graph removed).react.map fun _ => removed
  | (.error fault, graph) => ⟨.error fault, { w with graph }⟩

end Workspace

/-- What a change answers when the graph is edited in place. -/
def Mutation.answerInPlace (w : Workspace) : Mutation → Answer (List BlockId)
  | create kind => (w.create kind).map fun id => [id]
  | setField id name value => (w.editInPlace (.setField id name value)).map fun _ => []
  | attach parent slot child => (w.editInPlace (.attach parent slot child)).map fun _ => []
  | insertAfter previous child => (w.editInPlace (.insertAfter previous child)).map fun _ => []
  | detach id heal => (w.editInPlace (.detach id heal)).map fun _ => []
  | remove id => w.removeInPlace id
  | react => w.react.map fun _ => []

namespace Workspace

variable {w : Workspace}

/-- A workspace answers the same whether its graph is edited in place or not. -/
theorem editInPlace_eq {change : InPlace Unit} {result : Except Fault BlockGraph}
    (h : InPlace.on w.graph change = InPlace.decidedEdit w.graph result) :
    w.editInPlace change = w.edit result := by
  unfold editInPlace edit
  rw [h]
  cases result <;> rfl

/-- So it does when blocks are removed in place. -/
theorem removeInPlace_eq (w : Workspace) (id : BlockId) : w.removeInPlace id = w.remove id := by
  unfold removeInPlace remove
  rw [InPlace.on_remove]
  cases w.graph.remove id <;> rfl

end Workspace

/-- On a sound graph a change answers the same, and leaves the same, when its edit is done in
place. -/
theorem Mutation.answerInPlace_eq {w : Workspace} (h : w.graph.Sound) (mutation : Mutation) :
    mutation.answerInPlace w = mutation.answer w := by
  cases mutation with
  | create kind => rfl
  | setField id name value =>
    rw [answerInPlace, answer, Workspace.setField,
      Workspace.editInPlace_eq (InPlace.on_setField w.graph id name value)]
  | attach parent slot child =>
    rw [answerInPlace, answer, Workspace.attach,
      Workspace.editInPlace_eq (InPlace.on_attach h parent slot child)]
  | insertAfter previous child =>
    rw [answerInPlace, answer, Workspace.insertAfter,
      Workspace.editInPlace_eq (InPlace.on_insertAfter h previous child)]
  | detach id heal =>
    rw [answerInPlace, answer, Workspace.detach,
      Workspace.editInPlace_eq (InPlace.on_detach w.graph id heal)]
  | remove id => exact w.removeInPlace_eq id
  | react => rfl

/-! ## Faults of changes -/

/-- Only one fault has the code of reactions. -/
theorem Fault.code_eq_reaction_iff {fault : Fault} :
    fault.report.code = "R001" ↔ ∃ bound, fault = .unsettled bound := by
  cases fault <;> simp [Fault.report, Report.make]

namespace Workspace

variable {w : Workspace} {mutation : Mutation} {fault : Fault}

/-- Answering a change keeps the workspace tended. -/
theorem tended_answer (h : w.Tended) (mutation : Mutation) :
    (mutation.answer w).workspace.Tended := by
  rcases w.answer_cases mutation with ⟨fault, hrun⟩ | ⟨w', ids, hchange, hrun⟩
  · rw [hrun]
    exact h
  · rw [hrun]
    exact (hchange.tended h).react.1

/-- A change that is refused leaves the workspace as it is. -/
theorem answer_eq_of_fault (h : w.Tended) (hfault : (mutation.answer w).result = .error fault)
    (hcode : fault.report.code ≠ "R001") : mutation.answer w = ⟨.error fault, w⟩ := by
  rcases w.answer_cases mutation with ⟨fault', hrun⟩ | ⟨w', ids, hchange, hrun⟩
  · rw [hrun] at hfault
    obtain rfl : fault' = fault := Except.error.inj hfault
    exact hrun
  · -- a reaction either succeeds or does not settle
    exfalso
    rw [hrun] at hfault
    rcases react_exits (hchange.tended h).sound with ⟨last, -, -, ⟨-, hok⟩ | hfailed⟩
    · rw [Answer.map, hok] at hfault
      simp [Except.map] at hfault
    · rw [Answer.map, hfailed] at hfault
      obtain rfl := Except.error.inj hfault
      exact hcode (Fault.code_eq_reaction_iff.2 ⟨_, rfl⟩)

end Workspace

/-! ## Sessions -/

/-- A call that changes a session. -/
inductive SessionCall where
  | create (kindText : String)
  | setField (id : Double) (name value : String)
  | attach (parent : Double) (slot : String) (child : Double)
  | insertAfter (previous child : Double)
  | detach (id : Double) (heal : Bool)
  | remove (id : Double)

/-- The change to the workspace that a call asks for, unless its ids or its kind are wrong. -/
def SessionCall.mutation? : SessionCall → Option Mutation
  | create kindText =>
    ((BlockKind.ofText kindText).mapError Fault.malformedKind).toOption.map .create
  | setField id name value => (blockIdOf id).toOption.map fun id => .setField id name value
  | attach parent slot child =>
    (Session.bothIds parent child).toOption.map fun ids => .attach ids.1 slot ids.2
  | insertAfter previous child =>
    (Session.bothIds previous child).toOption.map fun ids => .insertAfter ids.1 ids.2
  | detach id heal => (blockIdOf id).toOption.map fun id => .detach id heal
  | remove id => (blockIdOf id).toOption.map .remove

/-- What comes of a call, and the session after it. -/
def SessionCall.apply (s : Session) : SessionCall → ChangeResult × Session
  | create kindText => s.create kindText
  | setField id name value => s.setField id name value
  | attach parent slot child => s.attach parent slot child
  | insertAfter previous child => s.insertAfter previous child
  | detach id heal => s.detach id heal
  | remove id => s.remove id

namespace Session

variable {s s' : Session}

/-- A session after some calls, each of which may succeed or fail. -/
def afterCalls (s : Session) (calls : List SessionCall) : Session :=
  calls.foldl (fun s call => (call.apply s).2) s

/-- What is given is wrong and nothing is done, or it is a change to the workspace. -/
theorem change_cases {α : Type} (s : Session) (given : Except Fault α)
    (apply : α → Answer (List BlockId)) (mutation : α → Mutation)
    (happly : ∀ value, apply value = (mutation value).answer s.workspace) :
    (given.toOption.map mutation = none ∧ ∃ reports, s.change given apply = (.failure reports, s)) ∨
      ∃ change, given.toOption.map mutation = some change ∧
        s.change given apply = settle (change.answer s.workspace) := by
  unfold change
  cases given with
  | error fault => exact .inl ⟨rfl, _, rfl⟩
  | ok value => exact .inr ⟨mutation value, rfl, by rw [← happly]⟩

/-- A call is wrong in itself and nothing is done, or it is a change to the workspace. -/
theorem mutation_cases (s : Session) (call : SessionCall) :
    (call.mutation? = none ∧ ∃ reports, call.apply s = (.failure reports, s)) ∨
      ∃ mutation, call.mutation? = some mutation ∧
        call.apply s = settle (mutation.answer s.workspace) := by
  cases call with
  | create kindText => exact s.change_cases _ _ _ fun _ => rfl
  | setField id name value => exact s.change_cases _ _ _ fun _ => rfl
  | attach parent slot child => exact s.change_cases _ _ _ fun _ => rfl
  | insertAfter previous child => exact s.change_cases _ _ _ fun _ => rfl
  | detach id heal => exact s.change_cases _ _ _ fun _ => rfl
  | remove id => exact s.change_cases _ _ _ fun _ => rfl

/-- All that a call can do. -/
theorem apply_cases (s : Session) (call : SessionCall) :
    (∃ reports, call.apply s = (.failure reports, s)) ∨
      ∃ mutation : Mutation, call.apply s = settle (mutation.answer s.workspace) :=
  (s.mutation_cases call).imp And.right fun ⟨mutation, _, hrun⟩ => ⟨mutation, hrun⟩

/-- The session after a change has the workspace after the change, apart from notices that were
handed out. -/
theorem workspace_settle (answer : Answer (List BlockId)) :
    ∃ notices, (settle answer).2.workspace = { answer.workspace with notices } := by
  unfold settle
  cases answer.result with
  | error fault => exact ⟨answer.workspace.notices, rfl⟩
  | ok blocks => exact ⟨[], rfl⟩

/-- What a reaction starts from is there after a call if it was there before. -/
theorem tended_apply (h : s.workspace.Tended) (call : SessionCall) :
    (call.apply s).2.workspace.Tended := by
  rcases s.apply_cases call with ⟨reports, hrun⟩ | ⟨mutation, hrun⟩
  · rw [hrun]
    exact h
  · rcases workspace_settle (mutation.answer s.workspace) with ⟨notices, hsettle⟩
    rw [hrun, hsettle]
    have hafter := Workspace.tended_answer h mutation
    exact ⟨hafter.sound, hafter.cleared⟩

/-- Any calls keep the workspace of a session tended. -/
theorem tended_afterCalls (h : s.workspace.Tended) (calls : List SessionCall) :
    (s.afterCalls calls).workspace.Tended := by
  unfold afterCalls
  induction calls generalizing s with
  | nil => exact h
  | cons call rest ih => exact ih (tended_apply h call)

/-- A session starts with the script alone. -/
theorem new_of_open {engine : Pattern.Engine} {catalog settings : Option String}
    (hopen : open? engine catalog settings = .ok s) :
    ∃ loaded chosen, s.workspace = .new loaded chosen := by
  unfold open? at hopen
  cases hcatalog : (Catalog.loadOrOffline engine catalog).mapError reportsOf with
  | error reports => simp [hcatalog, bind, Except.bind] at hopen
  | ok loaded =>
    cases hsettings : settingsOf settings with
    | error reports => simp [hcatalog, hsettings, bind, Except.bind] at hopen
    | ok chosen =>
      simp only [hcatalog, hsettings, bind, Except.bind, pure, Except.pure,
        Except.ok.injEq] at hopen
      exact ⟨loaded, chosen, by rw [← hopen]⟩

/-- A session is opened with a tended workspace. -/
theorem tended_of_open {engine : Pattern.Engine} {catalog settings : Option String}
    (hopen : open? engine catalog settings = .ok s) : s.workspace.Tended := by
  rcases new_of_open hopen with ⟨loaded, chosen, hnew⟩
  rw [hnew]
  exact (Workspace.consistent_new loaded chosen).1

/-- A call that is refused leaves the session as it is. -/
theorem unchanged_of_failure {call : SessionCall} {reports : List Report}
    (h : s.workspace.Tended) (hfailed : (call.apply s).1 = .failure reports)
    (hcodes : ∀ report ∈ reports, report.code ≠ "R001") : (call.apply s).2 = s := by
  rcases s.apply_cases call with ⟨reports', hrun⟩ | ⟨mutation, hrun⟩
  · rw [hrun]
  · rw [hrun] at hfailed ⊢
    unfold settle at hfailed ⊢
    cases hresult : (mutation.answer s.workspace).result with
    | ok blocks => simp [hresult] at hfailed
    | error fault =>
      simp only [hresult, ChangeResult.failure.injEq] at hfailed ⊢
      subst hfailed
      rw [Workspace.answer_eq_of_fault h hresult (hcodes _ List.mem_cons_self)]

end Session

/-- Whatever changes came before, a change that answers with a fault other than that repairs did not
settle leaves the workspace as it is, also when its edit is done in place; and so does a call of a
session that answers with such reports. -/
theorem refused_changes_nothing :
    (∀ catalog settings w, Workspace.Reached catalog settings w →
      ∀ (mutation : Mutation) fault, (mutation.answerInPlace w).result = .error fault →
        fault.report.code ≠ "R001" →
          mutation.answer w = ⟨.error fault, w⟩ ∧ mutation.answerInPlace w = ⟨.error fault, w⟩) ∧
    ∀ engine catalog settings s calls (call : SessionCall) reports,
      Session.open? engine catalog settings = .ok s →
      (call.apply (s.afterCalls calls)).1 = .failure reports →
      (∀ report ∈ reports, report.code ≠ "R001") →
        (call.apply (s.afterCalls calls)).2 = s.afterCalls calls := by
  constructor
  · intro catalog settings w hreached mutation fault hfault hcode
    have htended := hreached.valid.tended
    rw [Mutation.answerInPlace_eq htended.sound] at hfault ⊢
    have hanswer := Workspace.answer_eq_of_fault htended hfault hcode
    exact ⟨hanswer, hanswer⟩
  · intro engine catalog settings s calls call reports hopen hfailed hcodes
    have htended := Session.tended_afterCalls (Session.tended_of_open hopen) calls
    exact Session.unchanged_of_failure htended hfailed hcodes

/-- A small catalog: a command that sorts one file, with options of which two pairs exclude each
other. -/
def sortingCatalog : Catalog :=
  .compile Pattern.search (Catalog.Definitions.normalize {
    commands := [⟨none, "sort", "", "", "", "",
      [⟨"-n", none, "", none⟩, ⟨"-h", none, "", none⟩, ⟨"-r", none, "", none⟩], none,
      [["-n", "-h"], ["-h", "-r"]],
      [⟨"file", "", "", "", .string, "", ⟨0, .limited 1⟩, []⟩], none, [], none⟩]
    operators := []
    controls := []
    categories := [] })

/-- Put one command behind another. -/
def sortingPair : List Mutation :=
  [.create (.command "sort"), .create (.command "sort"), .insertAfter 1 2]

/-- The first command cannot go behind the second, and no block has half a number; both leave
everything as it was. -/
theorem sortingPair_refuses :
    Mutation.answerInPlace (.run sortingCatalog .standard sortingPair) (.insertAfter 2 1) =
        ⟨.error (.insideItself 1), .run sortingCatalog .standard sortingPair⟩ ∧
      Session.open? Pattern.search none none = .ok ⟨.new .offline .standard⟩ ∧
      (SessionCall.apply ⟨.new .offline .standard⟩ (.detach (.finite false 3 (-1)) true)).2 =
        ⟨.new .offline .standard⟩ := by
  refine ⟨?_, rfl, ?_⟩
  · have hfault : (Mutation.answerInPlace (.run sortingCatalog .standard sortingPair)
        (.insertAfter 2 1)).result = .error (.insideItself 1) := by decide +kernel
    have hreached := Workspace.reached_run sortingCatalog .standard sortingPair
    exact (refused_changes_nothing.1 _ _ _ hreached _ _ hfault (by decide)).2
  · have hid : blockIdOf (.finite false 3 (-1)) = .error (.invalidId "1.5") := by decide +kernel
    have hfailed : (SessionCall.apply (Session.afterCalls ⟨.new .offline .standard⟩ [])
        (.detach (.finite false 3 (-1)) true)).1 = .failure [(Fault.invalidId "1.5").report] := by
      rw [SessionCall.apply, Session.detach, hid]
      rfl
    have hcodes : ∀ report ∈ [(Fault.invalidId "1.5").report], report.code ≠ "R001" := by decide
    exact refused_changes_nothing.2 Pattern.search none none _ [] _ _ rfl hfailed hcodes

end ShellComposer
