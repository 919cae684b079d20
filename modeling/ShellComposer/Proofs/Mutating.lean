import ShellComposer.Proofs.GraphRuns
import ShellComposer.Proofs.Reaction

/-!
# Runs of changes to a workspace

A workspace starts with the script alone and is then changed, again and again.  A change is refused
and does nothing, or it changes the graph and what belongs to it, and a reaction follows.  So what
every such change keeps and every reaction keeps holds after any run.

Main results:

- Inductive type `Mutation` with `Mutation.answer`: the changes and what they answer.
- Definition `Mutation.begun` and theorem `begun_cases`: the workspace in which the reaction to a
  change begins.
- Theorem `answer_cases`: all that a change can do.
- Theorem `run_consistent`: after any run, what follows from the graph is as the graph says.
-/

namespace ShellComposer

open BlockGraph

/-- A change to a workspace. -/
inductive Mutation where
  | create (kind : BlockKind)
  | setField (id : BlockId) (name value : String)
  | attach (parent : BlockId) (slot : String) (child : BlockId)
  | insertAfter (previous child : BlockId)
  | detach (id : BlockId) (heal : Bool)
  | remove (id : BlockId)
  | react

/-- What a change answers, with the blocks that it made or deleted. -/
def Mutation.answer (w : Workspace) : Mutation → Answer (List BlockId)
  | create kind => (w.create kind).map fun id => [id]
  | setField id name value => (w.setField id name value).map fun _ => []
  | attach parent slot child => (w.attach parent slot child).map fun _ => []
  | insertAfter previous child => (w.insertAfter previous child).map fun _ => []
  | detach id heal => (w.detach id heal).map fun _ => []
  | remove id => w.remove id
  | react => w.react.map fun _ => []

namespace Workspace

/-- The workspace after a run of changes, each of which may succeed or fail. -/
def run (catalog : Catalog) (settings : Settings) (mutations : List Mutation) : Workspace :=
  mutations.foldl (fun w mutation => (mutation.answer w).workspace) (.new catalog settings)

/-- What a change does before the reaction that follows it. -/
inductive Change (w : Workspace) : Workspace → Prop where
  | none : Change w w
  | placed {kind : BlockKind} {definition : Definition}
      (known : w.catalog.definition? kind = some definition) (notScript : definition ≠ .script) :
      Change w (w.place kind definition.template).2
  | edited {call : GraphCall} {g : BlockGraph} (done : call.run w.graph = .ok g)
      (kept : Retains w.graph g) : Change w { w with graph := g }
  | removed {id : BlockId} {doomed : List BlockId} {g : BlockGraph}
      (done : w.graph.remove id = .ok (doomed, g)) : Change w (w.forget g doomed)

variable {w w' : Workspace}

/-- A known kind, other than the script, is placed, and a reaction follows. -/
theorem create_of_known {kind : BlockKind} {definition : Definition}
    (hknown : w.catalog.definition? kind = some definition) (hscript : definition ≠ .script) :
    w.create kind = (w.place kind definition.template).2.react.map fun _ => w.graph.nextId := by
  rw [create, hknown]
  cases definition with
  | script => exact absurd rfl hscript
  | _ => rfl

/-- A creation is refused, or the block is placed and a reaction follows. -/
theorem create_cases (w : Workspace) (kind : BlockKind) :
    (∃ fault, fault.report.phase = .graph ∧
      (Mutation.create kind).answer w = ⟨.error fault, w⟩) ∨
    ∃ definition, w.catalog.definition? kind = some definition ∧ definition ≠ .script ∧
      (Mutation.create kind).answer w =
        (w.place kind definition.template).2.react.map fun _ => [w.graph.nextId] := by
  rw [Mutation.answer]
  cases hknown : w.catalog.definition? kind with
  | none =>
    refine .inl ⟨.unknownKind kind, rfl, ?_⟩
    rw [create, hknown]
    rfl
  | some definition =>
    by_cases hscript : definition = .script
    · refine .inl ⟨.secondScript root, rfl, ?_⟩
      rw [create, hknown, hscript]
      rfl
    · refine .inr ⟨definition, rfl, hscript, ?_⟩
      rw [create_of_known hknown hscript, Answer.map_map]

/-- The workspace after an edit of the graph, if the edit is not refused. -/
def edited? (w : Workspace) (change : Except Fault BlockGraph) : Option Workspace :=
  change.toOption.map fun graph => { w with graph }

/-- An edit of the graph is refused, or a reaction follows. -/
theorem edit_cases {change : Except Fault BlockGraph} (w : Workspace) (call : GraphCall)
    (hcall : call.run w.graph = change)
    (hkept : ∀ g, change = .ok g → Retains w.graph g) :
    (w.edited? change = none ∧
        ∃ fault, (w.edit change).map (fun _ => ([] : List BlockId)) = ⟨.error fault, w⟩) ∨
      ∃ w', w.edited? change = some w' ∧ Change w w' ∧
        (w.edit change).map (fun _ => ([] : List BlockId)) = w'.react.map fun _ => [] := by
  cases hchange : change with
  | error fault => exact .inl ⟨rfl, fault, rfl⟩
  | ok g =>
    refine .inr ⟨{ w with graph := g }, rfl, ?_, rfl⟩
    exact .edited (hcall.trans hchange) (hkept g hchange)

end Workspace

/-- The workspace in which the reaction to a change begins, if the change is not refused. -/
def Mutation.begun (w : Workspace) : Mutation → Option Workspace
  | create kind =>
    match w.catalog.definition? kind with
    | none => none
    | some .script => none
    | some definition => some (w.place kind definition.template).2
  | setField id name value => w.edited? (w.graph.setField id name value)
  | attach parent slot child => w.edited? (w.graph.attach parent slot child)
  | insertAfter previous child => w.edited? (w.graph.insertAfter previous child)
  | detach id heal => w.edited? (w.graph.detach id heal)
  | remove id => (w.graph.remove id).toOption.map fun (removed, graph) => w.forget graph removed
  | react => some w

namespace Workspace

variable {w w' : Workspace}

/-- A change is refused, begins no reaction and leaves the workspace as it is, or it answers as the
reaction that it begins does. -/
theorem begun_cases (w : Workspace) (mutation : Mutation) :
    (mutation.begun w = none ∧ ∃ fault, mutation.answer w = ⟨.error fault, w⟩) ∨
      ∃ w' ids, mutation.begun w = some w' ∧ Change w w' ∧
        mutation.answer w = w'.react.map fun _ => ids := by
  cases mutation with
  | create kind =>
    rw [Mutation.begun, Mutation.answer]
    cases hknown : w.catalog.definition? kind with
    | none => exact .inl ⟨rfl, .unknownKind kind, by rw [create, hknown]; rfl⟩
    | some definition =>
      by_cases hscript : definition = .script
      · subst hscript
        exact .inl ⟨rfl, .secondScript root, by rw [create, hknown]; rfl⟩
      · refine .inr ⟨(w.place kind definition.template).2, [w.graph.nextId], ?_,
          .placed hknown hscript, ?_⟩
        · cases definition with
          | script => exact absurd rfl hscript
          | _ => rfl
        · rw [create_of_known hknown hscript, Answer.map_map]
  | setField id name value =>
    refine (w.edit_cases (.setField id name value) rfl fun g hset => ?_).imp_right
      fun ⟨w', hbegun, hchange, hrun⟩ => ⟨w', [], hbegun, hchange, hrun⟩
    exact retains_setField hset
  | attach parent slot child =>
    refine (w.edit_cases (.attach parent slot child) rfl fun g hattach => ?_).imp_right
      fun ⟨w', hbegun, hchange, hrun⟩ => ⟨w', [], hbegun, hchange, hrun⟩
    exact retains_of_blocks (blocks_attach hattach)
  | insertAfter previous child =>
    refine (w.edit_cases (.insertAfter previous child) rfl fun g hinsert => ?_).imp_right
      fun ⟨w', hbegun, hchange, hrun⟩ => ⟨w', [], hbegun, hchange, hrun⟩
    exact retains_of_blocks (blocks_insertAfter hinsert)
  | detach id heal =>
    refine (w.edit_cases (.detach id heal) rfl fun g hdetach => ?_).imp_right
      fun ⟨w', hbegun, hchange, hrun⟩ => ⟨w', [], hbegun, hchange, hrun⟩
    exact retains_of_blocks (blocks_detach hdetach)
  | remove id =>
    rw [Mutation.begun, Mutation.answer, remove]
    cases hremove : w.graph.remove id with
    | error fault => exact .inl ⟨rfl, fault, rfl⟩
    | ok removed =>
      rcases removed with ⟨doomed, g⟩
      exact .inr ⟨w.forget g doomed, doomed, rfl, .removed hremove, rfl⟩
  | react => exact .inr ⟨w, [], rfl, .none, rfl⟩

/-- All that a change can do: it is refused and leaves the workspace as it is, or a reaction follows
what it did. -/
theorem answer_cases (w : Workspace) (mutation : Mutation) :
    (∃ fault, mutation.answer w = ⟨.error fault, w⟩) ∨
      ∃ w' ids, Change w w' ∧ mutation.answer w = w'.react.map fun _ => ids :=
  (w.begun_cases mutation).imp And.right fun ⟨w', ids, _, hchange, hrun⟩ => ⟨w', ids, hchange, hrun⟩

/-! ## What every change keeps -/

/-- What a reaction starts from is there after a change if it was there before. -/
theorem Change.tended (hchange : Change w w') (h : w.Tended) : w'.Tended := by
  cases hchange with
  | none => exact h
  | placed known notScript =>
    refine ⟨h.sound.insert _ _ _, fun id habsent => h.cleared id ?_⟩
    rw [← Bool.not_eq_true] at habsent ⊢
    refine fun hid => habsent ?_
    rcases contains_iff.1 hid with ⟨block, hblock⟩
    have hold : id ≠ w.graph.nextId := Nat.ne_of_lt (h.sound.handed_out id hid)
    refine contains_iff.2 ⟨block, ?_⟩
    exact (get?_insert _ _ _ _ id).trans ((if_neg hold).trans hblock)
  | edited done kept =>
    refine ⟨h.sound.of_run done, fun id habsent => h.cleared id ?_⟩
    exact (contains_congr (kept.shape_eq id)).symm.trans habsent
  | removed done =>
    refine ⟨h.sound.remove done, fun id habsent => ?_⟩
    refine (Ledger.get_foldl_clear _ _ _).trans ?_
    split
    · rfl
    · rename_i hkept
      refine h.cleared id ?_
      rw [← Bool.not_eq_true] at habsent ⊢
      refine fun hid => habsent ?_
      rcases contains_iff.1 hid with ⟨block, hblock⟩
      refine contains_iff.2 ⟨block, ?_⟩
      exact (get?_remove done id).trans ((if_neg hkept).trans hblock)

/-- Before a reaction begins, no notice is given or read. -/
theorem Change.notices (hchange : Change w w') : w'.notices = w.notices := by
  cases hchange <;> rfl

/-- A change leaves everything as the graph says, whether it succeeds or fails. -/
theorem consistent_answer (h : w.Tended ∧ w.Consistent) (mutation : Mutation) :
    (mutation.answer w).workspace.Tended ∧ (mutation.answer w).workspace.Consistent := by
  rcases w.answer_cases mutation with ⟨fault, hrun⟩ | ⟨w', ids, hchange, hrun⟩
  · rw [hrun]
    exact h
  · rw [hrun]
    exact (hchange.tended h.1).react

/-- The script alone has no violations, and it is enabled. -/
theorem consistent_new (catalog : Catalog) (settings : Settings) :
    (new catalog settings).Tended ∧ (new catalog settings).Consistent := by
  have hread : ∀ id, (new catalog settings).violations id = [] := fun _ => rfl
  refine ⟨⟨sound_new, fun id _ => hread id⟩, ?_, ?_, fun id _ _ _ => hread id, fun id _ => hread id⟩
  · intro id block hblock
    rcases get?_new_eq_some hblock with ⟨rfl, rfl⟩
    exact iff_of_true rfl rfl
  · intro id block hblock _
    have hcheck : (new catalog settings).site.check id = [] := by
      rcases get?_new_eq_some hblock with ⟨rfl, rfl⟩
      rfl
    rw [hread, hcheck]
    rfl

/-- What holds of the script alone and is kept by every change holds after any run. -/
theorem run_induction {P : Workspace → Prop} {catalog : Catalog} {settings : Settings}
    (hnew : P (new catalog settings))
    (hkept : ∀ w mutation, P w → P (Mutation.answer w mutation).workspace)
    (mutations : List Mutation) : P (run catalog settings mutations) := by
  rw [run]
  generalize new catalog settings = w at hnew
  induction mutations generalizing w with
  | nil => exact hnew
  | cons mutation rest ih => exact ih _ (hkept w mutation hnew)

/-- After any run the graph is sound, and everything is as the graph says. -/
theorem tended_run (catalog : Catalog) (settings : Settings) (mutations : List Mutation) :
    (run catalog settings mutations).Tended ∧ (run catalog settings mutations).Consistent :=
  run_induction (P := fun w => w.Tended ∧ w.Consistent) (consistent_new catalog settings)
    (fun _ mutation h => consistent_answer h mutation) mutations

/-- After any run of changes, whatever each of them answered, the enabled blocks are those below the
script, and the violations are those that checking finds. -/
theorem run_consistent (catalog : Catalog) (settings : Settings) (mutations : List Mutation) :
    (run catalog settings mutations).Consistent :=
  (tended_run catalog settings mutations).2

end Workspace

end ShellComposer
