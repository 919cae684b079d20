import Mathlib.Data.List.Nodup
import ShellComposer.Catalog.OnePass
import ShellComposer.Proofs.Loaded

/-!
# One pass builds the same catalogs

Going through definitions once, with one list of faults and with positions noted under ids, ends
with the same faults as looking for defects first, and otherwise with the same catalog.  Since ids
are then distinct, the positions lead to the definitions that a search by id finds.

Main results:

- Definition `Reports`: what a step yields and which faults it adds, with one lemma for each step.
- Theorem `assemble_eq`: one pass gives the same faults, or the same catalog with its positions.
- Theorem `bind_lookup_ofIds`: the definition at the position noted for an id is the one that a
  search by id finds.
-/

namespace ShellComposer.Catalog

open Pattern

variable {α β : Type} {engine : Engine} {command : CommandDef}

/-! ## Steps beside a list of faults -/

/-- A step yields a value and adds some faults to the list, whatever the list was. -/
def Reports (step : Reporting α) (value : α) (added : List Fault) : Prop :=
  ∀ faults, step.run faults = (value, faults ++ added)

namespace Reports

/-- A step that only gives a value reports nothing. -/
theorem pure (value : α) : Reports (pure value) value [] := by
  intro faults
  rw [List.append_nil]
  rfl

/-- A report adds the one fault. -/
theorem report (fault : Fault) : Reports (report fault) () [fault] :=
  fun _ => rfl

/-- Of two steps the faults are reported one after the other. -/
theorem bind {step : Reporting α} {next : α → Reporting β} {value : α} {result : β}
    {added more : List Fault} (h : Reports step value added)
    (hnext : Reports (next value) result more) :
    Reports (step >>= next) result (added ++ more) := by
  intro faults
  rw [StateT.run_bind, h faults, ← List.append_assoc]
  exact hnext (faults ++ added)

/-- A step after which nothing more is reported. -/
theorem map {step : Reporting α} {value : α} {added : List Fault} (h : Reports step value added)
    (f : α → β) : Reports (step >>= fun value => Pure.pure (f value)) (f value) added := by
  rw [← List.append_nil added]
  exact h.bind (.pure (f value))

/-- Steps for the items of a list, one after the other. -/
theorem mapM {step : α → Reporting β} {value : α → β} {added : α → List Fault}
    (h : ∀ item, Reports (step item) (value item) (added item)) (items : List α) :
    Reports (items.mapM step) (items.map value) (items.flatMap added) := by
  induction items with
  | nil => exact .pure []
  | cons first rest ih =>
    rw [List.mapM_cons]
    exact (h first).bind (ih.map _)

end Reports

/-! ## Ids and their positions -/

/-- Ids with their positions, the last one first. -/
def Index.ofIds (ids : List String) : Index :=
  ids.zipIdx.reverse

/-- Ids noted after others are reported when they occurred before. -/
theorem reports_noteIds_from (space : IdSpace) {seen : List String} {index : Index}
    (hseen : ∀ id, (index.lookup id).isSome = seen.contains id) (ids : List String) (n : Nat) :
    Reports ((ids.zipIdx n).foldlM (noteId space) index) ((ids.zipIdx n).reverse ++ index)
      ((repeatedIds seen ids).map (.duplicateId space)) := by
  induction ids generalizing seen index n with
  | nil => exact .pure index
  | cons id rest ih =>
    rw [List.zipIdx_cons, List.foldlM_cons, List.reverse_cons, List.append_assoc]
    have hlookup : ∀ other, (((id, n) :: index).lookup other).isSome =
        (other == id || seen.contains other) := by
      intro other
      rw [List.lookup_cons, ← hseen]
      cases other == id <;> rfl
    cases hold : seen.contains id with
    | true =>
      have hnote : Reports (noteId space index (id, n)) ((id, n) :: index)
          [.duplicateId space id] := by
        rw [noteId, hseen, hold]
        exact (Reports.report (.duplicateId space id)).map fun _ => (id, n) :: index
      have hsame : ∀ other, (((id, n) :: index).lookup other).isSome = seen.contains other := by
        intro other
        rw [hlookup]
        by_cases heq : other = id
        · rw [heq, hold, Bool.or_true]
        · rw [beq_eq_false_iff_ne.2 heq, Bool.false_or]
      rw [repeatedIds, if_pos hold, List.map_cons]
      exact hnote.bind (ih hsame (n + 1))
    | false =>
      have hnote : Reports (noteId space index (id, n)) ((id, n) :: index) [] := by
        rw [noteId, hseen, hold]
        exact .pure _
      have hmore : ∀ other, (((id, n) :: index).lookup other).isSome =
          (id :: seen).contains other := by
        intro other
        rw [hlookup, List.contains_cons]
      rw [repeatedIds, if_neg (ne_true_of_eq_false hold)]
      exact hnote.bind (ih hmore (n + 1))

/-- Noting ids one by one reports those that were noted before, each time they come again. -/
theorem reports_noteIds (space : IdSpace) (ids : List String) :
    Reports (noteIds space ids) (.ofIds ids) (duplicateDefects space ids) := by
  have h : Reports (noteIds space ids) (Index.ofIds ids ++ []) (duplicateDefects space ids) :=
    reports_noteIds_from space (fun _ => rfl) ids 0
  rwa [List.append_nil] at h

/-! ## Rules -/

/-- Gathering rules behind others keeps the valid ones and reports the rest, in order. -/
theorem reports_gatherRules_from (compileRule : α → Option β) (fault : α → Fault)
    (compiled : List β) (rules : List α) :
    Reports (rules.foldlM (gatherRule compileRule fault) compiled)
      (compiled ++ rules.filterMap compileRule)
      ((rules.filter fun rule => (compileRule rule).isNone).map fault) := by
  induction rules generalizing compiled with
  | nil =>
    rw [List.filterMap_nil, List.append_nil]
    exact .pure compiled
  | cons rule rest ih =>
    rw [List.foldlM_cons, List.filterMap_cons, List.filter_cons]
    cases hrule : compileRule rule with
    | none =>
      have hstep : Reports (gatherRule compileRule fault compiled rule) compiled [fault rule] := by
        rw [gatherRule, hrule]
        exact (Reports.report (fault rule)).map fun _ => compiled
      exact hstep.bind (ih compiled)
    | some done =>
      have hstep : Reports (gatherRule compileRule fault compiled rule) (compiled ++ [done])
          [] := by
        rw [gatherRule, hrule]
        exact .pure _
      have hrest := ih (compiled ++ [done])
      rw [List.append_assoc] at hrest
      exact hstep.bind hrest

/-- Gathering rules keeps the valid ones and reports the rest, in order. -/
theorem reports_gatherRules (compileRule : α → Option β) (fault : α → Fault) (rules : List α) :
    Reports (gatherRules compileRule fault rules) (rules.filterMap compileRule)
      ((rules.filter fun rule => (compileRule rule).isNone).map fault) :=
  reports_gatherRules_from compileRule fault [] rules

/-- Gathering an operand gives the entry of its valid rules and reports the others. -/
theorem reports_gatherOperand (operand : OperandDef) :
    Reports (gatherOperand engine command operand)
      ((command.id, operand.id), operand.validations.filterMap (compileValueRule engine))
      (valueDefects engine (.operand operand.id command.id) operand.validations) :=
  (reports_gatherRules _ _ operand.validations).map _

/-- What is compiled for an option: nothing when it takes no argument. -/
def argumentEntries (engine : Engine) (command : CommandDef) (option : OptionDef) :
    List ((String × String) × List CompiledValueRule) :=
  (option.argument.map fun argument =>
    ((command.id, option.flag), argument.validations.filterMap (compileValueRule engine))).toList

/-- Gathering an option gives the entry of its argument, if it takes one, and reports what is not
valid. -/
theorem reports_gatherOption (option : OptionDef) :
    Reports (gatherOption engine command option) (argumentEntries engine command option)
      (valueDefects engine (.option option.flag command.id) (argumentRulesOf option)) := by
  rw [gatherOption, argumentEntries, argumentRulesOf]
  cases option.argument with
  | none => exact .pure []
  | some argument =>
    exact (reports_gatherRules _ _ argument.validations).map fun rules =>
      [((command.id, option.flag), rules)]

/-- The rules of a command join those of the catalog, and its defects are reported. -/
theorem reports_gatherCommand (catalog : Catalog) (command : CommandDef) :
    Reports (gatherCommand engine catalog command)
      { catalog with
        sequenceRules := catalog.sequenceRules ++
          [(command.id, command.operandSyntaxRules.filterMap (compileSyntaxRule engine))]
        operandRules := catalog.operandRules ++ compileOperandRules engine command
        argumentRules := catalog.argumentRules ++ compileArgumentRules engine command }
      (commandDefects engine command) := by
  have hsequence : Reports (gatherSequenceRules engine command)
      (command.id, command.operandSyntaxRules.filterMap (compileSyntaxRule engine))
      (sequenceDefects engine command) :=
    (reports_gatherRules _ _ command.operandSyntaxRules).map _
  have hoperands : Reports (command.operands.mapM (gatherOperand engine command)) _ _ :=
    .mapM reports_gatherOperand command.operands
  have harguments : Reports (command.options.mapM (gatherOption engine command)) _ _ :=
    .mapM reports_gatherOption command.options
  have hentries : (command.options.map (argumentEntries engine command)).flatten =
      compileArgumentRules engine command := by
    rw [← List.flatMap_def, compileArgumentRules, List.filterMap_eq_flatMap_toList]
    rfl
  rw [← hentries, commandDefects, List.append_assoc]
  exact hsequence.bind (hoperands.bind (harguments.map _))

/-- Commands are gone through one after the other. -/
theorem reports_gatherCommands (catalog : Catalog) (commands : List CommandDef) :
    Reports (commands.foldlM (gatherCommand engine) catalog)
      { catalog with
        sequenceRules := catalog.sequenceRules ++ commands.map fun command =>
          (command.id, command.operandSyntaxRules.filterMap (compileSyntaxRule engine))
        operandRules := catalog.operandRules ++ commands.flatMap (compileOperandRules engine)
        argumentRules := catalog.argumentRules ++ commands.flatMap (compileArgumentRules engine) }
      (commands.flatMap (commandDefects engine)) := by
  induction commands generalizing catalog with
  | nil =>
    simp only [List.map_nil, List.flatMap_nil, List.append_nil]
    exact .pure catalog
  | cons first rest ih =>
    have hrest := ih
      { catalog with
        sequenceRules := catalog.sequenceRules ++
          [(first.id, first.operandSyntaxRules.filterMap (compileSyntaxRule engine))]
        operandRules := catalog.operandRules ++ compileOperandRules engine first
        argumentRules := catalog.argumentRules ++ compileArgumentRules engine first }
    simp only [List.append_assoc, List.singleton_append] at hrest
    rw [List.foldlM_cons]
    exact (reports_gatherCommand catalog first).bind hrest

/-! ## The assembly -/

/-- A catalog with the positions of its definitions. -/
def Assembly.ofCatalog (catalog : Catalog) : Assembly where
  catalog := catalog
  commands := .ofIds (catalog.definitions.commands.map CommandDef.id)
  controls := .ofIds (catalog.definitions.controls.map ControlDef.id)
  operators := .ofIds (catalog.definitions.operators.map OperatorDef.id)

/-- One pass over the definitions compiles what the catalog holds and reports all its defects. -/
theorem reports_gather (definitions : Definitions) :
    Reports (gather engine definitions) (.ofCatalog (compile engine definitions))
      (defects engine definitions) := by
  rw [defects, List.append_assoc, List.append_assoc]
  exact (reports_noteIds .command _).bind <| (reports_noteIds .control _).bind <|
    (reports_noteIds .operator _).bind <| (reports_gatherCommands _ definitions.commands).map _

/-- One pass gives the same faults, or the same catalog with its positions. -/
theorem assemble_eq (definitions : Definitions) :
    assemble engine definitions = (build engine definitions).map Assembly.ofCatalog := by
  rw [assemble, reports_gather, List.nil_append, build]
  cases defects engine definitions.normalize <;> rfl

/-! ## Definitions at positions -/

section Positions

variable {δ : Type} {key : δ → String} {entries : List δ} {id : String}

/-- Among definitions with distinct ids a search by id finds the one with the id. -/
theorem find?_eq_some_iff_of_nodup (hdistinct : (entries.map key).Nodup) {entry : δ} :
    (entries.find? fun entry => key entry == id) = some entry ↔
      entry ∈ entries ∧ key entry = id := by
  constructor
  · intro hfound
    have hkey := List.find?_some hfound
    exact ⟨List.mem_of_find?_eq_some hfound, beq_iff_eq.1 hkey⟩
  · rintro ⟨hmem, rfl⟩
    cases hfound : entries.find? fun other => key other == key entry with
    | none =>
      have hnone := List.find?_eq_none.1 hfound entry hmem
      simp at hnone
    | some other =>
      have hkey := List.find?_some hfound
      have hsame := List.inj_on_of_nodup_map hdistinct (List.mem_of_find?_eq_some hfound) hmem
        (beq_iff_eq.1 hkey)
      rw [hsame]

/-- The position noted for an id that occurs once is where it occurs. -/
theorem lookup_ofIds {ids : List String} (hdistinct : ids.Nodup) {n : Nat} :
    (Index.ofIds ids).lookup id = some n ↔ ids[n]? = some id := by
  have hat : ∀ m, (Index.ofIds ids).lookup id = some m → ids[m]? = some id := by
    intro m hlookup
    obtain ⟨before, after, hsplit, -⟩ := List.lookup_eq_some_iff.1 hlookup
    have hmem : (id, m) ∈ Index.ofIds ids := by
      rw [hsplit]
      exact List.mem_append_right _ List.mem_cons_self
    rw [Index.ofIds, List.mem_reverse] at hmem
    exact List.mem_zipIdx_iff_getElem?.1 hmem
  refine ⟨hat n, fun hn => ?_⟩
  cases hlookup : (Index.ofIds ids).lookup id with
  | none =>
    have hmem : (id, n) ∈ Index.ofIds ids :=
      List.mem_reverse.2 (List.mem_zipIdx_iff_getElem?.2 hn)
    have hother := List.lookup_eq_none_iff.1 hlookup _ hmem
    simp at hother
  | some m =>
    have hlength := (List.getElem?_eq_some_iff.1 hn).1
    rw [(List.getElem?_inj hlength hdistinct).1 (hn.trans (hat m hlookup).symm)]

/-- The definition at the position noted for an id is the one that a search by id finds. -/
theorem bind_lookup_ofIds (hdistinct : (entries.map key).Nodup) :
    ((Index.ofIds (entries.map key)).lookup id).bind (fun n => entries[n]?) =
      entries.find? fun entry => key entry == id := by
  ext entry
  rw [find?_eq_some_iff_of_nodup hdistinct, Option.bind_eq_some_iff]
  simp only [lookup_ofIds hdistinct, List.getElem?_map, Option.map_eq_some_iff]
  constructor
  · rintro ⟨n, ⟨other, hother, hkey⟩, hentry⟩
    obtain rfl := Option.some.inj (hother.symm.trans hentry)
    exact ⟨List.mem_of_getElem? hentry, hkey⟩
  · rintro ⟨hmem, hkey⟩
    obtain ⟨n, hn⟩ := List.getElem?_of_mem hmem
    exact ⟨n, ⟨entry, hn, hkey⟩, hn⟩

end Positions

end ShellComposer.Catalog
