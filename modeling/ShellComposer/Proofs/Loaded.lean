import ShellComposer.Catalog.Compiled

/-!
# Catalogs that load

A catalog that loads comes from definitions without defects: their commands have different ids, and
all their patterns are valid.  So the compiled rules kept under the id of a command are those that
its own definition lists, and none of them is missing.

Main results:

- Structure `Loaded` and theorem `loaded_of_load`: what loading has made sure of.
- Theorem `load_eq_ok`: a document without defects loads.
- Theorems `Loaded.sequenceRulesOf_eq`, `operandRulesOf_eq`, `argumentRulesFor_eq`: the rules kept
  are those that a command lists.
- Theorems `find?_compiled` and `all_compiled_iff`: compiled rules decide as their patterns do.
-/

namespace ShellComposer.Catalog

open Pattern

variable {engine : Engine} {definitions : Definitions} {catalog : Catalog} {command : CommandDef}

/-- Whether a text matches a pattern; a pattern that is not valid matches nothing. -/
def accepts (engine : Engine) (pattern text : String) : Bool :=
  (engine pattern).any fun matcher => matcher text

/-- The rules about the value of an operand.  Of operands with the same id the last one counts. -/
def CommandDef.valueRules (command : CommandDef) (operand : String) : List ValueRule :=
  rulesUnder operand (command.operands.map fun operand => (operand.id, operand.validations))

/-- The rules about the argument of an option.  Of options with the same flag the last one that
takes an argument counts. -/
def CommandDef.argumentRules (command : CommandDef) (flag : String) : List ValueRule :=
  rulesUnder flag (command.options.filterMap fun option =>
    option.argument.map fun argument => (option.flag, argument.validations))

/-! ## Definitions without defects -/

/-- Definitions of commands with different ids whose patterns are all valid. -/
structure Faultless (engine : Engine) (definitions : Definitions) : Prop where
  distinct : (definitions.commands.map CommandDef.id).Nodup
  sequence_valid : ∀ command ∈ definitions.commands, ∀ rule ∈ command.operandSyntaxRules,
    (compileSyntaxRule engine rule).isSome = true
  operand_valid : ∀ command ∈ definitions.commands, ∀ operand ∈ command.operands,
    ∀ rule ∈ operand.validations, (compileValueRule engine rule).isSome = true
  argument_valid : ∀ command ∈ definitions.commands, ∀ option ∈ command.options,
    ∀ rule ∈ argumentRulesOf option, (compileValueRule engine rule).isSome = true

/-- No id is repeated when all are different and none was seen before. -/
theorem repeatedIds_eq_nil_iff {seen ids : List String} :
    repeatedIds seen ids = [] ↔ ids.Nodup ∧ ∀ id ∈ ids, id ∉ seen := by
  induction ids generalizing seen with
  | nil => simp [repeatedIds]
  | cons first rest ih =>
    rw [repeatedIds]
    by_cases hseen : first ∈ seen
    · simp [hseen]
    · rw [if_neg (by simpa using hseen), ih]
      simp only [List.nodup_cons, List.mem_cons, not_or, forall_eq_or_imp]
      constructor
      · rintro ⟨hnodup, hfresh⟩
        exact ⟨⟨fun hmem => (hfresh first hmem).1 rfl, hnodup⟩, hseen,
          fun id hmem => (hfresh id hmem).2⟩
      · rintro ⟨⟨hnew, hnodup⟩, -, hfresh⟩
        refine ⟨hnodup, fun id hmem => ⟨?_, hfresh id hmem⟩⟩
        rintro rfl
        exact hnew hmem

/-- Rules about a value have no defects when all can be compiled. -/
theorem valueDefects_eq_nil_iff {owner : RuleOwner} {rules : List ValueRule} :
    valueDefects engine owner rules = [] ↔
      ∀ rule ∈ rules, (compileValueRule engine rule).isSome = true := by
  rw [valueDefects, List.map_eq_nil_iff, List.filter_eq_nil_iff]
  exact forall₂_congr fun rule _ => by rw [Option.isNone_iff_eq_none, Option.isSome_iff_ne_none]

/-- Rules about sequences have no defects when all can be compiled. -/
theorem sequenceDefects_eq_nil_iff : sequenceDefects engine command = [] ↔
    ∀ rule ∈ command.operandSyntaxRules, (compileSyntaxRule engine rule).isSome = true := by
  rw [sequenceDefects, List.map_eq_nil_iff, List.filter_eq_nil_iff]
  exact forall₂_congr fun rule _ => by rw [Option.isNone_iff_eq_none, Option.isSome_iff_ne_none]

/-- Definitions without defects are faultless. -/
theorem Faultless.of_defects (h : defects engine definitions = []) :
    Faultless engine definitions := by
  simp only [defects, List.append_eq_nil_iff, List.flatMap_eq_nil_iff, commandDefects,
    sequenceDefects_eq_nil_iff, valueDefects_eq_nil_iff] at h
  rcases h with ⟨⟨⟨hcommands, -⟩, -⟩, hrules⟩
  rw [duplicateDefects, List.map_eq_nil_iff, repeatedIds_eq_nil_iff] at hcommands
  exact ⟨hcommands.1, fun command hmem => (hrules command hmem).1.1,
    fun command hmem => (hrules command hmem).1.2, fun command hmem => (hrules command hmem).2⟩

/-- What loading a catalog has made sure of. -/
structure Loaded (engine : Engine) (catalog : Catalog) : Prop where
  faultless : Faultless engine catalog.definitions
  compiled : catalog = compile engine catalog.definitions

/-- A catalog that loads is compiled from definitions without defects. -/
theorem compiled_of_load {text : String} (hload : load engine text = .ok catalog) :
    ∃ definitions, parse text = .ok definitions ∧ defects engine definitions.normalize = [] ∧
      catalog = compile engine definitions.normalize := by
  rw [load] at hload
  cases hparse : parse text with
  | error faults => simp [hparse, bind, Except.bind] at hload
  | ok definitions =>
    simp only [hparse, bind, Except.bind, build] at hload
    split at hload
    · rename_i hnone
      exact ⟨definitions, rfl, hnone, (Except.ok.inj hload).symm⟩
    · simp at hload

/-- A catalog that was loaded holds what its definitions say. -/
theorem loaded_of_load {text : String} (hload : load engine text = .ok catalog) :
    Loaded engine catalog := by
  rcases compiled_of_load hload with ⟨definitions, -, hnone, rfl⟩
  exact ⟨.of_defects hnone, rfl⟩

/-- A document without defects loads. -/
theorem load_eq_ok {text : String} (hparse : parse text = .ok definitions)
    (hdefects : defects engine definitions.normalize = []) :
    load engine text = .ok (compile engine definitions.normalize) := by
  rw [load, hparse]
  simp only [bind, Except.bind, build, hdefects]

/-! ## The rules kept under an id -/

section Lookup

variable {κ α β : Type} [BEq κ] [LawfulBEq κ] {key : κ}

/-- Nothing is found where no key has the same owner. -/
theorem lookup_eq_none_of_owner {entries : List (κ × β)} (owner : κ → String)
    (hother : ∀ entry ∈ entries, owner entry.1 ≠ owner key) : entries.lookup key = none := by
  rw [List.lookup_eq_none_iff]
  intro entry hmem
  rw [bne_iff_ne]
  rintro rfl
  exact hother entry hmem rfl

/-- Among the entries of all commands a key of one command is looked up in those of this one. -/
theorem lookup_reverse_flatMap {commands : List CommandDef} (owner : κ → String)
    (entriesOf : CommandDef → List (κ × β))
    (howner : ∀ command, ∀ entry ∈ entriesOf command, owner entry.1 = command.id)
    (hdistinct : (commands.map CommandDef.id).Nodup) (hmem : command ∈ commands)
    (hkey : owner key = command.id) :
    (commands.flatMap entriesOf).reverse.lookup key = (entriesOf command).reverse.lookup key := by
  induction commands with
  | nil => exact absurd hmem List.not_mem_nil
  | cons first rest ih =>
    rw [List.map_cons, List.nodup_cons] at hdistinct
    rw [List.flatMap_cons, List.reverse_append, List.lookup_append]
    rcases List.mem_cons.1 hmem with rfl | hmem
    · have hrest : (rest.flatMap entriesOf).reverse.lookup key = none := by
        refine lookup_eq_none_of_owner owner fun entry hentry => ?_
        rcases List.mem_flatMap.1 (List.mem_reverse.1 hentry) with ⟨other, hother, hin⟩
        rw [howner other entry hin, hkey]
        exact fun hsame => hdistinct.1 (List.mem_map.2 ⟨other, hother, hsame⟩)
      rw [hrest, Option.none_or]
    · have hfirst : (entriesOf first).reverse.lookup key = none := by
        refine lookup_eq_none_of_owner owner fun entry hentry => ?_
        rw [howner first entry (List.mem_reverse.1 hentry), hkey]
        exact fun hsame => hdistinct.1 (List.mem_map.2 ⟨command, hmem, hsame.symm⟩)
      rw [hfirst, Option.or_none, ih hdistinct.2 hmem]

/-- What is found where all keys have been marked with an owner and all values changed. -/
theorem lookup_map_owner (entries : List (κ × α)) (owner : String) (f : α → β) :
    (entries.map fun entry => ((owner, entry.1), f entry.2)).lookup (owner, key) =
      (entries.lookup key).map f := by
  induction entries with
  | nil => rfl
  | cons first rest ih =>
    rcases first with ⟨other, value⟩
    rw [List.map_cons, List.lookup_cons, List.lookup_cons, ih]
    by_cases hsame : key = other
    · simp [hsame]
    · have hpair : ((owner, key) == (owner, other)) = false := by simpa using hsame
      rw [hpair, beq_eq_false_iff_ne.2 hsame]

end Lookup

/-- A rule under a key was entered under it. -/
theorem mem_rulesUnder {κ α : Type} [BEq κ] [LawfulBEq κ] {key : κ} {rule : α}
    {entries : List (κ × List α)} (h : rule ∈ rulesUnder key entries) :
    ∃ rules, (key, rules) ∈ entries ∧ rule ∈ rules := by
  rw [rulesUnder] at h
  cases hfound : entries.reverse.lookup key with
  | none => simp [hfound] at h
  | some rules =>
    rw [hfound, Option.getD_some] at h
    rcases List.lookup_eq_some_iff.1 hfound with ⟨before, after, hsplit, -⟩
    refine ⟨rules, List.mem_reverse.1 ?_, h⟩
    rw [hsplit]
    exact List.mem_append_right _ List.mem_cons_self

/-- The rules about sequences that are kept for a command are those that it lists. -/
theorem Loaded.sequenceRulesOf_eq (h : Loaded engine catalog)
    (hmem : command ∈ catalog.definitions.commands) :
    catalog.sequenceRulesOf command.id =
      command.operandSyntaxRules.filterMap (compileSyntaxRule engine) := by
  have hentries : catalog.sequenceRules =
      catalog.definitions.commands.flatMap fun command => [(command.id,
        command.operandSyntaxRules.filterMap (compileSyntaxRule engine))] :=
    (congrArg Catalog.sequenceRules h.compiled).trans List.map_eq_flatMap
  rw [sequenceRulesOf, rulesUnder, hentries,
    lookup_reverse_flatMap (fun key => key) _ ?_ h.faultless.distinct hmem rfl]
  · simp
  · intro other entry hentry
    rw [List.mem_singleton] at hentry
    rw [hentry]

/-- The rules about the values of an operand that are kept are those that count for it. -/
theorem Loaded.operandRulesOf_eq (h : Loaded engine catalog)
    (hmem : command ∈ catalog.definitions.commands) (operand : String) :
    catalog.operandRulesOf command.id operand =
      (command.valueRules operand).filterMap (compileValueRule engine) := by
  have hentries : catalog.operandRules =
      catalog.definitions.commands.flatMap (compileOperandRules engine) :=
    congrArg Catalog.operandRules h.compiled
  have hcommand : compileOperandRules engine command =
      (command.operands.map fun operand => (operand.id, operand.validations)).map
        fun entry => ((command.id, entry.1), entry.2.filterMap (compileValueRule engine)) := by
    rw [compileOperandRules, List.map_map]
    rfl
  rw [operandRulesOf, rulesUnder, hentries,
    lookup_reverse_flatMap Prod.fst _ ?_ h.faultless.distinct hmem rfl, hcommand,
    ← List.map_reverse, lookup_map_owner, CommandDef.valueRules, rulesUnder]
  · cases ((command.operands.map _).reverse.lookup operand) <;> rfl
  · intro other entry hentry
    rcases List.mem_map.1 hentry with ⟨_, -, rfl⟩
    rfl

/-- The rules about the argument of an option that are kept are those that count for it. -/
theorem Loaded.argumentRulesFor_eq (h : Loaded engine catalog)
    (hmem : command ∈ catalog.definitions.commands) (flag : String) :
    catalog.argumentRulesFor command.id flag =
      (command.argumentRules flag).filterMap (compileValueRule engine) := by
  have hentries : catalog.argumentRules =
      catalog.definitions.commands.flatMap (compileArgumentRules engine) :=
    congrArg Catalog.argumentRules h.compiled
  have hcommand : compileArgumentRules engine command =
      (command.options.filterMap fun option =>
        option.argument.map fun argument => (option.flag, argument.validations)).map
        fun entry => ((command.id, entry.1), entry.2.filterMap (compileValueRule engine)) := by
    rw [compileArgumentRules, List.map_filterMap]
    simp only [Option.map_map]
    rfl
  rw [argumentRulesFor, rulesUnder, hentries,
    lookup_reverse_flatMap Prod.fst _ ?_ h.faultless.distinct hmem rfl, hcommand,
    ← List.map_reverse, lookup_map_owner, CommandDef.argumentRules, rulesUnder]
  · cases ((command.options.filterMap _).reverse.lookup flag) <;> rfl
  · intro other entry hentry
    rcases List.mem_filterMap.1 hentry with ⟨option, -, hoption⟩
    rcases Option.map_eq_some_iff.1 hoption with ⟨_, -, rfl⟩
    rfl

/-! ## Compiled rules decide as their patterns do -/

/-- The rules that count for an operand are valid. -/
theorem Faultless.valueRules_valid (h : Faultless engine definitions)
    (hmem : command ∈ definitions.commands) (operand : String) :
    ∀ rule ∈ command.valueRules operand, (compileValueRule engine rule).isSome = true := by
  intro rule hrule
  rcases mem_rulesUnder hrule with ⟨rules, hentry, hin⟩
  rcases List.mem_map.1 hentry with ⟨other, hother, hsame⟩
  rcases Prod.mk.inj hsame with ⟨-, rfl⟩
  exact h.operand_valid command hmem other hother rule hin

/-- The rules that count for the argument of an option are valid. -/
theorem Faultless.argumentRules_valid (h : Faultless engine definitions)
    (hmem : command ∈ definitions.commands) (flag : String) :
    ∀ rule ∈ command.argumentRules flag, (compileValueRule engine rule).isSome = true := by
  intro rule hrule
  rcases mem_rulesUnder hrule with ⟨rules, hentry, hin⟩
  rcases List.mem_filterMap.1 hentry with ⟨option, hoption, hsome⟩
  rcases Option.map_eq_some_iff.1 hsome with ⟨argument, hargument, hsame⟩
  rcases Prod.mk.inj hsame with ⟨-, rfl⟩
  refine h.argument_valid command hmem option hoption rule ?_
  rw [argumentRulesOf, hargument]
  exact hin

/-- All compiled rules accept a value exactly when it matches all patterns. -/
theorem all_compiled_iff {rules : List ValueRule} {text : String}
    (hvalid : ∀ rule ∈ rules, (compileValueRule engine rule).isSome = true) :
    (∀ rule ∈ rules.filterMap (compileValueRule engine), rule.accepts text = true) ↔
      ∀ rule ∈ rules, accepts engine rule.regex text = true := by
  simp only [List.mem_filterMap, forall_exists_index, and_imp]
  rw [forall_comm]
  refine forall_congr' fun rule => ?_
  constructor
  · intro hall hmem
    rcases Option.isSome_iff_exists.1 (hvalid rule hmem) with ⟨compiled, hcompiled⟩
    have haccepts := hall compiled hmem hcompiled
    rcases Option.map_eq_some_iff.1 hcompiled with ⟨matcher, hmatcher, rfl⟩
    rw [accepts, hmatcher]
    exact haccepts
  · intro hall compiled hmem hcompiled
    have haccepts := hall hmem
    rcases Option.map_eq_some_iff.1 hcompiled with ⟨matcher, hmatcher, rfl⟩
    rw [accepts, hmatcher] at haccepts
    exact haccepts

/-- The first compiled rule that accepts a sequence says what the first rule does whose pattern
matches the whole sequence. -/
theorem find?_compiled (rules : List SyntaxRule) (text : String) :
    ((rules.filterMap (compileSyntaxRule engine)).find? fun rule => rule.accepts text).map
        CompiledSyntaxRule.errorMessage =
      (rules.find? fun rule => accepts engine (wholeSequence rule.regexPattern) text).map
        SyntaxRule.errorMessage := by
  induction rules with
  | nil => rfl
  | cons first rest ih =>
    rw [List.filterMap_cons, List.find?_cons]
    cases hmatcher : engine (wholeSequence first.regexPattern) with
    | none =>
      have hcompiled : compileSyntaxRule engine first = none := by
        rw [compileSyntaxRule, hmatcher, Option.map_none]
      have haccepts : accepts engine (wholeSequence first.regexPattern) text = false := by
        rw [accepts, hmatcher, Option.any_none]
      rw [hcompiled, haccepts]
      exact ih
    | some matcher =>
      have hcompiled : compileSyntaxRule engine first = some ⟨matcher, first.errorMessage⟩ := by
        rw [compileSyntaxRule, hmatcher, Option.map_some]
      have haccepts : accepts engine (wholeSequence first.regexPattern) text = matcher text := by
        rw [accepts, hmatcher, Option.any_some]
      rw [hcompiled, haccepts]
      simp only [List.find?_cons]
      cases matcher text with
      | true => rfl
      | false => exact ih

end ShellComposer.Catalog
