import ShellComposer.Proofs.Building
import ShellComposer.Rules.Check

/-!
# Rules of definitions that share a name

Only the ids of commands, controls and operators are kept distinct.  A command may define an operand
twice under one id and an option twice under one flag.  A block is made from the first definition
of a name, but the rules that are kept for the name are those of the last one, where only options
that take an argument count.  The two agree for names that occur once.

Main results:

- Definitions `CommandDef.lastOperand?`, `CommandDef.lastOption?`: whose rules are kept.
- Structure `KeepsRules`: which rules are kept for the names of a command, and checked.
- Theorem `build_keepsRules`: every catalog that is built keeps rules in this way.
- Theorem `doubled_keeps_other_rules`: rules that are not those of the definition found.
-/

namespace ShellComposer.Catalog

open Pattern

variable {α κ : Type} {engine : Engine} {definitions : Definitions} {catalog : Catalog}
variable {command : CommandDef}

/-! ## First and last definitions -/

/-- The last operand with an id. -/
def CommandDef.lastOperand? (command : CommandDef) (id : String) : Option OperandDef :=
  command.operands.reverse.find? fun operand => operand.id == id

/-- The last option with a flag that takes an argument. -/
def CommandDef.lastOption? (command : CommandDef) (flag : String) : Option OptionDef :=
  (command.options.filter fun option => option.argument.isSome).reverse.find?
    fun option => option.flag == flag

/-- The rules about the values of an operand that may not be there. -/
def rulesOfOperand? (operand : Option OperandDef) : List ValueRule :=
  operand.elim [] OperandDef.validations

/-- The rules about the argument of an option that may not be there. -/
def rulesOfOption? (option : Option OptionDef) : List ValueRule :=
  option.elim [] argumentRulesOf

section Lists

variable [BEq κ] [LawfulBEq κ] {entries : List α} {key : α → κ} {k : κ}

/-- What is looked up among keyed values is the value of the first entry with the key. -/
theorem lookup_map_keyed {β : Type} (value : α → β) :
    (entries.map fun entry => (key entry, value entry)).lookup k =
      (entries.find? fun entry => key entry == k).map value := by
  induction entries with
  | nil => rfl
  | cons first rest ih =>
    rw [List.map_cons, List.lookup_cons, List.find?_cons, ih, BEq.comm]
    cases key first == k <;> rfl

/-- The rules under a key are those of the last entry with it. -/
theorem rulesUnder_map {β : Type} (value : α → List β) :
    rulesUnder k (entries.map fun entry => (key entry, value entry)) =
      (entries.reverse.find? fun entry => key entry == k).elim [] value := by
  rw [rulesUnder, ← List.map_reverse, lookup_map_keyed]
  cases entries.reverse.find? fun entry => key entry == k <;> rfl

omit [LawfulBEq κ] in
/-- A key that occurs at most once belongs to at most one entry. -/
theorem filter_of_count_le_one (honce : (entries.map key).count k ≤ 1) :
    (entries.filter fun entry => key entry == k) = [] ∨
      ∃ entry, (entries.filter fun entry => key entry == k) = [entry] := by
  have hlength : (entries.filter fun entry => key entry == k).length ≤ 1 := by
    rwa [List.count, List.countP_map, List.countP_eq_length_filter] at honce
  cases hfilter : entries.filter fun entry => key entry == k with
  | nil => exact .inl rfl
  | cons first rest =>
    rw [hfilter, List.length_cons] at hlength
    rw [List.eq_nil_of_length_eq_zero (show rest.length = 0 by omega)]
    exact .inr ⟨first, rfl⟩

end Lists

/-! ## The rules that count -/

/-- Of operands with the same id the rules of the last one count. -/
theorem CommandDef.valueRules_eq (id : String) :
    command.valueRules id = rulesOfOperand? (command.lastOperand? id) :=
  rulesUnder_map OperandDef.validations

/-- Of options with the same flag the rules of the last one that takes an argument count. -/
theorem CommandDef.argumentRules_eq (flag : String) :
    command.argumentRules flag = rulesOfOption? (command.lastOption? flag) := by
  have hentries : (command.options.filterMap fun option =>
      option.argument.map fun argument => (option.flag, argument.validations)) =
      (command.options.filter fun option => option.argument.isSome).map fun option =>
        (option.flag, argumentRulesOf option) := by
    induction command.options with
    | nil => rfl
    | cons first rest ih =>
      rw [List.filterMap_cons, List.filter_cons, ih]
      cases hargument : first.argument <;> simp [argumentRulesOf, hargument]
  rw [CommandDef.argumentRules, hentries]
  exact rulesUnder_map argumentRulesOf

/-- The last operand with an id that occurs once is the first one. -/
theorem CommandDef.lastOperand?_eq {id : String}
    (honce : (command.operands.map OperandDef.id).count id ≤ 1) :
    command.lastOperand? id = command.operand? id := by
  rw [lastOperand?, operand?, ← List.head?_filter, ← List.head?_filter, List.filter_reverse]
  rcases filter_of_count_le_one honce with hfilter | ⟨operand, hfilter⟩
  · rw [hfilter]
    rfl
  · rw [hfilter]
    rfl

/-- The rules that count for a flag that occurs once are those of the option with it. -/
theorem CommandDef.rulesOfOption?_last {flag : String}
    (honce : (command.options.map OptionDef.flag).count flag ≤ 1) :
    rulesOfOption? (command.lastOption? flag) = rulesOfOption? (command.option? flag) := by
  rw [lastOption?, option?, ← List.head?_filter, ← List.head?_filter, List.filter_reverse,
    List.filter_comm]
  rcases filter_of_count_le_one honce with hfilter | ⟨option, hfilter⟩
  · rw [hfilter]
    rfl
  · rw [hfilter]
    cases hargument : option.argument with
    | none => simp [rulesOfOption?, argumentRulesOf, hargument]
    | some argument => simp [hargument]

/-! ## The rules that are kept -/

/-- Rules are compiled one by one, in order and none left out. -/
def Compiles (engine : Engine) (rules : List ValueRule) (compiled : List CompiledValueRule) : Prop :=
  rules.map (compileValueRule engine) = compiled.map some

/-- Two lists of rules compile to the same ones. -/
def CompileAlike (engine : Engine) (rules others : List ValueRule) : Prop :=
  rules.map (compileValueRule engine) = others.map (compileValueRule engine)

/-- Which rules are kept for the names of a command.  Those of the last definition of a name are
kept, which are those of the first one exactly when both compile alike, as they do for a name that
occurs once.  A block whose name occurs once is checked by the rules of its own definition. -/
structure KeepsRules (engine : Engine) (catalog : Catalog) (command : CommandDef) : Prop where
  operand_last : ∀ id, Compiles engine (rulesOfOperand? (command.lastOperand? id))
    (catalog.operandRulesOf command.id id)
  option_last : ∀ flag, Compiles engine (rulesOfOption? (command.lastOption? flag))
    (catalog.argumentRulesFor command.id flag)
  operand_first_iff : ∀ id,
    Compiles engine (rulesOfOperand? (command.operand? id)) (catalog.operandRulesOf command.id id) ↔
      CompileAlike engine (rulesOfOperand? (command.operand? id))
        (rulesOfOperand? (command.lastOperand? id))
  option_first_iff : ∀ flag,
    Compiles engine (rulesOfOption? (command.option? flag))
        (catalog.argumentRulesFor command.id flag) ↔
      CompileAlike engine (rulesOfOption? (command.option? flag))
        (rulesOfOption? (command.lastOption? flag))
  operand_once : ∀ id, (command.operands.map OperandDef.id).count id ≤ 1 →
    Compiles engine (rulesOfOperand? (command.operand? id)) (catalog.operandRulesOf command.id id)
  option_once : ∀ flag, (command.options.map OptionDef.flag).count flag ≤ 1 →
    Compiles engine (rulesOfOption? (command.option? flag))
      (catalog.argumentRulesFor command.id flag)
  operand_checked : ∀ (site : Site) (id : BlockId) (block : Block) (operand : OperandDef),
    site.catalog = catalog → site.graph.get? id = some block →
    catalog.definition? block.kind = some (.operand command operand) →
    (command.operands.map OperandDef.id).count operand.id ≤ 1 →
    ∃ rules, Compiles engine operand.validations rules ∧
      site.check id = Site.checkValue rules (block.fieldText valueField) .operandRegex
  option_checked : ∀ (site : Site) (id : BlockId) (block : Block) (flag : String),
    site.catalog = catalog → site.graph.get? id = some block →
    catalog.definition? block.kind = some (.option command) →
    block.field? flagField = some flag →
    (command.options.map OptionDef.flag).count flag ≤ 1 →
    ∃ rules, Compiles engine (rulesOfOption? (command.option? flag)) rules ∧
      site.check id = Site.checkValue rules (block.fieldText argumentField) .optionArgRegex

/-- Among lists of compiled rules, those of other rules are kept only if both compile alike. -/
theorem Compiles.iff_alike {rules others : List ValueRule} {compiled : List CompiledValueRule}
    (h : Compiles engine others compiled) :
    Compiles engine rules compiled ↔ CompileAlike engine rules others := by
  rw [Compiles, CompileAlike, h]

/-- An operand that a kind of block stands for is the first one with its id. -/
theorem operand?_of_definition? {kind : BlockKind} {operand : OperandDef}
    (h : catalog.definition? kind = some (.operand command operand)) :
    command.operand? operand.id = some operand := by
  cases kind with
  | operand c name =>
    simp only [definition?, Option.bind_eq_bind, Option.bind_eq_some_iff] at h
    obtain ⟨found, -, other, hother, heq⟩ := h
    cases heq
    have hname : operand.id = name := by
      simpa using List.find?_some hother
    rw [hname]
    exact hother
  | _ => simp [definition?] at h

/-- The rules of an operand are those of its last definition. -/
theorem Loaded.compiles_lastOperand (h : Loaded engine catalog)
    (hmem : command ∈ catalog.definitions.commands) (id : String) :
    Compiles engine (rulesOfOperand? (command.lastOperand? id))
      (catalog.operandRulesOf command.id id) := by
  rw [Compiles, h.operandRulesOf_eq hmem, ← CommandDef.valueRules_eq]
  exact map_eq_map_some_filterMap (h.faultless.valueRules_valid hmem id)

/-- The rules of an option are those of its last definition. -/
theorem Loaded.compiles_lastOption (h : Loaded engine catalog)
    (hmem : command ∈ catalog.definitions.commands) (flag : String) :
    Compiles engine (rulesOfOption? (command.lastOption? flag))
      (catalog.argumentRulesFor command.id flag) := by
  rw [Compiles, h.argumentRulesFor_eq hmem, ← CommandDef.argumentRules_eq]
  exact map_eq_map_some_filterMap (h.faultless.argumentRules_valid hmem flag)

/-- A loaded catalog keeps for each id the rules of its last definition. -/
theorem Loaded.keepsRules (h : Loaded engine catalog)
    (hmem : command ∈ catalog.definitions.commands) : KeepsRules engine catalog command where
  operand_last := h.compiles_lastOperand hmem
  option_last := h.compiles_lastOption hmem
  operand_first_iff id := (h.compiles_lastOperand hmem id).iff_alike
  option_first_iff flag := (h.compiles_lastOption hmem flag).iff_alike
  operand_once id honce := by
    rw [← CommandDef.lastOperand?_eq honce]
    exact h.compiles_lastOperand hmem id
  option_once flag honce := by
    rw [Compiles, ← CommandDef.rulesOfOption?_last honce]
    exact h.compiles_lastOption hmem flag
  operand_checked := by
    intro site id block operand hsite hblock hdefinition honce
    have hkept := h.compiles_lastOperand hmem operand.id
    rw [CommandDef.lastOperand?_eq honce, operand?_of_definition? hdefinition] at hkept
    refine ⟨_, hkept, ?_⟩
    subst hsite
    simp only [Site.check, hblock, hdefinition, Site.checkOperand]
  option_checked := by
    intro site id block flag hsite hblock hdefinition hflag honce
    have hkept := h.compiles_lastOption hmem flag
    rw [Compiles, CommandDef.rulesOfOption?_last honce] at hkept
    refine ⟨_, hkept, ?_⟩
    subst hsite
    simp only [Site.check, hblock, hdefinition, Site.checkOption, hflag]

/-- Every catalog that is built keeps the rules of the last definition of each name. -/
theorem build_keepsRules (hbuild : build engine definitions = .ok catalog)
    (hmem : command ∈ catalog.definitions.commands) : KeepsRules engine catalog command := by
  rcases build_cases engine definitions with ⟨hbuildable, hcompiled⟩ | ⟨-, hfaults⟩
  · obtain rfl := Except.ok.inj (hcompiled.symm.trans hbuild)
    exact (loaded_compile hbuildable).keepsRules hmem
  · simp [hfaults] at hbuild

/-! ## A command with doubled names -/

/-- An operand whose value must match a pattern. -/
def ruledOperand (id regex : String) : OperandDef :=
  { (default : OperandDef) with id := id, validations := [⟨regex, "no match"⟩] }

/-- A command with two operands under one id and two options under one flag.  Only the second of
these takes an argument. -/
def doubledCommand : CommandDef :=
  { (default : CommandDef) with
    givenId := some "ls"
    shellCommand := "ls"
    operands := [ruledOperand "file" "^a$", ruledOperand "file" "^b$"]
    options := [⟨"-n", none, "", none⟩,
      ⟨"-n", none, "", some ⟨.string, "", none, [⟨"^[0-9]$", "no digit"⟩]⟩⟩] }

/-- The definitions with this command only. -/
def doubledDefinitions : Definitions :=
  ⟨[doubledCommand], [], [], []⟩

theorem build_doubled :
    build search doubledDefinitions = .ok (compile search doubledDefinitions) := by
  have hdefects : defects search doubledDefinitions.normalize = [] := by decide +kernel
  have hnormal : doubledDefinitions.normalize = doubledDefinitions := by decide +kernel
  rw [build, hdefects, hnormal]

/-- The command with doubled names is built and keeps its rules in this way. -/
theorem doubled_keepsRules : ∃ catalog, build search doubledDefinitions = .ok catalog ∧
    doubledCommand ∈ catalog.definitions.commands ∧ KeepsRules search catalog doubledCommand :=
  ⟨_, build_doubled, List.mem_singleton.2 rfl,
    build_keepsRules build_doubled (List.mem_singleton.2 rfl)⟩

/-- The rules kept for a doubled name are not those of the definition that is found for it: the
operand that is found admits the value "a" only, and the rules that are kept reject it; the option
that is found takes no argument, and a rule is kept for one. -/
theorem doubled_keeps_other_rules : ∃ catalog, build search doubledDefinitions = .ok catalog ∧
    doubledCommand ∈ catalog.definitions.commands ∧
    ¬ Compiles search (rulesOfOperand? (doubledCommand.operand? "file"))
      (catalog.operandRulesOf doubledCommand.id "file") ∧
    (rulesOfOperand? (doubledCommand.operand? "file")).all
      (fun rule => accepts search rule.regex "a") = true ∧
    (catalog.operandRulesOf doubledCommand.id "file").all (fun rule => rule.accepts "a") = false ∧
    ¬ Compiles search (rulesOfOption? (doubledCommand.option? "-n"))
      (catalog.argumentRulesFor doubledCommand.id "-n") := by
  have hadmitted : (rulesOfOperand? (doubledCommand.operand? "file")).all
      (fun rule => accepts search rule.regex "a") = true := by
    decide +kernel
  have hrejected : ((compile search doubledDefinitions).operandRulesOf doubledCommand.id "file").all
      (fun rule => rule.accepts "a") = false := by
    decide +kernel
  have hverdicts : ((rulesOfOperand? (doubledCommand.operand? "file")).map
      (compileValueRule search)).map (Option.map fun rule => rule.accepts "a") ≠
      (((compile search doubledDefinitions).operandRulesOf doubledCommand.id "file").map some).map
        (Option.map fun rule => rule.accepts "a") := by
    decide +kernel
  have hlengths : (rulesOfOption? (doubledCommand.option? "-n")).length = 0 ∧
      ((compile search doubledDefinitions).argumentRulesFor doubledCommand.id "-n").length = 1 := by
    decide +kernel
  refine ⟨_, build_doubled, List.mem_singleton.2 rfl, ?_, hadmitted, hrejected, ?_⟩
  · intro hcompiles
    exact hverdicts (congrArg (List.map _) hcompiles)
  · intro hcompiles
    have hsame := congrArg List.length hcompiles
    rw [List.length_map, List.length_map, hlengths.1, hlengths.2] at hsame
    omega

end ShellComposer.Catalog
