import Mathlib.Data.List.Lex
import ShellComposer.Proofs.Assembling

/-!
# Defects of a document

A document becomes a catalog exactly when its ids are distinct and its patterns are valid.  When it
does not, every place with a defect is reported once and no other place is, in the order of the
document.  When it does, an id leads to the definition that has it.

Main results:

- Inductive `Spot` and definition `Spot.rank`: the places in a document, and their order.
- Inductive `FaultAt`: which fault there is at a place.
- Definition `located`: what is found at the places of a document, in their order.
- Structures `Itemized`, `Buildable`, `Answers`: faults that account for all places, definitions
  without defects, and a catalog that gives its definitions back.
- Theorem `build_decides`: building a catalog gives one or the other.
-/

namespace ShellComposer.Catalog

open Pattern

variable {α β : Type} {engine : Engine} {definitions : Definitions} {catalog : Catalog}

/-! ## Places in a document -/

/-- The ids of the definitions of a list. -/
def Definitions.ids (definitions : Definitions) : IdSpace → List String
  | .command => definitions.commands.map CommandDef.id
  | .control => definitions.controls.map ControlDef.id
  | .operator => definitions.operators.map OperatorDef.id

/-- A place in a document, by positions. -/
inductive Spot where
  | id (space : IdSpace) (position : Nat)
  | sequenceRule (command rule : Nat)
  | operandRule (command operand rule : Nat)
  | argumentRule (command option rule : Nat)
deriving DecidableEq, Repr

namespace Spot

/-- Where an id space comes in the order of reports. -/
def spaceRank : IdSpace → Nat
  | .command => 0
  | .control => 1
  | .operator => 2

/-- Where a place comes in the order of reports: ids before rules, and rules command by command. -/
def rank : Spot → List Nat
  | id space position => [spaceRank space, position]
  | sequenceRule command rule => [3, command, 0, rule]
  | operandRule command operand rule => [3, command, 1, operand, rule]
  | argumentRule command option rule => [3, command, 2, option, rule]

/-- The code under which a defect at a place is reported. -/
def code : Spot → String
  | id _ _ => "C004"
  | sequenceRule _ _ => "C002"
  | operandRule _ _ _ => "C003"
  | argumentRule _ _ _ => "C003"

end Spot

/-- There is a fault at a place: an id that occurred earlier in its list, or a rule whose pattern
is not valid. -/
inductive FaultAt (engine : Engine) (definitions : Definitions) : Spot → Fault → Prop where
  | id {space : IdSpace} {n : Nat} {id : String} (hid : (definitions.ids space)[n]? = some id)
      (hearlier : id ∈ (definitions.ids space).take n) :
      FaultAt engine definitions (.id space n) (.duplicateId space id)
  | sequenceRule {c r : Nat} {command : CommandDef} {rule : SyntaxRule}
      (hcommand : definitions.commands[c]? = some command)
      (hrule : command.operandSyntaxRules[r]? = some rule)
      (hinvalid : engine (wholeSequence rule.regexPattern) = none) :
      FaultAt engine definitions (.sequenceRule c r)
        (.invalidSyntaxRule rule.regexPattern command.id)
  | operandRule {c o r : Nat} {command : CommandDef} {operand : OperandDef} {rule : ValueRule}
      (hcommand : definitions.commands[c]? = some command)
      (hoperand : command.operands[o]? = some operand)
      (hrule : operand.validations[r]? = some rule) (hinvalid : engine rule.regex = none) :
      FaultAt engine definitions (.operandRule c o r)
        (.invalidValueRule rule.regex (.operand operand.id command.id))
  | argumentRule {c o r : Nat} {command : CommandDef} {option : OptionDef}
      {argument : ArgumentDef} {rule : ValueRule}
      (hcommand : definitions.commands[c]? = some command)
      (hoption : command.options[o]? = some option) (hargument : option.argument = some argument)
      (hrule : argument.validations[r]? = some rule) (hinvalid : engine rule.regex = none) :
      FaultAt engine definitions (.argumentRule c o r)
        (.invalidValueRule rule.regex (.option option.flag command.id))

/-- A fault is reported under the code of its place. -/
theorem FaultAt.code_eq {spot : Spot} {fault : Fault} (h : FaultAt engine definitions spot fault) :
    fault.report.code = spot.code := by
  cases h <;> rfl

/-- Faults together with their places. -/
abbrev Located := List (Spot × Fault)

/-- One place comes before another. -/
def Precedes (first second : Spot × Fault) : Prop :=
  first.1.rank < second.1.rank

/-- What is found at the items of a list, which are given their positions. -/
def located (found : α → Nat → Located) (items : List α) : Located :=
  items.zipIdx.flatMap fun entry => found entry.1 entry.2

section Located

variable {found : α → Nat → Located} {items : List α}

/-- What is located among items is located in one of them, with its number. -/
theorem mem_located {entry : Spot × Fault} :
    entry ∈ located found items ↔ ∃ n item, items[n]? = some item ∧ entry ∈ found item n := by
  simp only [located, List.mem_flatMap, Prod.exists, List.mem_zipIdx_iff_getElem?]
  rw [exists_comm]

/-- The faults located among items are those of each item in turn. -/
theorem map_snd_located {faults : α → List Fault}
    (h : ∀ item n, (found item n).map Prod.snd = faults item) :
    (located found items).map Prod.snd = items.flatMap faults := by
  rw [located, List.map_flatMap]
  simp only [h]
  rw [← List.flatMap_map (f := Prod.fst), List.zipIdx_map_fst]

/-- What is found is in order if it is in order at each item and items do not mix. -/
theorem pairwise_located (hinner : ∀ item n, (found item n).Pairwise Precedes)
    (hacross : ∀ item other m n, m < n → ∀ first ∈ found item m, ∀ second ∈ found other n,
      Precedes first second) :
    (located found items).Pairwise Precedes := by
  rw [located, List.pairwise_flatMap]
  refine ⟨fun entry _ => hinner entry.1 entry.2, ?_⟩
  have hpositions : (items.zipIdx.map Prod.snd).Pairwise (· < ·) := by
    rw [List.zipIdx_map_snd]
    exact List.pairwise_lt_range'
  exact (List.pairwise_map.1 hpositions).imp fun hlt => hacross _ _ _ _ hlt

end Located

/-! ## Faults at their places -/

/-- The ids that occurred earlier in their list. -/
def locatedIds (definitions : Definitions) (space : IdSpace) : Located :=
  located (fun id n => if id ∈ (definitions.ids space).take n
    then [(.id space n, .duplicateId space id)] else []) (definitions.ids space)

/-- The rules that do not compile. -/
def locatedRules (compileRule : α → Option β) (spot : Nat → Spot) (fault : α → Fault)
    (rules : List α) : Located :=
  located (fun rule r => if (compileRule rule).isNone then [(spot r, fault rule)] else []) rules

/-- The rules of a command about the sequence of its operands that do not compile. -/
def locatedSequence (engine : Engine) (command : CommandDef) (c : Nat) : Located :=
  locatedRules (compileSyntaxRule engine) (.sequenceRule c)
    (fun rule => .invalidSyntaxRule rule.regexPattern command.id) command.operandSyntaxRules

/-- The rules about the values of an operand that do not compile. -/
def locatedOperand (engine : Engine) (command : CommandDef) (c : Nat) (operand : OperandDef)
    (o : Nat) : Located :=
  locatedRules (compileValueRule engine) (.operandRule c o)
    (fun rule => .invalidValueRule rule.regex (.operand operand.id command.id)) operand.validations

/-- The rules about the argument of an option that do not compile. -/
def locatedArgument (engine : Engine) (command : CommandDef) (c : Nat) (option : OptionDef)
    (o : Nat) : Located :=
  locatedRules (compileValueRule engine) (.argumentRule c o)
    (fun rule => .invalidValueRule rule.regex (.option option.flag command.id))
    (argumentRulesOf option)

/-- The rules of a command that do not compile. -/
def locatedCommand (engine : Engine) (command : CommandDef) (c : Nat) : Located :=
  locatedSequence engine command c ++ located (locatedOperand engine command c) command.operands ++
    located (locatedArgument engine command c) command.options

/-- All faults of definitions. -/
def locatedFaults (engine : Engine) (definitions : Definitions) : Located :=
  locatedIds definitions .command ++ locatedIds definitions .control ++
    locatedIds definitions .operator ++ located (locatedCommand engine) definitions.commands

/-! ### Which they are -/

/-- The repeated ids are those that stand earlier in the list, one for each time they come again. -/
theorem repeatedIds_eq {seen before : List String} (hseen : ∀ id, id ∈ seen ↔ id ∈ before)
    (ids : List String) :
    repeatedIds seen ids = (ids.zipIdx before.length).flatMap fun entry =>
      if entry.1 ∈ (before ++ ids).take entry.2 then [entry.1] else [] := by
  induction ids generalizing seen before with
  | nil => rfl
  | cons id rest ih =>
    have hnow : id ∈ (before ++ id :: rest).take before.length ↔ id ∈ seen := by
      rw [List.take_left, hseen]
    have hsplit : before ++ id :: rest = (before ++ [id]) ++ rest := by simp
    have hlength : (before ++ [id]).length = before.length + 1 := by simp
    rw [repeatedIds, List.zipIdx_cons, List.flatMap_cons]
    simp only [hnow, List.contains_iff_mem]
    by_cases hold : id ∈ seen
    · rw [if_pos hold, if_pos hold, List.singleton_append, hsplit, ← hlength, ← ih]
      intro other
      simp only [hseen, List.mem_append, List.mem_singleton]
      constructor
      · exact Or.inl
      · rintro (hother | rfl)
        · exact hother
        · exact (hseen _).1 hold
    · rw [if_neg hold, if_neg hold, List.nil_append, hsplit, ← hlength, ← ih]
      intro other
      simp only [hseen, List.mem_cons, List.mem_append, List.not_mem_nil, or_false]
      exact or_comm

/-- The faults of the located ids are the repeated ids. -/
theorem map_snd_locatedIds (space : IdSpace) :
    (locatedIds definitions space).map Prod.snd =
      duplicateDefects space (definitions.ids space) := by
  have hnone : ∀ id : String, id ∈ [] ↔ id ∈ [] := fun _ => Iff.rfl
  rw [locatedIds, located, duplicateDefects, repeatedIds_eq hnone, List.map_flatMap,
    List.map_flatMap]
  refine List.flatMap_congr fun entry _ => ?_
  rw [List.nil_append]
  split <;> rfl

/-- The faults of the located rules are those of the rules that are not valid. -/
theorem map_snd_locatedRules (compileRule : α → Option β) (spot : Nat → Spot) (fault : α → Fault)
    (rules : List α) :
    (locatedRules compileRule spot fault rules).map Prod.snd =
      (rules.filter fun rule => (compileRule rule).isNone).map fault := by
  have hfilter : (rules.filter fun rule => (compileRule rule).isNone).map fault =
      rules.flatMap fun rule => if (compileRule rule).isNone then [fault rule] else [] := by
    induction rules with
    | nil => rfl
    | cons first rest ih =>
      rw [List.flatMap_cons, ← ih, List.filter_cons]
      split <;> rfl
  rw [locatedRules, hfilter]
  apply map_snd_located
  intro rule r
  split <;> rfl

/-- The faults located in a command are its defects. -/
theorem map_snd_locatedCommand (command : CommandDef) (c : Nat) :
    (locatedCommand engine command c).map Prod.snd = commandDefects engine command := by
  rw [locatedCommand, List.map_append, List.map_append, commandDefects]
  congr 1
  · congr 1
    · exact map_snd_locatedRules ..
    · exact map_snd_located fun operand o => map_snd_locatedRules ..
  · exact map_snd_located fun option o => map_snd_locatedRules ..

/-- The faults that are reported are those at their places. -/
theorem map_snd_locatedFaults :
    (locatedFaults engine definitions).map Prod.snd = defects engine definitions := by
  simp only [locatedFaults, List.map_append, map_snd_locatedIds, defects,
    map_snd_located map_snd_locatedCommand]
  rfl

/-! ### Where they are -/

/-- An id is located as a fault when it stands earlier in its list. -/
theorem mem_locatedIds {space : IdSpace} {entry : Spot × Fault} :
    entry ∈ locatedIds definitions space ↔ ∃ n id, (definitions.ids space)[n]? = some id ∧
      id ∈ (definitions.ids space).take n ∧ entry = (.id space n, .duplicateId space id) := by
  rw [locatedIds, mem_located]
  refine exists_congr fun n => exists_congr fun id => and_congr_right fun _ => ?_
  by_cases hearlier : id ∈ (definitions.ids space).take n <;> simp [hearlier]

/-- A rule is located as a fault when it cannot be compiled. -/
theorem mem_locatedRules {compileRule : α → Option β} {spot : Nat → Spot} {fault : α → Fault}
    {rules : List α} {entry : Spot × Fault} :
    entry ∈ locatedRules compileRule spot fault rules ↔ ∃ r rule, rules[r]? = some rule ∧
      compileRule rule = none ∧ entry = (spot r, fault rule) := by
  rw [locatedRules, mem_located]
  refine exists_congr fun r => exists_congr fun rule => and_congr_right fun _ => ?_
  cases hrule : compileRule rule <;> simp

/-- A rule about sequences is not valid when its pattern is refused between the ends of a text. -/
theorem compileSyntaxRule_eq_none_iff {rule : SyntaxRule} :
    compileSyntaxRule engine rule = none ↔ engine (wholeSequence rule.regexPattern) = none :=
  Option.map_eq_none_iff

/-- A rule about values is not valid when its pattern is refused. -/
theorem compileValueRule_eq_none_iff {rule : ValueRule} :
    compileValueRule engine rule = none ↔ engine rule.regex = none :=
  Option.map_eq_none_iff

/-- The faults of a command are those at its places. -/
theorem mem_locatedCommand {command : CommandDef} {c : Nat}
    (hcommand : definitions.commands[c]? = some command) {entry : Spot × Fault}
    (h : entry ∈ locatedCommand engine command c) : FaultAt engine definitions entry.1 entry.2 := by
  rw [locatedCommand, List.mem_append, List.mem_append, mem_located, mem_located] at h
  rcases h with (hsequence | ⟨o, operand, hoperand, hfound⟩) | ⟨o, option, hoption, hfound⟩
  · obtain ⟨r, rule, hrule, hinvalid, rfl⟩ := mem_locatedRules.1 hsequence
    exact .sequenceRule hcommand hrule (compileSyntaxRule_eq_none_iff.1 hinvalid)
  · obtain ⟨r, rule, hrule, hinvalid, rfl⟩ := mem_locatedRules.1 hfound
    exact .operandRule hcommand hoperand hrule (compileValueRule_eq_none_iff.1 hinvalid)
  · obtain ⟨r, rule, hrule, hinvalid, rfl⟩ := mem_locatedRules.1 hfound
    rw [argumentRulesOf] at hrule
    cases hargument : option.argument with
    | none => simp [hargument] at hrule
    | some argument =>
      rw [hargument] at hrule
      exact .argumentRule hcommand hoption hargument hrule
        (compileValueRule_eq_none_iff.1 hinvalid)

/-- The faults that are reported are at the places that have one. -/
theorem mem_locatedFaults {spot : Spot} {fault : Fault} :
    (spot, fault) ∈ locatedFaults engine definitions ↔ FaultAt engine definitions spot fault := by
  constructor
  · intro h
    rw [locatedFaults] at h
    simp only [List.mem_append, mem_locatedIds, mem_located] at h
    have hids : ∀ space, (∃ n id, (definitions.ids space)[n]? = some id ∧
        id ∈ (definitions.ids space).take n ∧
          (spot, fault) = (.id space n, .duplicateId space id)) →
        FaultAt engine definitions spot fault := by
      rintro space ⟨n, id, hid, hearlier, heq⟩
      cases heq
      exact .id hid hearlier
    rcases h with ((h | h) | h) | ⟨c, command, hcommand, hfound⟩
    · exact hids .command h
    · exact hids .control h
    · exact hids .operator h
    · exact mem_locatedCommand hcommand hfound
  · intro h
    rw [locatedFaults]
    simp only [List.mem_append]
    cases h with
    | @id space n id hid hearlier =>
      have hfound : (Spot.id space n, Fault.duplicateId space id) ∈ locatedIds definitions space :=
        mem_locatedIds.2 ⟨n, id, hid, hearlier, rfl⟩
      cases space with
      | command => exact .inl (.inl (.inl hfound))
      | control => exact .inl (.inl (.inr hfound))
      | operator => exact .inl (.inr hfound)
    | @sequenceRule c r command rule hcommand hrule hinvalid =>
      refine .inr (mem_located.2 ⟨c, command, hcommand, ?_⟩)
      rw [locatedCommand, List.mem_append, List.mem_append]
      exact .inl (.inl (mem_locatedRules.2
        ⟨r, rule, hrule, compileSyntaxRule_eq_none_iff.2 hinvalid, rfl⟩))
    | @operandRule c o r command operand rule hcommand hoperand hrule hinvalid =>
      refine .inr (mem_located.2 ⟨c, command, hcommand, ?_⟩)
      rw [locatedCommand, List.mem_append, List.mem_append]
      exact .inl (.inr (mem_located.2 ⟨o, operand, hoperand, mem_locatedRules.2
        ⟨r, rule, hrule, compileValueRule_eq_none_iff.2 hinvalid, rfl⟩⟩))
    | @argumentRule c o r command option argument rule hcommand hoption hargument hrule hinvalid =>
      refine .inr (mem_located.2 ⟨c, command, hcommand, ?_⟩)
      rw [locatedCommand, List.mem_append, List.mem_append]
      have hkept : (argumentRulesOf option)[r]? = some rule := by
        rw [argumentRulesOf, hargument]
        exact hrule
      exact .inr (mem_located.2 ⟨o, option, hoption, mem_locatedRules.2
        ⟨r, rule, hkept, compileValueRule_eq_none_iff.2 hinvalid, rfl⟩⟩)

/-! ### In which order -/

/-- The rules of a list are located in order. -/
theorem pairwise_locatedRules {compileRule : α → Option β} {spot : Nat → Spot} {fault : α → Fault}
    {rules : List α} (hspot : ∀ r s, r < s → (spot r).rank < (spot s).rank) :
    (locatedRules compileRule spot fault rules).Pairwise Precedes := by
  apply pairwise_located
  · intro rule r
    split
    · exact List.pairwise_singleton ..
    · exact .nil
  · intro rule other r s hlt first hfirst second hsecond
    obtain ⟨-, rfl⟩ : (compileRule rule).isNone = true ∧ first = (spot r, fault rule) := by
      simpa using hfirst
    obtain ⟨-, rfl⟩ : (compileRule other).isNone = true ∧ second = (spot s, fault other) := by
      simpa using hsecond
    exact hspot r s hlt

/-- The ids of a list are located in order. -/
theorem pairwise_locatedIds (space : IdSpace) :
    (locatedIds definitions space).Pairwise Precedes := by
  apply pairwise_located
  · intro id n
    split
    · exact List.pairwise_singleton ..
    · exact .nil
  · intro id other m n hlt first hfirst second hsecond
    obtain ⟨-, rfl⟩ : _ ∧ first = (Spot.id space m, Fault.duplicateId space id) := by
      simpa using hfirst
    obtain ⟨-, rfl⟩ : _ ∧ second = (Spot.id space n, Fault.duplicateId space other) := by
      simpa using hsecond
    simp [Precedes, Spot.rank, List.cons_lt_cons_iff, hlt]

section Command

variable {command : CommandDef} {c : Nat} {entry : Spot × Fault}

/-- What is located among the rules about sequences is such a rule. -/
theorem spot_of_mem_locatedSequence (h : entry ∈ locatedSequence engine command c) :
    ∃ r, entry.1 = .sequenceRule c r := by
  obtain ⟨r, rule, -, -, rfl⟩ := mem_locatedRules.1 h
  exact ⟨r, rfl⟩

/-- What is located in an operand is one of its rules. -/
theorem spot_of_mem_locatedOperand {operand : OperandDef} {o : Nat}
    (h : entry ∈ locatedOperand engine command c operand o) :
    ∃ r, entry.1 = .operandRule c o r := by
  obtain ⟨r, rule, -, -, rfl⟩ := mem_locatedRules.1 h
  exact ⟨r, rfl⟩

/-- What is located in an option is a rule about its argument. -/
theorem spot_of_mem_locatedArgument {option : OptionDef} {o : Nat}
    (h : entry ∈ locatedArgument engine command c option o) :
    ∃ r, entry.1 = .argumentRule c o r := by
  obtain ⟨r, rule, -, -, rfl⟩ := mem_locatedRules.1 h
  exact ⟨r, rfl⟩

/-- The rules of all operands are located in order. -/
theorem pairwise_locatedOperands :
    (located (locatedOperand engine command c) command.operands).Pairwise Precedes := by
  apply pairwise_located
  · intro operand o
    apply pairwise_locatedRules
    intro r s hlt
    simp [Spot.rank, List.cons_lt_cons_iff, hlt]
  · intro operand other o o' hlt first hfirst second hsecond
    obtain ⟨r, hr⟩ := spot_of_mem_locatedOperand hfirst
    obtain ⟨s, hs⟩ := spot_of_mem_locatedOperand hsecond
    simp [Precedes, hr, hs, Spot.rank, List.cons_lt_cons_iff, hlt]

/-- The rules of all arguments are located in order. -/
theorem pairwise_locatedArguments :
    (located (locatedArgument engine command c) command.options).Pairwise Precedes := by
  apply pairwise_located
  · intro option o
    apply pairwise_locatedRules
    intro r s hlt
    simp [Spot.rank, List.cons_lt_cons_iff, hlt]
  · intro option other o o' hlt first hfirst second hsecond
    obtain ⟨r, hr⟩ := spot_of_mem_locatedArgument hfirst
    obtain ⟨s, hs⟩ := spot_of_mem_locatedArgument hsecond
    simp [Precedes, hr, hs, Spot.rank, List.cons_lt_cons_iff, hlt]

/-- Within a command the rules about sequences come first, then those of operands, then those of
arguments. -/
theorem pairwise_locatedCommand (command : CommandDef) (c : Nat) :
    (locatedCommand engine command c).Pairwise Precedes := by
  have hsequence : (locatedSequence engine command c).Pairwise Precedes := by
    apply pairwise_locatedRules
    intro r s hlt
    simp [Spot.rank, List.cons_lt_cons_iff, hlt]
  rw [locatedCommand, List.pairwise_append, List.pairwise_append]
  refine ⟨⟨hsequence, pairwise_locatedOperands, ?_⟩, pairwise_locatedArguments, ?_⟩
  · intro first hfirst second hsecond
    obtain ⟨r, hr⟩ := spot_of_mem_locatedSequence hfirst
    obtain ⟨o, operand, -, hfound⟩ := mem_located.1 hsecond
    obtain ⟨s, hs⟩ := spot_of_mem_locatedOperand hfound
    simp [Precedes, hr, hs, Spot.rank, List.cons_lt_cons_iff]
  · intro first hfirst second hsecond
    obtain ⟨o, option, -, hfound⟩ := mem_located.1 hsecond
    obtain ⟨s, hs⟩ := spot_of_mem_locatedArgument hfound
    rcases List.mem_append.1 hfirst with hfirst | hfirst
    · obtain ⟨r, hr⟩ := spot_of_mem_locatedSequence hfirst
      simp [Precedes, hr, hs, Spot.rank, List.cons_lt_cons_iff]
    · obtain ⟨o', operand, -, hfound⟩ := mem_located.1 hfirst
      obtain ⟨r, hr⟩ := spot_of_mem_locatedOperand hfound
      simp [Precedes, hr, hs, Spot.rank, List.cons_lt_cons_iff]

/-- What is located in a command ranks behind the ids, by the number of the command. -/
theorem rank_of_mem_locatedCommand (h : entry ∈ locatedCommand engine command c) :
    ∃ rest, entry.1.rank = 3 :: c :: rest := by
  rw [locatedCommand, List.mem_append, List.mem_append, mem_located, mem_located] at h
  rcases h with (h | ⟨o, operand, -, h⟩) | ⟨o, option, -, h⟩
  · obtain ⟨r, hr⟩ := spot_of_mem_locatedSequence h
    rw [hr]
    exact ⟨_, rfl⟩
  · obtain ⟨r, hr⟩ := spot_of_mem_locatedOperand h
    rw [hr]
    exact ⟨_, rfl⟩
  · obtain ⟨r, hr⟩ := spot_of_mem_locatedArgument h
    rw [hr]
    exact ⟨_, rfl⟩

end Command

/-- What is located among ids ranks by the list that they are in. -/
theorem rank_of_mem_locatedIds {space : IdSpace} {entry : Spot × Fault}
    (h : entry ∈ locatedIds definitions space) :
    ∃ rest, entry.1.rank = Spot.spaceRank space :: rest := by
  obtain ⟨n, id, -, -, rfl⟩ := mem_locatedIds.1 h
  exact ⟨_, rfl⟩

/-- The faults are reported in the order of the document. -/
theorem pairwise_locatedFaults :
    (locatedFaults engine definitions).Pairwise Precedes := by
  have hspaces : ∀ {space other : IdSpace}, Spot.spaceRank space < Spot.spaceRank other →
      ∀ first ∈ locatedIds definitions space, ∀ second ∈ locatedIds definitions other,
        Precedes first second := by
    intro space other hlt first hfirst second hsecond
    obtain ⟨rest, hrest⟩ := rank_of_mem_locatedIds hfirst
    obtain ⟨more, hmore⟩ := rank_of_mem_locatedIds hsecond
    rw [Precedes, hrest, hmore, List.cons_lt_cons_iff]
    exact .inl hlt
  have hrules : (located (locatedCommand engine) definitions.commands).Pairwise Precedes := by
    apply pairwise_located pairwise_locatedCommand
    intro command other m n hlt first hfirst second hsecond
    obtain ⟨rest, hrest⟩ := rank_of_mem_locatedCommand hfirst
    obtain ⟨more, hmore⟩ := rank_of_mem_locatedCommand hsecond
    simp [Precedes, hrest, hmore, List.cons_lt_cons_iff, hlt]
  have hbefore : ∀ space, ∀ first ∈ locatedIds definitions space,
      ∀ second ∈ located (locatedCommand engine) definitions.commands, Precedes first second := by
    intro space first hfirst second hsecond
    obtain ⟨rest, hrest⟩ := rank_of_mem_locatedIds hfirst
    obtain ⟨c, command, -, hfound⟩ := mem_located.1 hsecond
    obtain ⟨more, hmore⟩ := rank_of_mem_locatedCommand hfound
    rw [Precedes, hrest, hmore, List.cons_lt_cons_iff]
    cases space <;> exact .inl (by decide)
  simp only [locatedFaults, List.pairwise_append, List.mem_append, or_imp, forall_and]
  exact ⟨⟨⟨pairwise_locatedIds _, pairwise_locatedIds _, hspaces (by decide)⟩,
    pairwise_locatedIds _, hspaces (by decide), hspaces (by decide)⟩, hrules,
    ⟨hbefore _, hbefore _⟩, hbefore _⟩

/-! ## What building gives -/

/-- The faults account for all places of definitions that have one: each is reported once, under
the code of its place, in the order of the document. -/
structure Itemized (engine : Engine) (definitions : Definitions) (faults : List Fault)
    (entries : Located) : Prop where
  faults_eq : entries.map Prod.snd = faults
  mem_iff : ∀ spot fault, (spot, fault) ∈ entries ↔ FaultAt engine definitions spot fault
  in_order : entries.Pairwise Precedes
  code_eq : ∀ entry ∈ entries, entry.2.report.code = entry.1.code

/-- The located faults itemize the defects. -/
theorem itemized_defects :
    Itemized engine definitions (defects engine definitions) (locatedFaults engine definitions) :=
  ⟨map_snd_locatedFaults, fun _ _ => mem_locatedFaults, pairwise_locatedFaults,
    fun _ hentry => (mem_locatedFaults.1 hentry).code_eq⟩

/-- Definitions with distinct ids whose patterns are all valid. -/
structure Buildable (engine : Engine) (definitions : Definitions) : Prop where
  ids_distinct : ∀ space, (definitions.ids space).Nodup
  sequence_valid : ∀ command ∈ definitions.commands, ∀ rule ∈ command.operandSyntaxRules,
    (engine (wholeSequence rule.regexPattern)).isSome = true
  operand_valid : ∀ command ∈ definitions.commands, ∀ operand ∈ command.operands,
    ∀ rule ∈ operand.validations, (engine rule.regex).isSome = true
  argument_valid : ∀ command ∈ definitions.commands, ∀ option ∈ command.options,
    ∀ argument ∈ option.argument, ∀ rule ∈ argument.validations,
      (engine rule.regex).isSome = true

/-- No id is reported when all are different. -/
theorem duplicateDefects_eq_nil_iff {space : IdSpace} {ids : List String} :
    duplicateDefects space ids = [] ↔ ids.Nodup := by
  rw [duplicateDefects, List.map_eq_nil_iff, repeatedIds_eq_nil_iff]
  exact and_iff_left fun _ _ => List.not_mem_nil

/-- There are no faults exactly when catalogs can be built. -/
theorem defects_eq_nil_iff : defects engine definitions = [] ↔ Buildable engine definitions := by
  simp only [defects, List.append_eq_nil_iff, List.flatMap_eq_nil_iff, commandDefects,
    sequenceDefects_eq_nil_iff, valueDefects_eq_nil_iff, duplicateDefects_eq_nil_iff,
    compileSyntaxRule, compileValueRule, Option.isSome_map]
  constructor
  · rintro ⟨⟨⟨hcommands, hcontrols⟩, hoperators⟩, hrules⟩
    refine ⟨?_, fun command hmem => (hrules command hmem).1.1,
      fun command hmem => (hrules command hmem).1.2, ?_⟩
    · intro space
      cases space with
      | command => exact hcommands
      | control => exact hcontrols
      | operator => exact hoperators
    · intro command hmem option hoption argument hargument rule hrule
      refine (hrules command hmem).2 option hoption rule ?_
      rw [argumentRulesOf, Option.mem_def.1 hargument]
      exact hrule
  · intro h
    refine ⟨⟨⟨h.ids_distinct .command, h.ids_distinct .control⟩, h.ids_distinct .operator⟩,
      fun command hmem => ⟨⟨h.sequence_valid command hmem, h.operand_valid command hmem⟩, ?_⟩⟩
    intro option hoption rule hrule
    rw [argumentRulesOf] at hrule
    cases hargument : option.argument with
    | none => simp [hargument] at hrule
    | some argument =>
      rw [hargument] at hrule
      exact h.argument_valid command hmem option hoption argument hargument rule hrule

/-- A catalog that gives the definitions back it was built from: an id leads to the one definition
that has it, and the rules of a command about sequences are compiled one by one. -/
structure Answers (engine : Engine) (definitions : Definitions) (catalog : Catalog) : Prop where
  definitions_eq : catalog.definitions = definitions
  command_iff : ∀ id command, catalog.command? id = some command ↔
    command ∈ definitions.commands ∧ command.id = id
  control_iff : ∀ id control, catalog.control? id = some control ↔
    control ∈ definitions.controls ∧ control.id = id
  operator_iff : ∀ id operator, catalog.operator? id = some operator ↔
    operator ∈ definitions.operators ∧ operator.id = id
  sequence_rules : ∀ command ∈ definitions.commands,
    command.operandSyntaxRules.map (compileSyntaxRule engine) =
      (catalog.sequenceRulesOf command.id).map some

/-- Valid rules are compiled one by one. -/
theorem map_eq_map_some_filterMap {f : α → Option β} {items : List α}
    (h : ∀ item ∈ items, (f item).isSome = true) :
    items.map f = (items.filterMap f).map some := by
  induction items with
  | nil => rfl
  | cons first rest ih =>
    obtain ⟨result, hresult⟩ := Option.isSome_iff_exists.1 (h first List.mem_cons_self)
    rw [List.filterMap_cons, List.map_cons, hresult,
      ih fun item hmem => h item (List.mem_cons_of_mem _ hmem)]
    rfl

/-- The catalog of definitions without defects. -/
theorem loaded_compile (h : Buildable engine definitions) :
    Loaded engine (compile engine definitions) :=
  ⟨.of_defects (defects_eq_nil_iff.2 h), rfl⟩

/-- What is compiled of definitions that can be built answers as they say. -/
theorem answers_compile (h : Buildable engine definitions) :
    Answers engine definitions (compile engine definitions) where
  definitions_eq := rfl
  command_iff _ _ := find?_eq_some_iff_of_nodup (h.ids_distinct .command)
  control_iff _ _ := find?_eq_some_iff_of_nodup (h.ids_distinct .control)
  operator_iff _ _ := find?_eq_some_iff_of_nodup (h.ids_distinct .operator)
  sequence_rules command hmem := by
    rw [(loaded_compile h).sequenceRulesOf_eq hmem]
    refine map_eq_map_some_filterMap fun rule hrule => ?_
    rw [compileSyntaxRule, Option.isSome_map]
    exact h.sequence_valid command hmem rule hrule

/-- What is built: a catalog without defects, or no catalog and all defects. -/
theorem build_cases (engine : Engine) (definitions : Definitions) :
    (Buildable engine definitions.normalize ∧
      build engine definitions = .ok (compile engine definitions.normalize)) ∨
    (¬Buildable engine definitions.normalize ∧
      build engine definitions = .error (defects engine definitions.normalize)) := by
  rw [build, ← defects_eq_nil_iff]
  cases hdefects : defects engine definitions.normalize with
  | nil => exact .inl ⟨rfl, rfl⟩
  | cons first rest => exact .inr ⟨List.cons_ne_nil _ _, rfl⟩

/-- The ids of commands that definitions are normalized to: one that is missing or empty is the
shell command. -/
theorem ids_normalize : definitions.normalize.ids .command =
    definitions.commands.map fun command =>
      if command.givenId.getD "" = "" then command.shellCommand else command.givenId.getD "" := by
  rw [Definitions.ids, Definitions.normalize, List.map_map]
  refine List.map_congr_left fun command _ => ?_
  rw [Function.comp_apply, CommandDef.normalize]
  cases hid : command.givenId with
  | none => simp [CommandDef.id]
  | some id => by_cases hempty : id = "" <;> simp [CommandDef.id, hid, hempty]

/-- Of positions noted under ids and of a search by id, both lead to the same definitions. -/
theorem Assembly.lookups_ofCatalog
    (hdistinct : ∀ space, (catalog.definitions.ids space).Nodup) (id : String) :
    (Assembly.ofCatalog catalog).command? id = catalog.command? id ∧
      (Assembly.ofCatalog catalog).control? id = catalog.control? id ∧
      (Assembly.ofCatalog catalog).operator? id = catalog.operator? id :=
  ⟨bind_lookup_ofIds (hdistinct .command), bind_lookup_ofIds (hdistinct .control),
    bind_lookup_ofIds (hdistinct .operator)⟩

/-- Building gives a catalog exactly for definitions with distinct ids and valid patterns, which
then answers with them; otherwise it gives the faults of all places in order.  One pass over the
definitions gives the same, with positions that lead to the same definitions. -/
theorem build_decides (engine : Engine) (definitions : Definitions) :
    (definitions.normalize.ids .command = definitions.commands.map fun command =>
      if command.givenId.getD "" = "" then command.shellCommand else command.givenId.getD "") ∧
    ((∃ catalog, build engine definitions = .ok catalog) ↔
      Buildable engine definitions.normalize) ∧
    (∀ faults, build engine definitions = .error faults →
      ∃ entries, Itemized engine definitions.normalize faults entries) ∧
    (∀ catalog, build engine definitions = .ok catalog →
      Answers engine definitions.normalize catalog ∧
      ∀ id, (Assembly.ofCatalog catalog).command? id = catalog.command? id ∧
        (Assembly.ofCatalog catalog).control? id = catalog.control? id ∧
        (Assembly.ofCatalog catalog).operator? id = catalog.operator? id) ∧
    assemble engine definitions = (build engine definitions).map Assembly.ofCatalog := by
  refine ⟨ids_normalize, ?_, ?_, ?_, assemble_eq definitions⟩
  · rcases build_cases engine definitions with ⟨hbuildable, hbuild⟩ | ⟨hdefective, hbuild⟩
    · exact iff_of_true ⟨_, hbuild⟩ hbuildable
    · refine iff_of_false ?_ hdefective
      rintro ⟨catalog, hcatalog⟩
      simp [hbuild] at hcatalog
  · intro faults hfaults
    rcases build_cases engine definitions with ⟨-, hbuild⟩ | ⟨-, hbuild⟩
    · simp [hbuild] at hfaults
    · obtain rfl := Except.error.inj (hbuild.symm.trans hfaults)
      exact ⟨_, itemized_defects⟩
  · intro catalog hcatalog
    rcases build_cases engine definitions with ⟨hbuildable, hbuild⟩ | ⟨-, hbuild⟩
    · obtain rfl := Except.ok.inj (hbuild.symm.trans hcatalog)
      exact ⟨answers_compile hbuildable, Assembly.lookups_ofCatalog hbuildable.ids_distinct⟩
    · simp [hbuild] at hcatalog

end ShellComposer.Catalog
