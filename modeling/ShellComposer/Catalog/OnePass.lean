import ShellComposer.Catalog.Compiled

/-!
# Catalogs built in one pass

A catalog is the list of its definitions, searched by id, once all of them have been looked through
for defects.  Here a catalog is built in one pass instead: every id is noted with the position of
its definition and every rule is compiled as it is met, next to one list of faults that all steps
add to.  Defective definitions are gone through like all others.

Main results:

- Abbreviations `Reporting` and `Index`: something done beside a list of faults, positions by id.
- Structure `Assembly`: a catalog with the positions of its definitions.
- Definition `assemble`: the assembly of some definitions, or all their defects.
-/

namespace ShellComposer.Catalog

open Pattern

/-! ## Reporting faults -/

/-- Something done beside a list of faults, which it may add to. -/
abbrev Reporting (α : Type) : Type :=
  StateM (List Fault) α

/-- Add a fault to the list. -/
def report (fault : Fault) : Reporting Unit :=
  modify fun faults => faults ++ [fault]

/-! ## Positions -/

/-- Positions under ids, the one noted last first. -/
abbrev Index := List (String × Nat)

/-- Note an id with its position, and report an id that was noted before. -/
def noteId (space : IdSpace) (index : Index) (entry : String × Nat) : Reporting Index := do
  if (index.lookup entry.1).isSome then report (.duplicateId space entry.1)
  return entry :: index

/-- Note the ids of a list of definitions. -/
def noteIds (space : IdSpace) (ids : List String) : Reporting Index :=
  ids.zipIdx.foldlM (noteId space) []

/-! ## Rules -/

/-- Compile a rule into those compiled before, or report it. -/
def gatherRule {α β : Type} (compileRule : α → Option β) (fault : α → Fault)
    (compiled : List β) (rule : α) : Reporting (List β) :=
  match compileRule rule with
  | some done => return compiled ++ [done]
  | none => do
    report (fault rule)
    return compiled

/-- Compile some rules one after the other. -/
def gatherRules {α β : Type} (compileRule : α → Option β) (fault : α → Fault) (rules : List α) :
    Reporting (List β) :=
  rules.foldlM (gatherRule compileRule fault) []

/-- Compile the rules about some value. -/
def gatherValueRules (engine : Engine) (owner : RuleOwner) (rules : List ValueRule) :
    Reporting (List CompiledValueRule) :=
  gatherRules (compileValueRule engine) (fun rule => .invalidValueRule rule.regex owner) rules

/-- Compile the rules about the sequence of operands of a command. -/
def gatherSequenceRules (engine : Engine) (command : CommandDef) :
    Reporting (String × List CompiledSyntaxRule) := do
  let rules ← gatherRules (compileSyntaxRule engine)
    (fun rule => .invalidSyntaxRule rule.regexPattern command.id) command.operandSyntaxRules
  return (command.id, rules)

/-- Compile the rules about the values of an operand. -/
def gatherOperand (engine : Engine) (command : CommandDef) (operand : OperandDef) :
    Reporting ((String × String) × List CompiledValueRule) := do
  let rules ← gatherValueRules engine (.operand operand.id command.id) operand.validations
  return ((command.id, operand.id), rules)

/-- Compile the rules about the argument of an option; an option without one is passed over. -/
def gatherOption (engine : Engine) (command : CommandDef) (option : OptionDef) :
    Reporting (List ((String × String) × List CompiledValueRule)) :=
  match option.argument with
  | none => return []
  | some argument => do
    let rules ← gatherValueRules engine (.option option.flag command.id) argument.validations
    return [((command.id, option.flag), rules)]

/-- Compile all rules of a command into those of the catalog so far. -/
def gatherCommand (engine : Engine) (catalog : Catalog) (command : CommandDef) :
    Reporting Catalog := do
  let sequence ← gatherSequenceRules engine command
  let operands ← command.operands.mapM (gatherOperand engine command)
  let arguments ← command.options.mapM (gatherOption engine command)
  return { catalog with
    sequenceRules := catalog.sequenceRules ++ [sequence]
    operandRules := catalog.operandRules ++ operands
    argumentRules := catalog.argumentRules ++ arguments.flatten }

/-! ## The assembly -/

/-- A catalog with the positions of its definitions. -/
structure Assembly where
  catalog : Catalog
  commands : Index
  controls : Index
  operators : Index

/-- Go through definitions whose commands all have ids. -/
def gather (engine : Engine) (definitions : Definitions) : Reporting Assembly := do
  let commands ← noteIds .command (definitions.commands.map CommandDef.id)
  let controls ← noteIds .control (definitions.controls.map ControlDef.id)
  let operators ← noteIds .operator (definitions.operators.map OperatorDef.id)
  let catalog ← definitions.commands.foldlM (gatherCommand engine) ⟨definitions, [], [], []⟩
  return ⟨catalog, commands, controls, operators⟩

/-- The assembly of some definitions, or all faults that were reported. -/
def assemble (engine : Engine) (definitions : Definitions) : Except (List Fault) Assembly :=
  match (gather engine definitions.normalize).run [] with
  | (assembly, []) => .ok assembly
  | (_, faults) => .error faults

namespace Assembly

/-- The command at the position noted for an id. -/
def command? (assembly : Assembly) (id : String) : Option CommandDef :=
  (assembly.commands.lookup id).bind fun position =>
    assembly.catalog.definitions.commands[position]?

/-- The control at the position noted for an id. -/
def control? (assembly : Assembly) (id : String) : Option ControlDef :=
  (assembly.controls.lookup id).bind fun position =>
    assembly.catalog.definitions.controls[position]?

/-- The operator at the position noted for an id. -/
def operator? (assembly : Assembly) (id : String) : Option OperatorDef :=
  (assembly.operators.lookup id).bind fun position =>
    assembly.catalog.definitions.operators[position]?

end Assembly

end ShellComposer.Catalog
