import ShellComposer.Block.Kind
import ShellComposer.IdMap

/-!
# Faults

Whatever can go wrong has a cause, and a cause has a report: a code, the phase it belongs to, a
message and sometimes the block it concerns.  What a learner can put right is no fault but a
violation.

Main results:

- Structure `Report`: a fault as it is shown.
- Definition `Fault`: the causes.
- Definition `Fault.report`: the report of a cause.
- Theorem `Fault.bind_eq_ok_iff`: when two things done one after the other succeed.
- Theorem `Fault.run_bind`: what two things done to a state come to.
-/

namespace ShellComposer

open Json

/-! ## Reports -/

/-- The phases of the work. -/
inductive Phase where
  | catalog
  | graph
  | reaction
  | serialize
deriving DecidableEq, Repr

/-- The name of a phase in reports. -/
def Phase.name : Phase → String
  | catalog => "Catalog"
  | graph => "Graph"
  | reaction => "Reaction"
  | serialize => "Serialize"

/-- Whether reports of a phase may name a block.  The catalog knows no blocks, and a reaction
concerns all of them. -/
def Phase.concernsBlocks : Phase → Bool
  | catalog => false
  | graph => true
  | reaction => false
  | serialize => true

/-- A fault as it is shown. -/
structure Report where
  code : String
  phase : Phase
  message : String
  block : Option BlockId
deriving DecidableEq, Repr

namespace Report

/-- A report of a phase; a block is kept only where the phase concerns blocks. -/
def make (phase : Phase) (code message : String) (block : Option BlockId) : Report :=
  ⟨code, phase, message, if phase.concernsBlocks then block else none⟩

/-- The report in one line. -/
def line (report : Report) : String :=
  let suffix := match report.block with
    | some id => s!" (block '{id}')"
    | none => ""
  "[" ++ report.phase.name ++ ":" ++ report.code ++ "] " ++ report.message ++ suffix

end Report

/-! ## Causes -/

/-- The lists of a catalog in which ids are unique. -/
inductive IdSpace where
  | command
  | control
  | operator
deriving DecidableEq, Repr

/-- The word for what a list defines. -/
def IdSpace.word : IdSpace → String
  | command => "command"
  | control => "control"
  | operator => "operator"

/-- What a value rule belongs to. -/
inductive RuleOwner where
  | operand (operand command : String)
  | option (flag command : String)
deriving DecidableEq, Repr

/-- The owner of a rule in messages. -/
def RuleOwner.text : RuleOwner → String
  | operand id command => s!"operand '{id}' of command '{command}'"
  | option flag command => s!"option '{flag}' of command '{command}'"

/-- The causes of faults. -/
inductive Fault where
  | malformedCatalog (why : Misread)
  | malformedSettings (why : Misread)
  | invalidSyntaxRule (pattern command : String)
  | invalidValueRule (pattern : String) (owner : RuleOwner)
  | duplicateId (space : IdSpace) (id : String)
  | malformedKind (why : Misread)
  | unknownKind (kind : BlockKind)
  | invalidId (shown : String)
  | unknownBlock (id : BlockId)
  | lockedRoot (root : BlockId)
  | secondScript (root : BlockId)
  | incompatible (expected : Tag) (provided : Option Tag) (child : BlockId)
  | noNextConnection (previous : BlockId)
  | insideItself (child : BlockId)
  | unknownSlot (slot : String) (parent : BlockId)
  | unsettled (bound : Nat)
  | noMeaning (id : BlockId)
  | noRoot
  | rootNotScript (root : BlockId)
deriving DecidableEq, Repr

namespace Fault

/-- What is said about a pattern that is not valid, in place of details. -/
def patternDetail : String := "<regex error>"

/-- The report of a cause. -/
def report : Fault → Report
  | malformedCatalog why =>
    .make .catalog "C001" ("Failed to parse catalog JSON: " ++ why.message) none
  | malformedSettings why =>
    .make .catalog "C001" ("Failed to parse engine config JSON: " ++ why.message) none
  | invalidSyntaxRule pattern command =>
    .make .catalog "C002"
      (s!"Invalid syntax rule '{pattern}' on command '{command}': " ++ patternDetail) none
  | invalidValueRule pattern owner =>
    .make .catalog "C003"
      (s!"Invalid validation regex '{pattern}' on " ++ owner.text ++ ": " ++ patternDetail) none
  | duplicateId space id =>
    .make .catalog "C004" ("Duplicate " ++ space.word ++ s!" id '{id}'") none
  | malformedKind why => .make .graph "G001" ("Invalid block kind JSON: " ++ why.message) none
  | unknownKind kind => .make .graph "G001" ("Unknown block kind " ++ kind.inspect) none
  | invalidId shown => .make .graph "G002" s!"Invalid block id: {shown}" none
  | unknownBlock id => .make .graph "G002" s!"Unknown block '{id}'" (some id)
  | lockedRoot root =>
    .make .graph "G003" "The Script root cannot be moved or deleted" (some root)
  | secondScript root =>
    .make .graph "G003" "A workspace holds exactly one Script block" (some root)
  | incompatible expected provided child =>
    let shown := match provided with
      | some tag => tag.text
      | none => "nothing"
    .make .graph "G004"
      ("Connection expects '" ++ expected.text ++ s!"' but block provides '{shown}'") (some child)
  | noNextConnection previous =>
    .make .graph "G004" "Block has no next connection" (some previous)
  | insideItself child =>
    .make .graph "G005" "Connection would place a block inside itself" (some child)
  | unknownSlot slot parent =>
    .make .graph "G006" s!"Block has no slot named '{slot}'" (some parent)
  | unsettled bound =>
    .make .reaction "R001" s!"Autofix did not settle within {bound} cycles" none
  | noMeaning id =>
    .make .serialize "S001" s!"Block '{id}' has no semantic metadata" (some id)
  | noRoot => .make .serialize "S002" "Script root not found" none
  | rootNotScript root =>
    .make .serialize "S002" "Root block is not a Script" (some root)

/-! ## What may fail -/

/-- Two things done one after the other succeed when the first succeeds and the second succeeds with
its result. -/
theorem bind_eq_ok_iff {α β : Type} {first : Except Fault α} {second : α → Except Fault β}
    {result : β} :
    (first >>= second) = .ok result ↔ ∃ value, first = .ok value ∧ second value = .ok result := by
  cases first with
  | error fault => simp [bind, Except.bind]
  | ok value => simp [bind, Except.bind]

/-- What is made of a result succeeds when there is a result. -/
theorem map_eq_ok_iff {α β : Type} {given : Except Fault α} {f : α → β} {result : β} :
    given.map f = .ok result ↔ ∃ value, given = .ok value ∧ f value = result := by
  cases given with
  | error fault => simp [Except.map]
  | ok value => simp [Except.map]

/-- Of two things done to a state one after the other, the second is done only if the first
succeeds; what the first did stays done in any case. -/
theorem run_bind {State α β : Type} (first : ExceptT Fault (StateM State) α)
    (second : α → ExceptT Fault (StateM State) β) (state : State) :
    (first >>= second).run state = match first.run state with
      | (.ok value, state') => (second value).run state'
      | (.error fault, state') => (.error fault, state') := by
  simp only [ExceptT.run, bind, ExceptT.bind, ExceptT.mk, StateT.bind]
  rcases first state with ⟨result, state'⟩
  cases result <;> rfl

end Fault

end ShellComposer
