import ShellComposer.Decimal.Shortest
import ShellComposer.Workspace

/-!
# Sessions

A session lets a web page work on a workspace.  Numbers of the page are floating-point numbers, so
block ids have to be checked, and kinds of blocks arrive as JSON texts.  Every change is answered
by a JSON object that says what came of it; unread notices are handed out with the next success.

Main results:

- Definition `blockIdOf`: the block id that a number stands for.
- Definition `Session.open?`: a session on a catalog and settings given as JSON texts.
- Definitions `Session.create`, `setField`, `attach`, `insertAfter`, `detach`, `remove`, `compile`.
- Definition `catalogReports`: what is wrong with a catalog.
-/

namespace ShellComposer

open Json Decimal

/-! ## Ids -/

/-- The largest whole number up to which floating-point numbers keep every number apart from its
neighbours, one less than the 53rd power of two. -/
def lastSafeId : Nat := 9007199254740991

/-- The block id that a number stands for: a whole number that is neither negative nor so large that
its neighbours cannot be told apart. -/
def blockIdOf (number : Double) : Except Fault BlockId :=
  match number.natural? with
  | some id => if id ≤ lastSafeId then .ok id else .error (.invalidId number.text)
  | none => .error (.invalidId number.text)

/-! ## Answers -/

/-- A report as a JSON object. -/
def Report.encode (report : Report) : Value :=
  .object [("code", .string report.code), ("phase", .string report.phase.name),
    ("message", .string report.message), ("blockId", .ofOption .natural report.block)]

/-- What came of a change. -/
inductive ChangeResult where
  | success (blocks : List BlockId) (notices : List Notice) (diagnostics : List Diagnostic)
    (blocked : Bool)
  | failure (reports : List Report)

/-- The object for something that failed. -/
def encodeFailure (reports : List Report) : Value :=
  .object [("status", .string "errors"), ("errors", .ofList Report.encode reports)]

/-- What came of a change, as a JSON object. -/
def ChangeResult.encode : ChangeResult → Value
  | success blocks notices diagnostics blocked =>
    .object [("status", .string "success"), ("blockIds", .ofList .natural blocks),
      ("notices", .ofList Notice.encode notices),
      ("diagnostics", .ofList Diagnostic.encode diagnostics), ("blocked", .bool blocked)]
  | failure reports => encodeFailure reports

/-- What came of compiling, as a JSON object. -/
def encodeCompiled : Except Fault Request → Value
  | .ok request => .object [("status", .string "success"), ("request", request.encode)]
  | .error fault => encodeFailure [fault.report]

/-! ## Sessions -/

/-- A workspace that a web page works on. -/
structure Session where
  workspace : Workspace

namespace Session

/-- The reports of some faults. -/
def reportsOf (faults : List Fault) : List Report :=
  faults.map Fault.report

/-- The settings in a text, or the standard ones where there is no text. -/
def settingsOf : Option String → Except (List Report) Settings
  | none => .ok .standard
  | some text =>
    match Settings.ofText text with
    | .ok settings => .ok settings
    | .error why => .error (reportsOf [.malformedSettings why])

/-- A session on the catalog and the settings in two texts, each of which may be missing. -/
def open? (engine : Pattern.Engine) (catalog settings : Option String) :
    Except (List Report) Session := do
  let catalog ← (Catalog.loadOrOffline engine catalog).mapError reportsOf
  return ⟨.new catalog (← settingsOf settings)⟩

/-- What came of a change that answers with block ids.  Notices are handed out only with a success.
-/
def settle (answer : Answer (List BlockId)) : ChangeResult × Session :=
  let w := answer.workspace
  match answer.result with
  | .ok blocks =>
    let (notices, rest) := w.drainNotices
    (.success blocks notices w.diagnostics w.isBlocked, ⟨rest⟩)
  | .error fault => (.failure [fault.report], ⟨w⟩)

/-- What comes of a change that needs something that may be wrong. -/
def change {α : Type} (s : Session) (given : Except Fault α)
    (apply : α → Answer (List BlockId)) : ChangeResult × Session :=
  match given with
  | .ok value => settle (apply value)
  | .error fault => (.failure [fault.report], s)

/-- Two ids; if both are wrong, the first is reported. -/
def bothIds (first second : Double) : Except Fault (BlockId × BlockId) := do
  let a ← blockIdOf first
  let b ← blockIdOf second
  return (a, b)

/-- Make a block of the kind in a text. -/
def create (s : Session) (kindText : String) : ChangeResult × Session :=
  s.change ((BlockKind.ofText kindText).mapError .malformedKind) fun kind =>
    (s.workspace.create kind).map fun id => [id]

/-- Set a field of a block. -/
def setField (s : Session) (id : Double) (name value : String) : ChangeResult × Session :=
  s.change (blockIdOf id) fun id => (s.workspace.setField id name value).map fun _ => []

/-- Plug a block into a slot. -/
def attach (s : Session) (parent : Double) (slot : String) (child : Double) :
    ChangeResult × Session :=
  s.change (bothIds parent child) fun (parent, child) =>
    (s.workspace.attach parent slot child).map fun _ => []

/-- Plug a block behind another block. -/
def insertAfter (s : Session) (previous child : Double) : ChangeResult × Session :=
  s.change (bothIds previous child) fun (previous, child) =>
    (s.workspace.insertAfter previous child).map fun _ => []

/-- Take a block off. -/
def detach (s : Session) (id : Double) (heal : Bool) : ChangeResult × Session :=
  s.change (blockIdOf id) fun id => (s.workspace.detach id heal).map fun _ => []

/-- Delete a block and what its slots hold. -/
def remove (s : Session) (id : Double) : ChangeResult × Session :=
  s.change (blockIdOf id) fun id => s.workspace.remove id

/-- The script tree with the level it is run in. -/
def compile (s : Session) (level : String) : Except Fault Request :=
  s.workspace.compile level

end Session

/-- What is wrong with the catalog in a text: nothing when it can be loaded. -/
def catalogReports (engine : Pattern.Engine) (text : String) : List Report :=
  match Catalog.load engine text with
  | .ok _ => []
  | .error faults => Session.reportsOf faults

end ShellComposer
