import ShellComposer.Proofs.Following
import ShellComposer.Proofs.Logging

/-!
# Notices are handed out once

Repairs give notices in the middle of a reaction, which may run out of cycles, and a session hands
them out with the next success.  Whatever calls a page makes, the notices that it was handed, one
answer after the other, and then those that are still unread are the notices that repairs put on the
log, in the order in which they were put there.

Main results:

- Definitions `Mutation.given`, `SessionCall.given`: what the reaction to a change or a call puts on
  the log.
- Inductive type `PageCall` with `PageCall.apply`: the calls of a page, questions among them.
- Theorem `Session.notices_apply`: one call hands out no notice twice and loses none.
- Theorem `Session.notices_run`: so does a run of calls.
- Theorem `Session.handed_out_once`: so in a session the notices handed out and those unread are
  those that were put on the log.
-/

namespace ShellComposer

open BlockGraph Catalog Decimal

/-! ## Changes -/

/-- What the reaction to a change puts on the log: nothing if no reaction begins. -/
def Mutation.given (w : Workspace) (mutation : Mutation) : List Notice :=
  match mutation.begun w with
  | none => []
  | some w' => w'.given

namespace Workspace

variable {w w' : Workspace}

/-- A change adds to the unread notices what its reaction puts on the log, whatever it answers. -/
theorem notices_answer (h : w.Tended) (mutation : Mutation) :
    (mutation.answer w).workspace.notices = w.notices ++ mutation.given w := by
  unfold Mutation.given
  rcases w.begun_cases mutation with ⟨hnone, fault, hrun⟩ | ⟨w', ids, hbegun, hchange, hrun⟩
  · rw [hnone, hrun, List.append_nil]
  · rw [hbegun, hrun, ← hchange.notices]
    exact notices_react (hchange.tended h).sound

end Workspace

/-! ## Calls -/

/-- A call of a page: a change, or one of the questions, which change nothing. -/
inductive PageCall where
  | change (call : SessionCall)
  | rootId
  | diagnostics
  | isBlocked
  | compile (level : String)

/-- What a page is answered. -/
inductive PageAnswer where
  | changed (result : ChangeResult)
  | block (id : BlockId)
  | diagnosed (diagnostics : List Diagnostic)
  | blocked (blocked : Bool)
  | compiled (result : Except Fault Request)

/-- What comes of a call of a page, and the session after it. -/
def PageCall.apply (s : Session) : PageCall → PageAnswer × Session
  | change call => (.changed (call.apply s).1, (call.apply s).2)
  | rootId => (.block root, s)
  | diagnostics => (.diagnosed s.workspace.diagnostics, s)
  | isBlocked => (.blocked s.workspace.isBlocked, s)
  | compile level => (.compiled (s.compile level), s)

/-- The notices that come with what came of a change. -/
def ChangeResult.notices : ChangeResult → List Notice
  | success _ notices _ _ => notices
  | failure _ => []

/-- The notices that come with an answer. -/
def PageAnswer.notices : PageAnswer → List Notice
  | changed result => result.notices
  | _ => []

/-- The codes of the reports that come with an answer. -/
def PageAnswer.codes : PageAnswer → List String
  | changed (.failure reports) => reports.map Report.code
  | _ => []

/-- What a call puts on the log: what the reaction to its change puts there, if it asks for one. -/
def SessionCall.given (s : Session) (call : SessionCall) : List Notice :=
  match call.mutation? with
  | none => []
  | some mutation => mutation.given s.workspace

/-- What a call of a page puts on the log. -/
def PageCall.given (s : Session) : PageCall → List Notice
  | change call => call.given s
  | _ => []

namespace Session

variable {s : Session}

/-- The session after some calls of a page, each of which may succeed or fail. -/
def afterPage (s : Session) (calls : List PageCall) : Session :=
  calls.foldl (fun s call => (call.apply s).2) s

/-- The answers to some calls of a page, one after the other. -/
def answers (s : Session) : List PageCall → List PageAnswer
  | [] => []
  | call :: rest => (call.apply s).1 :: answers (call.apply s).2 rest

/-- The notices that come with the answers to some calls, in the order of the calls. -/
def handedOut (s : Session) (calls : List PageCall) : List Notice :=
  (s.answers calls).flatMap PageAnswer.notices

/-- What some calls of a page put on the log, one after the other. -/
def given (s : Session) : List PageCall → List Notice
  | [] => []
  | call :: rest => call.given s ++ given (call.apply s).2 rest

/-- What comes of a change are the unread notices, or they stay unread. -/
theorem notices_settle (answer : Answer (List BlockId)) :
    (settle answer).1.notices ++ (settle answer).2.workspace.notices =
      answer.workspace.notices := by
  unfold settle
  cases answer.result with
  | error fault => rfl
  | ok blocks => exact List.append_nil _

/-- A call that changes something hands out, or leaves unread, what was unread before and what it
put on the log. -/
theorem notices_change (h : s.workspace.Tended) (call : SessionCall) :
    (call.apply s).1.notices ++ (call.apply s).2.workspace.notices =
      s.workspace.notices ++ call.given s := by
  unfold SessionCall.given
  rcases s.mutation_cases call with ⟨hnone, reports, hrun⟩ | ⟨mutation, hasked, hrun⟩
  · rw [hnone, hrun, List.append_nil]
    rfl
  · rw [hasked, hrun, notices_settle]
    exact Workspace.notices_answer h mutation

/-- So does every call of a page. -/
theorem notices_apply (h : s.workspace.Tended) (call : PageCall) :
    (call.apply s).1.notices ++ (call.apply s).2.workspace.notices =
      s.workspace.notices ++ call.given s := by
  cases call with
  | change call => exact notices_change h call
  | _ => exact (List.append_nil _).symm

/-- Every call of a page keeps the workspace tended. -/
theorem tended_page (h : s.workspace.Tended) (call : PageCall) :
    (call.apply s).2.workspace.Tended := by
  cases call with
  | change call => exact tended_apply h call
  | _ => exact h

/-- So do calls of a page, one after the other. -/
theorem notices_run (h : s.workspace.Tended) (calls : List PageCall) :
    s.handedOut calls ++ (s.afterPage calls).workspace.notices =
      s.workspace.notices ++ s.given calls := by
  induction calls generalizing s with
  | nil => exact (List.append_nil _).symm
  | cons call rest ih =>
    have hrest := ih (tended_page h call)
    calc s.handedOut (call :: rest) ++ (s.afterPage (call :: rest)).workspace.notices
        = (call.apply s).1.notices ++ ((call.apply s).2.handedOut rest ++
            ((call.apply s).2.afterPage rest).workspace.notices) := List.append_assoc ..
      _ = (call.apply s).1.notices ++ ((call.apply s).2.workspace.notices ++
            (call.apply s).2.given rest) := by rw [hrest]
      _ = s.workspace.notices ++ call.given s ++ (call.apply s).2.given rest := by
          rw [← List.append_assoc, notices_apply h]
      _ = s.workspace.notices ++ s.given (call :: rest) := List.append_assoc ..

/-- In a session that was just opened no notice is unread. -/
theorem notices_of_open {engine : Pattern.Engine} {catalog settings : Option String}
    (hopen : open? engine catalog settings = .ok s) : s.workspace.notices = [] := by
  rcases new_of_open hopen with ⟨loaded, chosen, hnew⟩
  rw [hnew]
  rfl

/-- Whatever calls a page makes in a session, the notices that it is handed with the answers, and
then those that are still unread, are the notices that repairs put on the log during the calls. -/
theorem handed_out_once {engine : Pattern.Engine} {catalog settings : Option String}
    (hopen : open? engine catalog settings = .ok s) (calls : List PageCall) :
    s.handedOut calls ++ (s.afterPage calls).workspace.notices = s.given calls := by
  rw [notices_run (tended_of_open hopen), notices_of_open hopen, List.nil_append]

/-- A session is opened with the catalog and the settings that the texts hold. -/
theorem open_eq_ok {engine : Pattern.Engine} {catalogText settingsText : String}
    {catalog : Catalog} {settings : Settings}
    (hload : Catalog.load engine catalogText = .ok catalog)
    (hsettings : Settings.ofText settingsText = .ok settings) :
    open? engine (some catalogText) (some settingsText) = .ok ⟨.new catalog settings⟩ := by
  unfold open? loadOrOffline settingsOf
  simp only [hload, hsettings]
  rfl

/-- A session with a command that has one option, and reactions that run out of cycles as soon as
they repair anything. -/
def flaggingSession : Session :=
  ⟨.new Workspace.flaggingCatalog Workspace.hurried⟩

/-- Give a command the same option four times and plug it into the script, make a block, take the
command off, and plug it in again. -/
def flaggingCalls : List PageCall :=
  (["\x7b\"kind\": \"command\", \"command\": \"ls\"\x7d"] ++
      List.replicate 4 "\x7b\"kind\": \"option\", \"command\": \"ls\"\x7d").map
        (fun kind => .change (.create kind)) ++
    [.change (.insertAfter (.finite false 2 0) (.finite false 3 0)),
      .change (.insertAfter (.finite false 3 0) (.finite false 4 0)),
      .change (.insertAfter (.finite false 4 0) (.finite false 5 0)),
      .change (.attach (.finite false 1 0) optionsSlot (.finite false 2 0)),
      .change (.attach (.finite false 0 0) stackSlot (.finite false 1 0)), .isBlocked,
      .change (.create "\x7b\"kind\": \"command\", \"command\": \"ls\"\x7d"),
      .change (.detach (.finite false 1 0) true),
      .change (.attach (.finite false 0 0) stackSlot (.finite false 1 0))]

/-- Plugging the command in, either time, and making a block run out of cycles.  What was put on the
log comes with the next success, and what the last call put there is still unread. -/
theorem flagging_handed_out :
    open? Pattern.search (some Workspace.flaggingText) (some Workspace.hurriedText) =
        .ok flaggingSession ∧
      (flaggingSession.answers flaggingCalls).map PageAnswer.codes =
        List.replicate 9 [] ++ [["R001"], [], ["R001"], [], ["R001"]] ∧
      (flaggingSession.answers flaggingCalls).map PageAnswer.notices =
        List.replicate 12 [] ++ [[.ofDuplicate "-l" 3, .ofDuplicate "-l" 4], []] ∧
      flaggingSession.handedOut flaggingCalls ++ [.ofDuplicate "-l" 5] =
        flaggingSession.given flaggingCalls := by
  have hopen : open? Pattern.search (some Workspace.flaggingText) (some Workspace.hurriedText) =
      .ok flaggingSession :=
    open_eq_ok (load_eq_ok (by decide +kernel) (by decide +kernel)) (by decide +kernel)
  have hunread : (flaggingSession.afterPage flaggingCalls).workspace.notices =
      [.ofDuplicate "-l" 5] := by
    decide +kernel
  refine ⟨hopen, by decide +kernel, by decide +kernel, ?_⟩
  rw [← handed_out_once hopen, hunread]

end Session

end ShellComposer
