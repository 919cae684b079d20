import ShellComposer.Json.Decoder
import ShellComposer.Json.Writer

/-!
# Settings of a workspace

Main results:

- Structure `Settings`: the settings and what they are when a document leaves them out.
- Definitions `Settings.encode`, `Settings.ofText`: settings as JSON.
-/

namespace ShellComposer

open Json Json.Fields

/-- The name of a workspace, the text put after each operand when a command sets none of its own,
and the most repair cycles of one reaction, which is one more than the number of blocks when not
set. -/
structure Settings where
  workspaceId : String
  defaultSequenceDelimiter : String
  maxReactionCycles : Option UInt64
deriving DecidableEq, Repr

namespace Settings

/-- The settings where none are given. -/
def standard : Settings :=
  ⟨"default", "-", none⟩

instance : Inhabited Settings :=
  ⟨standard⟩

/-- The settings under another workspace name. -/
def withWorkspaceId (settings : Settings) (id : String) : Settings :=
  { settings with workspaceId := id }

/-- Settings as a JSON object. -/
def encode (settings : Settings) : Value :=
  .object [("workspaceId", .string settings.workspaceId),
    ("defaultSequenceDelimiter", .string settings.defaultSequenceDelimiter),
    ("maxReactionCycles", .ofOption (fun n => .natural n.toNat) settings.maxReactionCycles)]

/-- Settings from a JSON record that may leave out any of them. -/
def decode : Decoder Settings :=
  decoder (Settings.mk
    <$> defaulted "workspaceId" decodeString standard.workspaceId
    <*> defaulted "defaultSequenceDelimiter" decodeString standard.defaultSequenceDelimiter
    <*> optional "maxReactionCycles" decodeUInt64)

/-- The settings in a JSON text. -/
def ofText (text : String) : Except Misread Settings :=
  decodeText decode text

end Settings

end ShellComposer
