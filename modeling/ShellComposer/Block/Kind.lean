import ShellComposer.Text.Blank
import ShellComposer.Text.Quoted
import ShellComposer.Json.Decoder
import ShellComposer.Json.Writer

/-!
# Kinds of blocks and connection tags

A block stands for the script, a command, an option or operand of a command, a control or an
operator, each named by its id in the catalog.  The kind decides the tag that the block shows where
it connects; two blocks connect only when the tag shown equals the tag accepted.

Main results:

- Definition `BlockKind.tag?`: the tag a block shows; the script shows none.
- Definitions `Tag.ofCheck`, `Tag.text`: reading a tag off the check text of a slot, and its text.
- Definitions `BlockKind.encode`, `BlockKind.ofText`: kinds as JSON.
- Theorem `Tag.ofCheck_text`: option and operand tags are read back from their text.
-/

namespace ShellComposer

open Json

/-! ## Tags -/

/-- What a connection accepts and a block shows. -/
inductive Tag where
  | command
  | option (command : String)
  | operand (command : String)
deriving DecidableEq, Repr, Inhabited

namespace Tag

/-- The ending of the text of an option tag. -/
def optionEnding : String := "_option"

/-- The ending of the text of an operand tag. -/
def operandEnding : String := "_operand"

/-- The tag that a check text asks for: options or operands of a command by its ending, and
otherwise commands. -/
def ofCheck (check : String) : Tag :=
  match Text.dropEnding check optionEnding with
  | some id => option id
  | none =>
    match Text.dropEnding check operandEnding with
    | some id => operand id
    | none => command

/-- The text of a tag. -/
def text : Tag → String
  | command => "command"
  | option id => id ++ optionEnding
  | operand id => id ++ operandEnding

/-- The tag as it is shown for inspection. -/
def inspect : Tag → String
  | command => "Command"
  | option id => "Option(" ++ Text.quote id ++ ")"
  | operand id => "Operand(" ++ Text.quote id ++ ")"

end Tag

/-! ## Kinds -/

/-- What a block stands for. -/
inductive BlockKind where
  | script
  | command (command : String)
  | option (command : String)
  | operand (command operand : String)
  | control (control : String)
  | operator (operator : String)
deriving DecidableEq, Repr, Inhabited

namespace BlockKind

/-- The tag a block shows where it connects.  The script connects to nothing above it. -/
def tag? : BlockKind → Option Tag
  | script => none
  | command _ => some .command
  | option id => some (.option id)
  | operand id _ => some (.operand id)
  | control _ => some .command
  | operator _ => some .command

/-- Whether the block stands for a command. -/
def isCommand : BlockKind → Bool
  | command _ => true
  | _ => false

/-- Whether the block stands for an option. -/
def isOption : BlockKind → Bool
  | option _ => true
  | _ => false

/-- Whether the block stands for an operand. -/
def isOperand : BlockKind → Bool
  | operand _ _ => true
  | _ => false

/-- Whether the block stands for the operand with the given id, of whatever command. -/
def isOperandNamed (id : String) : BlockKind → Bool
  | operand _ name => name == id
  | _ => false

/-- One named part of a kind, as it is shown for inspection. -/
def inspectPart (name value : String) : String :=
  name ++ ": " ++ Text.quote value

/-- A kind with its parts, as it is shown for inspection. -/
def inspectParts (name : String) (parts : List String) : String :=
  name ++ " \x7b " ++ ", ".intercalate parts ++ " \x7d"

/-- The kind as it is shown for inspection. -/
def inspect : BlockKind → String
  | script => "Script"
  | command id => inspectParts "Command" [inspectPart "command" id]
  | option id => inspectParts "Option" [inspectPart "command" id]
  | operand id name =>
    inspectParts "Operand" [inspectPart "command" id, inspectPart "operand" name]
  | control id => inspectParts "Control" [inspectPart "control" id]
  | operator id => inspectParts "Operator" [inspectPart "operator" id]

/-! ## Kinds as JSON -/

/-- A kind as an object whose first member names it. -/
def encode : BlockKind → Value
  | script => .object [("kind", .string "script")]
  | command id => .object [("kind", .string "command"), ("command", .string id)]
  | option id => .object [("kind", .string "option"), ("command", .string id)]
  | operand id name =>
    .object [("kind", .string "operand"), ("command", .string id), ("operand", .string name)]
  | control id => .object [("kind", .string "control"), ("control", .string id)]
  | operator id => .object [("kind", .string "operator"), ("operator", .string id)]

/-- The fields of the kinds with each name. -/
def variants : List (String × Fields BlockKind) :=
  [("script", .constant script),
    ("command", command <$> .required "command" decodeString),
    ("option", option <$> .required "command" decodeString),
    ("operand", operand
      <$> .required "command" decodeString <*> .required "operand" decodeString),
    ("control", control <$> .required "control" decodeString),
    ("operator", operator <$> .required "operator" decodeString)]

/-- The member that names the kind. -/
def kindMember : String := "kind"

/-- The fields of the kind that a tree names. -/
def namedFields : Tree → Except Misread (Fields BlockKind)
  | .string (some name) => variant variants name
  | _ => .error .malformed

/-- Go through the members of an object in order.  The member that names the kind may stand anywhere
and is looked at when it is met; every other member is taken into memory and kept. -/
def gather (room : Nat) (named : Option (Fields BlockKind)) (kept : List Member) :
    List Member → Except Misread (Option (Fields BlockKind) × List Member)
  | [] => .ok (named, kept)
  | (none, _) :: _ => .error .malformed
  | (some name, tree) :: rest =>
    if name == kindMember then
      match named with
      | some _ => .error (.duplicateField kindMember)
      | none => do gather room (some (← namedFields tree)) kept rest
    else if tree.holdable room then gather room named (kept ++ [(some name, tree)]) rest
    else .error .malformed

/-- A kind, written as an object, or as an array of its name and its parts. -/
def decode : Decoder BlockKind
  | room + 1, .object members closed => do
    let (named, kept) ← gather room none [] members
    if closed then
      match named with
      | some fields => fields.ofObject room kept true
      | none => throw (.missingField kindMember)
    else throw .malformed
  | room + 1, .array (tree :: rest) closed => do
    let fields ← namedFields tree
    if Tree.holdableItems room rest then fields.ofArray room rest closed else throw .malformed
  | _ + 1, .array [] true => .error (.missingField kindMember)
  | _, _ => .error .malformed

/-- The kind in a JSON text. -/
def ofText (text : String) : Except Misread BlockKind :=
  decodeText decode text

end BlockKind

/-! ## Reading tags back -/

/-- Option and operand tags are read back from their text. -/
theorem Tag.ofCheck_text (tag : Tag) : Tag.ofCheck tag.text = tag := by
  cases tag with
  | command => decide +kernel
  | option id =>
    rw [ofCheck, text, (Text.dropEnding_eq_some_iff).2 rfl]
  | operand id =>
    have noOption : Text.dropEnding (id ++ operandEnding) optionEnding = none := by
      cases found : Text.dropEnding (id ++ operandEnding) optionEnding with
      | none => rfl
      | some front =>
        have lists := congrArg (fun text => text.toList.reverse.take 7)
          (Text.dropEnding_eq_some_iff.1 found)
        simp [optionEnding, operandEnding] at lists
    rw [ofCheck, text, noOption, (Text.dropEnding_eq_some_iff).2 rfl]

end ShellComposer
