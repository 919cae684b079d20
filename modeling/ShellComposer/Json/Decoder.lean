import ShellComposer.Json.Reader

/-!
# Decoding records from JSON

A record may be written as an object or as an array.  In an object each member is named, members
with unknown names are skipped, and members may be left out when they have a default.  In an array
the values stand in the order of declaration and those with a default may be missing at the end.

Of several faults in a text the one that is met first counts: a member is met when its name is read,
and a missing member when the object ends.  So every field of a record is read on its own, each
fault carries the position where it is met, and the earliest one wins.

Main results:

- Definition `Misread`: what can be wrong with a text, and how it is reported.
- Definitions `Fields`, `Fields.decoder`: the fields of a record, and the record they make.
- Definition `decodeText`: a value read from a whole text.
-/

namespace ShellComposer.Json

/-! ## Faults -/

/-- What is wrong with a text.  Faults without details of their own are just malformed text. -/
inductive Misread where
  | malformed
  | missingField (name : String)
  | duplicateField (name : String)
  | unknownVariant (found : String) (known : List String)
  | badMaximum (found : String)
deriving DecidableEq, Repr

namespace Misread

/-- A name in backquotes. -/
def backquoted (name : String) : String :=
  "`" ++ name ++ "`"

/-- The names that would have been accepted. -/
def choices : List String → String
  | [one] => "expected " ++ backquoted one
  | [one, two] => "expected " ++ backquoted one ++ " or " ++ backquoted two
  | names => "expected one of " ++ ", ".intercalate (names.map backquoted)

/-- The text of a fault. -/
def message : Misread → String
  | malformed => "<json error>"
  | missingField name => "missing field " ++ backquoted name
  | duplicateField name => "duplicate field " ++ backquoted name
  | unknownVariant found known =>
    "unknown variant " ++ backquoted found ++ ", " ++ choices known
  | badMaximum found =>
    "cardinality max must be a number or \"unlimited\", got '" ++ found ++ "'"

end Misread

/-! ## Decoders of values -/

/-- Arrays and objects may nest this deep where they are decoded. -/
def nestingLimit : Nat := 127

/-- Read a value from a tree that may nest at most so many arrays and objects. -/
abbrev Decoder (α : Type) := Nat → Tree → Except Misread α

/-- A text. -/
def decodeString : Decoder String
  | _, .string (some text) => .ok text
  | _, _ => .error .malformed

/-- A truth value. -/
def decodeBool : Decoder Bool
  | _, .bool value => .ok value
  | _, _ => .error .malformed

/-- A natural number below `bound`. -/
def decodeBelow (bound : Nat) : Decoder Nat
  | _, .number numeral =>
    match numeral.natural? with
    | some value => if value < bound then .ok value else .error .malformed
    | none => .error .malformed
  | _, _ => .error .malformed

/-- A 32-bit number. -/
def decodeUInt32 : Decoder UInt32 := fun room tree =>
  (decodeBelow UInt32.size room tree).map UInt32.ofNat

/-- A 64-bit number. -/
def decodeUInt64 : Decoder UInt64 := fun room tree =>
  (decodeBelow UInt64.size room tree).map UInt64.ofNat

/-- A value, or nothing where null is written. -/
def decodeNullable {α : Type} (decode : Decoder α) : Decoder (Option α)
  | _, .null => .ok none
  | room, tree => (decode room tree).map some

/-- An array of values. -/
def decodeList {α : Type} (decode : Decoder α) : Decoder (List α)
  | room + 1, .array items closed => do
    let values ← items.mapM (decode room)
    if closed then return values else throw .malformed
  | _, _ => .error .malformed

/-- An array of texts. -/
def decodeTexts : Decoder (List String) :=
  decodeList decodeString

/-- One of the named variants. -/
def variant {α : Type} (variants : List (String × α)) (name : String) : Except Misread α :=
  match variants.lookup name with
  | some value => .ok value
  | none => .error (.unknownVariant name (variants.map Prod.fst))

/-- A variant without content: its name, or an object with its name and null. -/
def decodeVariant {α : Type} (variants : List (String × α)) : Decoder α
  | _, .string (some name) => variant variants name
  | _ + 1, .object ((some name, content) :: more) closed => do
    let value ← variant variants name
    match content, more, closed with
    | .null, [], true => return value
    | _, _, _ => throw .malformed
  | _, _ => .error .malformed

/-- A variant with content: an object with its name and the content. -/
def decodeTagged {α : Type} (variants : List (String × Decoder α)) : Decoder α
  | _, .string (some name) => do
    let _ ← variant variants name
    throw .malformed
  | room + 1, .object ((some name, content) :: more) closed => do
    let decode ← variant variants name
    let value ← decode room content
    match more, closed with
    | [], true => return value
    | _, _ => throw .malformed
  | _, _ => .error .malformed

/-! ## Fields of a record -/

/-- What reading a field comes to: its value, or a fault and the position where it is met. -/
inductive Outcome (α : Type) where
  | value (result : α)
  | fault (position : Nat) (cause : Misread)

/-- Two outcomes together; of two faults the earlier one counts. -/
def Outcome.both {α β γ : Type} (combine : α → β → γ) : Outcome α → Outcome β → Outcome γ
  | value a, value b => value (combine a b)
  | value _, fault position cause => fault position cause
  | fault position cause, value _ => fault position cause
  | fault p c, fault q d => if q < p then fault q d else fault p c

/-- The fields of a record: their names, how they are read from the members of an object, and how
from the items of an array, of which some may be left over. -/
structure Fields (α : Type) where
  names : List String
  fromMembers : Nat → List Member → Outcome α
  fromItems : Nat → List Tree → Except Misread (α × List Tree)

namespace Fields

/-- The fields of a record without any. -/
def constant {α : Type} (result : α) : Fields α where
  names := []
  fromMembers _ _ := .value result
  fromItems _ items := .ok (result, items)

/-- Two groups of fields, the first declared before the second. -/
def both {α β γ : Type} (combine : α → β → γ) (first : Fields α) (second : Fields β) :
    Fields γ where
  names := first.names ++ second.names
  fromMembers room members :=
    .both combine (first.fromMembers room members) (second.fromMembers room members)
  fromItems room items := do
    let (a, items) ← first.fromItems room items
    let (b, items) ← second.fromItems room items
    return (combine a b, items)

instance : Functor Fields where
  map f fields := both (fun _ a => f a) (constant ()) fields

instance : Seq Fields where
  seq functions arguments := both (fun f a => f a) functions (arguments ())

/-- The members with one of the given names, with their positions. -/
def occurrences (names : List String) (members : List Member) : List (Tree × Nat) :=
  members.zipIdx.filterMap fun (member, position) =>
    match member.1 with
    | some name => if names.contains name then some (member.2, position) else none
    | none => none

/-- The value of a field that occurs, if it occurs once.  A second occurrence is met when its name
is read, after the value of the first. -/
def fromOccurrences {α : Type} (name : String) (decode : Tree → Except Misread α)
    (absent : Outcome α) : List (Tree × Nat) → Outcome α
  | [] => absent
  | (tree, position) :: more =>
    match decode tree with
    | .error cause => .fault position cause
    | .ok value =>
      match more with
      | [] => .value value
      | (_, again) :: _ => .fault again (.duplicateField name)

/-- A field with its name, its other names, and what it is when an object or an array leaves it
out. -/
def field {α : Type} (name : String) (others : List String) (decode : Decoder α)
    (noMember noItem : Option α) : Fields α where
  names := name :: others
  fromMembers room members :=
    let absent := match noMember with
      | some value => .value value
      | none => .fault (members.length + 1) (.missingField name)
    fromOccurrences name (decode room) absent (occurrences (name :: others) members)
  fromItems room
    | [] => match noItem with
      | some value => .ok (value, [])
      | none => .error .malformed
    | item :: rest => do return (← decode room item, rest)

/-- A field that must be there. -/
def required {α : Type} (name : String) (decode : Decoder α) : Fields α :=
  field name [] decode none none

/-- A field with two names that must be there. -/
def requiredUnder {α : Type} (name other : String) (decode : Decoder α) : Fields α :=
  field name [other] decode none none

/-- A field with a default. -/
def defaulted {α : Type} (name : String) (decode : Decoder α) (default : α) : Fields α :=
  field name [] decode (some default) (some default)

/-- A field that may be null or left out. -/
def optional {α : Type} (name : String) (decode : Decoder α) : Fields (Option α) :=
  field name [] (decodeNullable decode) (some none) (some none)

/-- A field with two names that may be null or left out. -/
def optionalUnder {α : Type} (name other : String) (decode : Decoder α) : Fields (Option α) :=
  field name [other] (decodeNullable decode) (some none) (some none)

/-- A field that may be null, and left out of an object but not of an array. -/
def nullable {α : Type} (name : String) (decode : Decoder α) : Fields (Option α) :=
  field name [] (decodeNullable decode) (some none) none

/-- The position of the first member that is no field and cannot be skipped, or of the end of an
object that is not closed. -/
def strayPosition (names : List String) (members : List Member) (closed : Bool) : Option Nat :=
  let stray (member : Member) : Bool :=
    match member.1 with
    | none => true
    | some name => !names.contains name && !member.2.wellFormed
  match members.findIdx? stray with
  | some position => some position
  | none => if closed then none else some members.length

/-- The record in the members of an object. -/
def ofObject {α : Type} (fields : Fields α) (room : Nat) (members : List Member)
    (closed : Bool) : Except Misread α :=
  match fields.fromMembers room members, strayPosition fields.names members closed with
  | .value result, none => .ok result
  | .value _, some _ => .error .malformed
  | .fault _ cause, none => .error cause
  | .fault position cause, some stray => .error (if position < stray then cause else .malformed)

/-- The record in the items of an array. -/
def ofArray {α : Type} (fields : Fields α) (room : Nat) (items : List Tree) (closed : Bool) :
    Except Misread α := do
  let (result, rest) ← fields.fromItems room items
  if rest.isEmpty && closed then return result else throw .malformed

/-- A record, written as an object or as an array. -/
def decoder {α : Type} (fields : Fields α) : Decoder α
  | room + 1, .object members closed => fields.ofObject room members closed
  | room + 1, .array items closed => fields.ofArray room items closed
  | _, _ => .error .malformed

end Fields

/-! ## Whole texts -/

/-- The value that a whole text stands for. -/
def decodeText {α : Type} (decode : Decoder α) (text : String) : Except Misread α := do
  let (tree, clean) := readTree text
  let value ← decode nestingLimit tree
  if clean then return value else throw .malformed

end ShellComposer.Json
