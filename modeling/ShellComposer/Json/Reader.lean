import ShellComposer.Json.Tree

/-!
# Reading JSON text

A text is read from left to right into a tree.  Reading never fails: where the text stops being
JSON, the tree says so and ends.

Main results:

- Definition `readString`: a quoted string, and what follows it.
- Definition `readTree`: the tree of a whole text, and whether anything but blanks follows it.
-/

namespace ShellComposer.Json

/-! ## Strings -/

/-- A piece of a string: a character, or a 16-bit unit given by an escape. -/
inductive Piece where
  | char (c : Char)
  | unit (code : Nat)
deriving DecidableEq, Repr

/-- The value of a hexadecimal digit. -/
def hexDigit? (c : Char) : Option Nat :=
  if '0' ≤ c ∧ c ≤ '9' then some (c.toNat - '0'.toNat)
  else if 'a' ≤ c ∧ c ≤ 'f' then some (c.toNat - 'a'.toNat + 10)
  else if 'A' ≤ c ∧ c ≤ 'F' then some (c.toNat - 'A'.toNat + 10)
  else none

/-- The value of four hexadecimal digits. -/
def unit? (a b c d : Char) : Option Nat := do
  return 4096 * (← hexDigit? a) + 256 * (← hexDigit? b) + 16 * (← hexDigit? c) + (← hexDigit? d)

/-- The character that a one-letter escape stands for. -/
def escaped? : Char → Option Char
  | '"' => some '"'
  | '\\' => some '\\'
  | '/' => some '/'
  | 'b' => some '\x08'
  | 'f' => some '\x0c'
  | 'n' => some '\n'
  | 'r' => some '\r'
  | 't' => some '\t'
  | _ => none

/-- Read the pieces of a string up to its closing quote, and what follows that.  A control
character, an unknown escape or the end of the text spoils the string. -/
def readPieces : List Char → Option (List Piece × List Char)
  | [] => none
  | '"' :: rest => some ([], rest)
  | '\\' :: 'u' :: a :: b :: c :: d :: rest => do
    let code ← unit? a b c d
    let (pieces, rest) ← readPieces rest
    return (.unit code :: pieces, rest)
  | '\\' :: c :: rest => do
    let c ← escaped? c
    let (pieces, rest) ← readPieces rest
    return (.char c :: pieces, rest)
  | '\\' :: [] => none
  | c :: rest =>
    if c.toNat < 0x20 then none
    else do
      let (pieces, rest) ← readPieces rest
      return (.char c :: pieces, rest)

/-- The characters of a list of pieces.  Two units that make a surrogate pair are one character;
half of a pair makes no text. -/
def assemble : List Piece → Option (List Char)
  | [] => some []
  | .char c :: rest => (assemble rest).map (c :: ·)
  | .unit high :: .unit low :: rest =>
    if high < 0xD800 ∨ 0xE000 ≤ high then
      (assemble (.unit low :: rest)).map (Char.ofNat high :: ·)
    else if high < 0xDC00 ∧ 0xDC00 ≤ low ∧ low < 0xE000 then
      (assemble rest).map (Char.ofNat (0x10000 + (high - 0xD800) * 0x400 + (low - 0xDC00)) :: ·)
    else none
  | .unit code :: rest =>
    if code < 0xD800 ∨ 0xE000 ≤ code then (assemble rest).map (Char.ofNat code :: ·) else none

/-- Read a string after its opening quote: its text, if its escapes make one, and what follows. -/
def readString (cs : List Char) : Option (Option String × List Char) := do
  let (pieces, rest) ← readPieces cs
  return ((assemble pieces).map String.ofList, rest)

/-! ## Values -/

/-- The characters that may stand between the parts of a JSON text. -/
def isGap (c : Char) : Bool :=
  c == ' ' || c == '\n' || c == '\t' || c == '\r'

/-- The text after the blanks at its start. -/
def skipGap (cs : List Char) : List Char :=
  cs.dropWhile isGap

mutual
/-- Read a value and return what follows it.  The first argument bounds the number of steps and is
at least the length of the text. -/
def readValue : Nat → List Char → Tree × List Char
  | 0, _ => (.broken, [])
  | steps + 1, cs =>
    match skipGap cs with
    | 'n' :: 'u' :: 'l' :: 'l' :: rest => (.null, rest)
    | 't' :: 'r' :: 'u' :: 'e' :: rest => (.bool true, rest)
    | 'f' :: 'a' :: 'l' :: 's' :: 'e' :: rest => (.bool false, rest)
    | '"' :: rest =>
      match readString rest with
      | some (text, rest) => (.string text, rest)
      | none => (.broken, [])
    | '[' :: rest =>
      match skipGap rest with
      | ']' :: rest => (.array [] true, rest)
      | rest =>
        let (items, closed, rest) := readItems steps rest
        (.array items closed, rest)
    | '\x7b' :: rest =>
      match skipGap rest with
      | '\x7d' :: rest => (.object [] true, rest)
      | rest =>
        let (members, closed, rest) := readMembers steps rest
        (.object members closed, rest)
    | rest =>
      match Numeral.read rest with
      | some (numeral, rest) => (.number numeral, rest)
      | none => (.broken, [])

/-- Read the items of an array that has at least one, up to its closing bracket. -/
def readItems : Nat → List Char → List Tree × Bool × List Char
  | 0, _ => ([], false, [])
  | steps + 1, cs =>
    let (item, rest) := readValue steps cs
    if item.finished then
      match skipGap rest with
      | ',' :: rest =>
        let (items, closed, rest) := readItems steps rest
        (item :: items, closed, rest)
      | ']' :: rest => ([item], true, rest)
      | _ => ([item], false, [])
    else ([item], false, [])

/-- Read the members of an object that has at least one, up to its closing bracket. -/
def readMembers : Nat → List Char → List (Option String × Tree) × Bool × List Char
  | 0, _ => ([], false, [])
  | steps + 1, cs =>
    match skipGap cs with
    | '"' :: rest =>
      match readString rest with
      | none => ([], false, [])
      | some (name, rest) =>
        match skipGap rest with
        | ':' :: rest =>
          let (value, rest) := readValue steps rest
          if value.finished then
            match skipGap rest with
            | ',' :: rest =>
              let (members, closed, rest) := readMembers steps rest
              ((name, value) :: members, closed, rest)
            | '\x7d' :: rest => ([(name, value)], true, rest)
            | _ => ([(name, value)], false, [])
          else ([(name, value)], false, [])
        | _ => ([(name, .broken)], false, [])
    | _ => ([], false, [])
end

/-- The tree of a text, and whether nothing but blanks follows it. -/
def readTree (text : String) : Tree × Bool :=
  let cs := text.toList
  let (tree, rest) := readValue (2 * cs.length + 2) cs
  (tree, (skipGap rest).isEmpty)

end ShellComposer.Json
