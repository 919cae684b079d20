import ShellComposer.Json.Tree

/-!
# Writing JSON text

Values are written without any blanks.  Inside a string, quotes, backslashes and control characters
are escaped and every other character stands for itself.

Main results:

- Definition `Value.text`: the JSON text of a value.
-/

namespace ShellComposer.Json

/-- A character as it is written inside a JSON string. -/
def escapeChar (c : Char) : List Char :=
  if c == '"' then ['\\', '"']
  else if c == '\\' then ['\\', '\\']
  else if c == '\x08' then ['\\', 'b']
  else if c == '\t' then ['\\', 't']
  else if c == '\n' then ['\\', 'n']
  else if c == '\x0c' then ['\\', 'f']
  else if c == '\r' then ['\\', 'r']
  else if c.toNat < 0x20 then
    ['\\', 'u', '0', '0', Nat.digitChar (c.toNat / 16), Nat.digitChar (c.toNat % 16)]
  else [c]

/-- A text in JSON quotes. -/
def stringChars (text : String) : List Char :=
  '"' :: (text.toList.flatMap escapeChar ++ ['"'])

namespace Value

mutual
/-- The characters of the text of a value. -/
def chars : Value → List Char
  | null => ['n', 'u', 'l', 'l']
  | bool true => ['t', 'r', 'u', 'e']
  | bool false => ['f', 'a', 'l', 's', 'e']
  | natural value => Nat.toDigits 10 value
  | string text => stringChars text
  | array items => '[' :: (itemChars items ++ [']'])
  | object members => '\x7b' :: (memberChars members ++ ['\x7d'])

/-- The characters of the items of an array, with commas between them. -/
def itemChars : List Value → List Char
  | [] => []
  | [item] => chars item
  | item :: next :: rest => chars item ++ ',' :: itemChars (next :: rest)

/-- The characters of the members of an object, with commas between them. -/
def memberChars : List (String × Value) → List Char
  | [] => []
  | [member] => stringChars member.1 ++ ':' :: chars member.2
  | member :: next :: rest =>
    stringChars member.1 ++ ':' :: (chars member.2 ++ ',' :: memberChars (next :: rest))
end

/-- The JSON text of a value. -/
def text (value : Value) : String :=
  String.ofList value.chars

end Value

end ShellComposer.Json
