import ShellComposer.Unicode.Property

/-!
# Text in quotes

Messages that show a text verbatim put it in double quotes and write whatever could not be read off
the screen as an escape: control characters, spaces other than the plain one, format characters,
characters without a meaning, and accents that would combine with what stands before them.

Main results:

- Definition `quoteChar`: how one character is written.
- Definition `quote`: a text in quotes.
-/

namespace ShellComposer.Text

open Unicode

/-- Characters that leave no mark of their own. -/
def invisible : CharSet :=
  (categorySet ["Cc", "Cf", "Co", "Cn", "Zl", "Zp", "Zs"]).difference (.single ' ')

/-- The digits of a code point in small hexadecimal letters. -/
def hexText (code : Nat) : String :=
  String.ofList (Nat.toDigits 16 code)

/-- One character as it is written between quotes. -/
def quoteChar (c : Char) : String :=
  if c == '"' then "\\\""
  else if c == '\\' then "\\\\"
  else if c == '\n' then "\\n"
  else if c == '\r' then "\\r"
  else if c == '\t' then "\\t"
  else if c.toNat == 0 then "\\0"
  else if graphemeExtend.contains c || invisible.contains c
  then "\\u\x7b" ++ hexText c.toNat ++ "\x7d"
  else c.toString

/-- The text between double quotes. -/
def quote (text : String) : String :=
  "\"" ++ String.join (text.toList.map quoteChar) ++ "\""

end ShellComposer.Text
