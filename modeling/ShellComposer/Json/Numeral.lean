/-!
# Numerals

A numeral is read as a plain natural number when it is a run of digits and nothing else.  Any other
numeral only matters for whether it lies within the range of double-precision numbers: its first
digits, as many as make a 64-bit number, are rounded to a double and multiplied by a power of ten
that is itself rounded to a double, and the product must not be rounded to infinity.

Main results:

- Definition `Numeral.read`: a numeral at the start of a text, and what follows it.
- Definition `Numeral.natural?`: the value of a plain run of digits.
- Definition `Numeral.leading`: the digits that count, and the power of ten they count.
- Definition `Numeral.inRange`: whether a numeral lies in the range of doubles.
-/

namespace ShellComposer.Json

/-- A numeral by its parts.  A missing fraction or exponent is different from one that is zero. -/
structure Numeral where
  negative : Bool
  whole : List Char
  fraction : Option (List Char)
  exponent : Option (Bool × List Char)
deriving DecidableEq, Repr, Inhabited

namespace Numeral

/-- The value of a run of decimal digits. -/
def digitsValue (digits : List Char) : Nat :=
  digits.foldl (fun value digit => 10 * value + (digit.toNat - '0'.toNat)) 0

/-- The value of a numeral that is a run of digits without sign, fraction and exponent. -/
def natural? (numeral : Numeral) : Option Nat :=
  if numeral.negative || numeral.fraction.isSome || numeral.exponent.isSome then none
  else some (digitsValue numeral.whole)

/-- The numeral of a natural number: its decimal digits. -/
def ofNatural (n : Nat) : Numeral :=
  ⟨false, Nat.toDigits 10 n, none, none⟩

/-! ## Range -/

/-- Append digits to a number while it fits 64 bits; the digits left over are returned. -/
def absorb (value : Nat) : List Char → Nat × List Char
  | [] => (value, [])
  | digit :: rest =>
    let longer := 10 * value + (digit.toNat - '0'.toNat)
    if longer < UInt64.size then absorb longer rest else (value, digit :: rest)

/-- A natural number rounded to 53 significant bits, a half going to the even neighbour. -/
def roundToDouble (n : Nat) : Nat :=
  let unit := Nat.pow 2 (n.log2 - 52)
  let below := n / unit
  let rest := n % unit
  let up := decide (unit < 2 * rest) || (decide (unit = 2 * rest) && decide (below % 2 = 1))
  if up then (below + 1) * unit else below * unit

/-- The first digits of a numeral, as many as make a 64-bit number, and the power of ten that the
last of them counts. -/
def leading (numeral : Numeral) : Nat × Int :=
  let fraction := numeral.fraction.getD []
  let (head, dropped) := absorb 0 numeral.whole
  let (significand, left) := absorb head fraction
  let shown : Int := (dropped.length : Int) - ((fraction.length - left.length : Nat) : Int)
  match numeral.exponent with
  | none => (significand, shown)
  | some (negative, digits) =>
    (significand, if negative then shown - digitsValue digits else shown + digitsValue digits)

/-- Whether the numeral lies in the range of double-precision numbers. -/
def inRange (numeral : Numeral) : Bool :=
  let (significand, power) := numeral.leading
  if significand = 0 ∨ power < 0 then true
  else if 308 < power then false
  else
    let scale := roundToDouble (Nat.pow 10 power.toNat)
    decide (roundToDouble (roundToDouble significand * scale) < Nat.pow 2 1024)

/-! ## Reading -/

/-- The digits at the start of a text, and the rest. -/
def spanDigits (cs : List Char) : List Char × List Char :=
  (cs.takeWhile Char.isDigit, cs.dropWhile Char.isDigit)

/-- The whole part of a numeral: zero alone, or digits that do not start with zero. -/
def readWhole (cs : List Char) : Option (List Char × List Char) :=
  match spanDigits cs with
  | ([], _) => none
  | ('0' :: _ :: _, _) => none
  | (digits, rest) => some (digits, rest)

/-- The fraction of a numeral, if a point follows. -/
def readFraction : List Char → Option (Option (List Char) × List Char)
  | '.' :: cs =>
    match spanDigits cs with
    | ([], _) => none
    | (digits, rest) => some (some digits, rest)
  | cs => some (none, cs)

/-- The sign of an exponent; true is negative. -/
def readSign : List Char → Bool × List Char
  | '-' :: cs => (true, cs)
  | '+' :: cs => (false, cs)
  | cs => (false, cs)

/-- The exponent of a numeral, if its letter follows. -/
def readExponent : List Char → Option (Option (Bool × List Char) × List Char)
  | [] => some (none, [])
  | c :: cs =>
    if c == 'e' || c == 'E' then
      let (negative, digits) := readSign cs
      match spanDigits digits with
      | ([], _) => none
      | (digits, rest) => some (some (negative, digits), rest)
    else some (none, c :: cs)

/-- The numeral at the start of a text, and what follows it. -/
def read (cs : List Char) : Option (Numeral × List Char) := do
  let (negative, cs) := match cs with
    | '-' :: rest => (true, rest)
    | _ => (false, cs)
  let (whole, cs) ← readWhole cs
  let (fraction, cs) ← readFraction cs
  let (exponent, cs) ← readExponent cs
  return (⟨negative, whole, fraction, exponent⟩, cs)

end Numeral

end ShellComposer.Json
