/-!
# Shortest decimal text of a floating-point number

A double-precision number is written with the fewest digits that read back as the same number, and
among those with the digits nearest to it.  The text is positional: no exponent is ever written and
a whole number has no decimal point.

Main results:

- Definition `Double.ofFloat`: the number as a sign, a mantissa and a power of two.
- Definition `Double.digits`: the point that reads back on the coarsest decimal grid with one.
- Definition `Double.text`: the positional text.
-/

namespace ShellComposer.Decimal

/-- A double-precision number: no number at all, an infinity, or `mantissa * 2 ^ exponent` with a
sign. -/
inductive Double where
  | nan
  | infinity (negative : Bool)
  | finite (negative : Bool) (mantissa : Nat) (exponent : Int)
deriving DecidableEq, Repr

namespace Double

/-- The least mantissa of 53 bits, the 52nd power of two. -/
def leastLong : Nat := 4503599627370496

/-- Take the bits of a number apart: one for the sign, eleven for the exponent, the rest for the
mantissa, whose leading bit is implied unless the exponent field is zero. -/
def ofBits (bits : Nat) : Double :=
  let negative := bits.testBit 63
  let field := bits / leastLong % 2048
  let fraction := bits % leastLong
  if field = 2047 then (if fraction = 0 then infinity negative else nan)
  else if field = 0 then finite negative fraction (-1074)
  else finite negative (leastLong + fraction) ((field : Int) - 1075)

/-- The parts of a floating-point number. -/
def ofFloat (x : Float) : Double :=
  ofBits x.toBits.toNat

/-- The natural number a double stands for; negative zero is zero. -/
def natural? : Double → Option Nat
  | finite negative mantissa exponent =>
    if mantissa = 0 then some 0
    else if negative then none
    else if 0 ≤ exponent then some (mantissa * Nat.pow 2 exponent.toNat)
    else
      let parts := Nat.pow 2 (-exponent).toNat
      if mantissa % parts = 0 then some (mantissa / parts) else none
  | _ => none

/-- The point of the decimal grid with unit `10 ^ power` that is nearest to the number, if one of
its two neighbours there reads back as the number; a tie goes to the larger.  Everything is
measured in quarters of the last bit: the numbers that read back lie between half a step below and
half a step above, ends included when the mantissa is even, and the step below a power of two is
half as long. -/
def gridPoint (mantissa : Nat) (exponent power : Int) : Option Nat :=
  let scale := exponent - 2
  let widen := Nat.pow 2 scale.toNat * Nat.pow 10 (-power).toNat
  let unit := Nat.pow 10 power.toNat * Nat.pow 2 (-scale).toNat
  let value := 4 * mantissa * widen
  let low := (4 * mantissa - if mantissa = leastLong ∧ -1074 < exponent then 1 else 2) * widen
  let high := (4 * mantissa + 2) * widen
  let readsBack (point : Nat) : Bool :=
    if mantissa % 2 = 0 then low ≤ point * unit && point * unit ≤ high
    else low < point * unit && point * unit < high
  let below := value / unit
  let above := below + 1
  let nearerBelow := decide (value - below * unit < above * unit - value)
  if readsBack below && 0 < below && (nearerBelow || !readsBack above) then some below
  else if readsBack above then some above
  else none

/-- Search the grids from the coarsest one on, `steps` of them. -/
def gridSearch (mantissa : Nat) (exponent : Int) : Nat → Int → Nat × Int
  | 0, power => (mantissa, power)
  | steps + 1, power =>
    match gridPoint mantissa exponent power with
    | some point => (point, power)
    | none => gridSearch mantissa exponent steps (power - 1)

/-- The digits of a positive number and the power of ten they count: no double needs a coarser unit
than `10 ^ 308` or a finer one than `10 ^ -324`. -/
def digits (mantissa : Nat) (exponent : Int) : Nat × Int :=
  gridSearch mantissa exponent 633 308

/-- The text of `digits * 10 ^ power` without an exponent. -/
def positional (digits : Nat) (power : Int) : String :=
  let shown := Nat.toDigits 10 digits
  if 0 ≤ power then String.ofList (shown ++ List.replicate power.toNat '0')
  else
    let places := (-power).toNat
    let padded := List.replicate (places + 1 - shown.length) '0' ++ shown
    let whole := padded.length - places
    String.ofList (padded.take whole ++ '.' :: padded.drop whole)

/-- The text of a number. -/
def text : Double → String
  | nan => "NaN"
  | infinity negative => if negative then "-inf" else "inf"
  | finite negative mantissa exponent =>
    let magnitude :=
      if mantissa = 0 then "0"
      else
        let (shown, power) := digits mantissa exponent
        positional shown power
    if negative then "-" ++ magnitude else magnitude

end Double

end ShellComposer.Decimal
