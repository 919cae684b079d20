/-!
# Sets of characters

A set of characters is kept as a list of closed ranges of code points.  Sets come from written
tables, from the classes of a pattern, and from the set algebra on both.

Main results:

- Definition `CharSet.contains`: what it means to be in a set.
- Definition `CharSet.ofRanges`: any list of ranges, put into increasing order without overlap.
- Definitions `CharSet.union`, `CharSet.complement`, `CharSet.inter` and their like: set algebra.
- Definition `CharSet.ofText`: the set described by a written table.
-/

namespace ShellComposer.Unicode

/-- The first and the last code point of a run. -/
abbrev CodeRange := Nat × Nat

/-- The largest code point. -/
def lastCodePoint : Nat := 0x10FFFF

/-- A set of characters, as ranges of code points. -/
structure CharSet where
  ranges : List CodeRange

namespace CharSet

/-- Whether a code point lies in one of the ranges. -/
def holds (set : CharSet) (code : Nat) : Bool :=
  set.ranges.any fun range => range.1 ≤ code && code ≤ range.2

/-- Whether a character is in the set. -/
def contains (set : CharSet) (c : Char) : Bool :=
  set.holds c.toNat

/-! ## Ordering ranges -/

/-- Join each range to the one before it when they overlap or touch. -/
def joinFrom (current : CodeRange) : List CodeRange → List CodeRange
  | [] => [current]
  | next :: rest =>
    if next.1 ≤ current.2 + 1 then joinFrom (current.1, max current.2 next.2) rest
    else current :: joinFrom next rest

/-- Join the ranges of a list that is ordered by first code point. -/
def join : List CodeRange → List CodeRange
  | [] => []
  | first :: rest => joinFrom first rest

/-- The set that a list of ranges describes, in whatever order they come. -/
def ofRanges (ranges : List CodeRange) : CharSet :=
  ⟨join ((ranges.filter fun range => range.1 ≤ range.2).mergeSort fun a b => a.1 ≤ b.1)⟩

/-- The set without members. -/
def empty : CharSet := ⟨[]⟩

/-- Every code point. -/
def full : CharSet := ⟨[(0, lastCodePoint)]⟩

/-- The set of one character. -/
def single (c : Char) : CharSet := ⟨[(c.toNat, c.toNat)]⟩

/-! ## Set algebra -/

/-- Members of either set. -/
def union (a b : CharSet) : CharSet :=
  ofRanges (a.ranges ++ b.ranges)

/-- The gaps between ordered ranges, from `start` up to `last`. -/
def gapsFrom (start last : Nat) : List CodeRange → List CodeRange
  | [] => if start ≤ last then [(start, last)] else []
  | range :: rest =>
    if start < range.1 then (start, range.1 - 1) :: gapsFrom (range.2 + 1) last rest
    else gapsFrom (range.2 + 1) last rest

/-- The code points up to `last` that are not members. -/
def complementUpTo (set : CharSet) (last : Nat) : CharSet :=
  ⟨gapsFrom 0 last set.ranges⟩

/-- The characters that are not members. -/
def complement (set : CharSet) : CharSet :=
  set.complementUpTo lastCodePoint

/-- The overlaps of one range with a list of ranges. -/
def overlaps (range : CodeRange) (others : List CodeRange) : List CodeRange :=
  others.filterMap fun other =>
    let low := max range.1 other.1
    let high := min range.2 other.2
    if low ≤ high then some (low, high) else none

/-- Members of both sets. -/
def inter (a b : CharSet) : CharSet :=
  ofRanges (a.ranges.flatMap fun range => overlaps range b.ranges)

/-- Members of the first set that are not in the second. -/
def difference (a b : CharSet) : CharSet :=
  a.inter b.complement

/-- Members of exactly one of the sets. -/
def symmetricDifference (a b : CharSet) : CharSet :=
  (a.union b).difference (a.inter b)

/-- Whether every member is below 128. -/
def isAscii (set : CharSet) : Bool :=
  set.ranges.all fun range => range.2 < 128

/-! ## Written tables -/

/-- The pieces of a text between the characters that divide it, without empty pieces. -/
def pieces (divides : Char → Bool) (text : List Char) : List (List Char) :=
  let all := text.foldr (fun c found =>
    if divides c then [] :: found
    else match found with
      | [] => [[c]]
      | piece :: rest => (c :: piece) :: rest) []
  all.filter fun piece => !piece.isEmpty

/-- The words of a written table, which stand between blanks and line ends. -/
def tableWords (text : String) : List (List Char) :=
  pieces (fun c => c == ' ' || c == '\n') text.toList

/-- The value of a hexadecimal digit in capitals. -/
def hexValue (c : Char) : Nat :=
  if c.isDigit then c.toNat - '0'.toNat else c.toNat - 'A'.toNat + 10

/-- The number that hexadecimal digits in capitals denote. -/
def hexNumber (digits : List Char) : Nat :=
  digits.foldl (fun code c => 16 * code + hexValue c) 0

/-- The code points that a word stands for: a range such as `41-5A`, or a single one. -/
def rangeOfWord (word : List Char) : CodeRange :=
  match (pieces (· == '-') word).map hexNumber with
  | [low, high] => (low, high)
  | low :: _ => (low, low)
  | [] => (0, 0)

/-- The set described by a written table such as `41-5A AA B5`, whose ranges are in increasing
order. -/
def ofText (text : String) : CharSet :=
  ⟨(tableWords text).map rangeOfWord⟩

end CharSet

end ShellComposer.Unicode
