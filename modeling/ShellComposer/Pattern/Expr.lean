import ShellComposer.Unicode.CharSet
import ShellComposer.Text.Blank

/-!
# Pattern expressions and what they match

An expression is a pattern with its flags worked in: sets of characters, assertions about positions,
and the ways to combine them.  An expression matches a text from one position to another; a text
contains the pattern when it matches between some two positions.

Main results:

- Inductive relation `Matches`: which stretches of a text an expression matches.
- Definition `Expr.ends`: where matches that start in a set of positions can end, computed for all
  starts at once.
- Definition `Expr.occursIn`: whether it matches somewhere in a text.
- Definition `Expr.weight`: an estimate of the memory that a compiled pattern takes.
-/

namespace ShellComposer.Pattern

open Unicode

/-! ## Expressions -/

/-- A condition on a position of a text. -/
inductive Look where
  | textStart
  | textEnd
  | lineStart
  | lineEnd
  | crlfLineStart
  | crlfLineEnd
  | edge (word : CharSet) (test : Bool → Bool → Bool)

/-- A pattern with its flags worked in. -/
inductive Expr where
  | empty
  | set (set : CharSet)
  | look (look : Look)
  | concat (first second : Expr)
  | either (first second : Expr)
  | repetition (min : Nat) (max : Option Nat) (body : Expr)

/-! ## Positions -/

/-- The character before a position. -/
def charBefore? (text : Array Char) (position : Nat) : Option Char :=
  if position = 0 then none else text[position - 1]?

/-- Whether a position has a character of a set before it. -/
def isBefore (text : Array Char) (position : Nat) (holds : Char → Bool) : Bool :=
  match charBefore? text position with
  | some c => holds c
  | none => false

/-- Whether a position has a character of a set after it. -/
def isAfter (text : Array Char) (position : Nat) (holds : Char → Bool) : Bool :=
  match text[position]? with
  | some c => holds c
  | none => false

/-- Whether a condition holds at a position. -/
def Look.holdsAt (text : Array Char) (position : Nat) : Look → Bool
  | textStart => position == 0
  | textEnd => position == text.size
  | lineStart => position == 0 || isBefore text position (· == '\n')
  | lineEnd => position == text.size || isAfter text position (· == '\n')
  | crlfLineStart =>
    position == 0 || isBefore text position (· == '\n') ||
      (isBefore text position (· == '\r') && !isAfter text position (· == '\n'))
  | crlfLineEnd =>
    position == text.size || isAfter text position (· == '\r') ||
      (isAfter text position (· == '\n') && !isBefore text position (· == '\r'))
  | edge word test =>
    test (isBefore text position word.contains) (isAfter text position word.contains)

/-! ## Matching as a relation -/

mutual
/-- An expression matches a text from one position to another. -/
inductive Matches (text : Array Char) : Expr → Nat → Nat → Prop where
  | empty {i : Nat} (inside : i ≤ text.size) : Matches text .empty i i
  | set {set : CharSet} {i : Nat} (inside : i < text.size) (member : set.contains text[i] = true) :
      Matches text (.set set) i (i + 1)
  | look {look : Look} {i : Nat} (inside : i ≤ text.size) (holds : look.holdsAt text i = true) :
      Matches text (.look look) i i
  | concat {first second : Expr} {i j k : Nat} (left : Matches text first i j)
      (right : Matches text second j k) : Matches text (.concat first second) i k
  | left {first second : Expr} {i j : Nat} (left : Matches text first i j) :
      Matches text (.either first second) i j
  | right {first second : Expr} {i j : Nat} (right : Matches text second i j) :
      Matches text (.either first second) i j
  | repetition {min : Nat} {max : Option Nat} {body : Expr} {count i j : Nat}
      (atLeast : min ≤ count) (atMost : ∀ most ∈ max, count ≤ most)
      (rounds : Rounds text body count i j) : Matches text (.repetition min max body) i j

/-- An expression matches a number of stretches that follow each other. -/
inductive Rounds (text : Array Char) : Expr → Nat → Nat → Nat → Prop where
  | done {body : Expr} {i : Nat} (inside : i ≤ text.size) : Rounds text body 0 i i
  | again {body : Expr} {count i j k : Nat} (once : Matches text body i j)
      (rest : Rounds text body count j k) : Rounds text body (count + 1) i k
end

/-! ## Matching from many positions at once

A set of positions is a natural number whose binary digits say which positions are in it. -/

/-- A set of positions, one binary digit for each. -/
abbrev Positions := Nat

/-- The positions up to the end of a text where something holds. -/
def positionsWhere (text : Array Char) (holds : Nat → Bool) : Positions :=
  (List.range (text.size + 1)).foldl
    (fun set position => if holds position then set ||| 1 <<< position else set) 0

/-- Apply a step a number of times, or fewer when it changes nothing any more. -/
def iterate (step : Positions → Positions) : Nat → Positions → Positions
  | 0, start => start
  | count + 1, start =>
    let reached := step start
    if reached = start then start else iterate step count reached

/-- Everything that up to a number of steps lead to, start included. -/
def saturate (step : Positions → Positions) : Nat → Positions → Positions
  | 0, start => start
  | count + 1, start =>
    let reached := start ||| step start
    if reached = start then start else saturate step count reached

namespace Expr

/-- The positions where matches end that start in a set of positions.  Among the positions of a text
a repetition reaches nothing new after as many rounds as there are positions. -/
def ends (text : Array Char) : Expr → Positions → Positions
  | empty, start => start
  | set members, start =>
    (start &&& positionsWhere text fun i => isAfter text i members.contains) <<< 1
  | look condition, start => start &&& positionsWhere text fun i => condition.holdsAt text i
  | concat first second, start => second.ends text (first.ends text start)
  | either first second, start => first.ends text start ||| second.ends text start
  | repetition min max body, start =>
    let rounds := match max with
      | some max => max - min
      | none => text.size + 1
    saturate (body.ends text) rounds (iterate (body.ends text) min start)

/-- Whether the expression matches somewhere in a text. -/
def occursIn (expr : Expr) (text : Array Char) : Bool :=
  expr.ends text (positionsWhere text fun _ => true) != 0

/-! ## Size

How much room a compiled pattern takes depends on the automaton that an engine builds.  The numbers
below are an estimate for this engine; what is proved of catalogs holds for engines with other
limits as well.
-/

/-- The memory a set takes in an automaton over bytes: one state for an ASCII range, a state with
transitions for several, and about sixty bytes for every range beyond. -/
def setWeight (set : CharSet) : Nat :=
  match set.ranges with
  | [] => 32
  | [(first, last)] =>
    if last < 0x80 then 32
    else if first == last then
      (if last < 0x800 then 2 else if last < 0x10000 then 3 else 4) * 32
    else 400
  | ranges => if set.isAscii then 32 + 8 * ranges.length else 300 + 60 * ranges.length

/-- Whether every match is empty, as far as the form of the expression tells. -/
def isAlwaysEmpty : Expr → Bool
  | empty => true
  | set _ => false
  | look _ => true
  | concat first second => first.isAlwaysEmpty && second.isAlwaysEmpty
  | either first second => first.isAlwaysEmpty && second.isAlwaysEmpty
  | repetition _ max body => body.isAlwaysEmpty || max == some 0

/-- The memory an expression takes in an automaton over bytes.  More than one round of something
that is always empty takes no more than one round. -/
def weight : Expr → Nat
  | empty => 32
  | set members => setWeight members
  | look _ => 32
  | concat first second => first.weight + second.weight
  | either first second => first.weight + second.weight + 72
  | repetition min max body =>
    if body.isAlwaysEmpty then body.weight + 72
    else
      match max with
      | none => (if min = 0 then 1 else min) * body.weight + 40
      | some max => max * body.weight + (max - min) * 40 + 32

end Expr

end ShellComposer.Pattern
