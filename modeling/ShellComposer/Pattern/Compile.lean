import ShellComposer.Pattern.ClassTable
import ShellComposer.Pattern.Expr
import ShellComposer.Pattern.Parser

/-!
# From written patterns to expressions

A pattern is compiled by working its flags into its parts.  Flags set in the course of a group hold
for what follows in the group, further alternatives included.  While the Unicode flag is off,
classes are classes of bytes, and a part that could match a byte beyond ASCII is refused, since it
could split a character.

Main results:

- Definition `Syntax.toExpr`: the expression of a pattern, if all its parts make sense.
- Definition `exprOfText`: the expression of a written pattern, if it is one.
- Definition `search`: the engine that searches values for a pattern.
-/

namespace ShellComposer.Pattern

open Unicode

/-! ## Modes -/

/-- The flags that hold at a place of a pattern. -/
structure Mode where
  caseInsensitive : Bool
  multiLine : Bool
  dotMatchesNewLine : Bool
  unicode : Bool
  crlf : Bool
deriving DecidableEq, Repr

namespace Mode

/-- The flags that hold at the start of a pattern. -/
def initial : Mode :=
  ⟨false, false, false, true, false⟩

/-- The mode after some flags have been switched. -/
def apply (mode : Mode) (items : List FlagItem) : Mode where
  caseInsensitive := (flagState? .caseInsensitive items).getD mode.caseInsensitive
  multiLine := (flagState? .multiLine items).getD mode.multiLine
  dotMatchesNewLine := (flagState? .dotMatchesNewLine items).getD mode.dotMatchesNewLine
  unicode := (flagState? .unicode items).getD mode.unicode
  crlf := (flagState? .crlf items).getD mode.crlf

/-- A set with the case variants of its members where case does not count. -/
def fold (mode : Mode) (set : CharSet) : CharSet :=
  if !mode.caseInsensitive then set
  else if mode.unicode then set.foldCase
  else set.foldAsciiCase

/-- Fold a set, then take its complement where the class is negated.  A class of bytes has to stay
within ASCII. -/
def foldAndNegate (mode : Mode) (negated : Bool) (set : CharSet) : Option CharSet :=
  let folded := mode.fold set
  if mode.unicode then some (if negated then folded.complement else folded)
  else
    let bytes := if negated then folded.complementUpTo 0xFF else folded
    if bytes.isAscii then some bytes else none

end Mode

/-! ## Classes -/

/-- The character of a literal; a raw byte beyond ASCII is no character where bytes count. -/
def Literal.char? (mode : Mode) (literal : Literal) : Option Char :=
  if !mode.unicode && literal.raw && 0x80 ≤ literal.char.toNat then none else some literal.char

/-- The character of a literal in a class, where classes of bytes take ASCII characters alone. -/
def Literal.classChar? (mode : Mode) (literal : Literal) : Option Char :=
  if mode.unicode || literal.char.toNat < 0x80 then some literal.char else none

/-- The members of a class given by a property. -/
def propertyClass (mode : Mode) (query : PropertyQuery) (negated : Bool) : Option CharSet :=
  if mode.unicode then do mode.foldAndNegate negated (← query.members?) else none

/-- The members of a class given by a letter. -/
def letterClass (mode : Mode) (kind : LetterClass) (negated : Bool) : Option CharSet :=
  if mode.unicode then
    some (if negated then kind.members.complement else kind.members)
  else if negated then none
  else some kind.asciiMembers

/-- Apply an operation to two sets. -/
def SetOperation.apply : SetOperation → CharSet → CharSet → CharSet
  | intersection, a, b => a.inter b
  | difference, a, b => a.difference b
  | symmetricDifference, a, b => a.symmetricDifference b

mutual
/-- The members of what stands inside brackets. -/
def ClassSet.members (mode : Mode) : ClassSet → Option CharSet
  | .nothing => some .empty
  | .literal char => do return .single (← char.classChar? mode)
  | .range first last => do
    let first ← first.classChar? mode
    let last ← last.classChar? mode
    return ⟨[(first.toNat, last.toNat)]⟩
  | .ascii kind negated => mode.foldAndNegate negated kind.members
  | .property query negated => propertyClass mode query negated
  | .letter kind negated => letterClass mode kind negated
  | .bracketed negated content => do mode.foldAndNegate negated (← content.members mode)
  | .union items => ClassSet.unionMembers mode items
  | .operation kind left right => do
    let left ← left.members mode
    let right ← right.members mode
    return kind.apply (mode.fold left) (mode.fold right)

/-- The members of several classes together. -/
def ClassSet.unionMembers (mode : Mode) : List ClassSet → Option CharSet
  | [] => some .empty
  | item :: rest => do return (← item.members mode).union (← ClassSet.unionMembers mode rest)
end

/-! ## Patterns -/

/-- The condition that an assertion puts on a position. -/
def Assertion.toLook (mode : Mode) : Assertion → Look
  | lineStart =>
    if !mode.multiLine then .textStart else if mode.crlf then .crlfLineStart else .lineStart
  | lineEnd =>
    if !mode.multiLine then .textEnd else if mode.crlf then .crlfLineEnd else .lineEnd
  | textStart => .textStart
  | textEnd => .textEnd
  | word edge =>
    let set := if mode.unicode then wordSet else AsciiClass.word.members
    match edge with
    | .boundary => .edge set fun before after => before != after
    | .noBoundary => .edge set fun before after => before == after
    | .start => .edge set fun before after => !before && after
    | .finish => .edge set fun before after => before && !after
    | .startHalf => .edge set fun before _ => !before
    | .endHalf => .edge set fun _ after => !after

/-- What a dot stands for.  It would match single bytes where bytes count and is refused there. -/
def dotSet (mode : Mode) : Option CharSet :=
  if !mode.unicode then none
  else if mode.dotMatchesNewLine then some .full
  else if mode.crlf then some (CharSet.ofText "A D").complement
  else some (CharSet.ofText "A").complement

mutual
/-- The expression of a pattern, and the mode after it. -/
def Syntax.toExpr (mode : Mode) : Syntax → Option (Expr × Mode)
  | .empty => some (.empty, mode)
  | .flags items => some (.empty, mode.apply items)
  | .literal char => do return (.set (mode.fold (.single (← char.char? mode))), mode)
  | .dot => do return (.set (← dotSet mode), mode)
  | .assertion condition => some (.look (condition.toLook mode), mode)
  | .property query negated => do return (.set (← propertyClass mode query negated), mode)
  | .letter kind negated => do return (.set (← letterClass mode kind negated), mode)
  | .bracketed negated content => do
    return (.set (← mode.foldAndNegate negated (← content.members mode)), mode)
  | .repetition min max body => do
    let (body, after) ← body.toExpr mode
    return (.repetition min max body, after)
  | .group items body => do
    let (body, _) ← body.toExpr (mode.apply items)
    return (body, mode)
  | .concat parts => Syntax.concatExpr mode parts
  | .alternation branches => Syntax.eitherExpr mode branches

/-- The expression of several parts that follow each other. -/
def Syntax.concatExpr (mode : Mode) : List Syntax → Option (Expr × Mode)
  | [] => some (.empty, mode)
  | [part] => part.toExpr mode
  | part :: rest => do
    let (first, mode) ← part.toExpr mode
    let (second, mode) ← Syntax.concatExpr mode rest
    return (.concat first second, mode)

/-- The expression of several alternatives. -/
def Syntax.eitherExpr (mode : Mode) : List Syntax → Option (Expr × Mode)
  | [] => some (.empty, mode)
  | [branch] => branch.toExpr mode
  | branch :: rest => do
    let (first, mode) ← branch.toExpr mode
    let (second, mode) ← Syntax.eitherExpr mode rest
    return (.either first second, mode)
end

/-- The most memory that a compiled pattern may take, ten times a megabyte.  It is compared with an
estimate, so this engine may draw the line elsewhere than another one. -/
def weightLimit : Nat := 10 * 1048576

/-- The expression of a written pattern, unless it is not valid or too large. -/
def exprOfText (text : String) : Option Expr := do
  let tree ← parsePattern text
  let (expr, _) ← tree.toExpr .initial
  if expr.weight ≤ weightLimit then return expr else none

/-! ## Engines

A catalog only needs to know which texts are patterns and which values they occur in. -/

/-- A compiled pattern: which values it accepts. -/
abbrev Matcher := String → Bool

/-- A way to compile patterns; texts that are no patterns yield nothing. -/
abbrev Engine := String → Option Matcher

/-- The engine that searches values for the pattern written in a text.  Catalogs are built and
checked with any engine; this is the one that is run. -/
def search : Engine := fun text =>
  (exprOfText text).map fun expr value => expr.occursIn value.toList.toArray

end ShellComposer.Pattern
