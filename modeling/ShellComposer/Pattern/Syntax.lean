/-!
# The syntax of patterns

A pattern describes texts in the usual notation of regular expressions: literals, classes of
characters, assertions about a position, groups, alternatives and repetitions.  This module holds
the syntax tree that a written pattern is read into; what the parts mean depends on flags that are
set on the way and is settled later.

Main results:

- Types `Flag`, `FlagItem`, `Assertion`, `ClassSet`, `Syntax`.
- Definition `Syntax.depth`: how deep a tree nests.
-/

namespace ShellComposer.Pattern

/-! ## Flags -/

/-- The flags that change how a pattern is read. -/
inductive Flag where
  | caseInsensitive
  | multiLine
  | dotMatchesNewLine
  | swapGreed
  | unicode
  | crlf
  | ignoreBlanks
deriving DecidableEq, Repr

/-- A flag that is switched on or off. -/
structure FlagItem where
  flag : Flag
  on : Bool
deriving DecidableEq, Repr

/-- What a list of flag items says about a flag. -/
def flagState? (flag : Flag) (items : List FlagItem) : Option Bool :=
  (items.find? fun item => item.flag == flag).map FlagItem.on

/-! ## Assertions -/

/-- How the characters before and after a position make it an edge of a word. -/
inductive WordEdge where
  | boundary
  | noBoundary
  | start
  | finish
  | startHalf
  | endHalf
deriving DecidableEq, Repr

/-- An assertion about a position, as it is written. -/
inductive Assertion where
  | lineStart
  | lineEnd
  | textStart
  | textEnd
  | word (edge : WordEdge)
deriving DecidableEq, Repr

/-! ## Classes -/

/-- The classes with a letter of their own. -/
inductive LetterClass where
  | digit
  | space
  | word
deriving DecidableEq, Repr

/-- The classes of ASCII characters with a name of their own. -/
inductive AsciiClass where
  | alnum
  | alpha
  | ascii
  | blank
  | cntrl
  | digit
  | graph
  | lower
  | print
  | punct
  | space
  | upper
  | word
  | xdigit
deriving DecidableEq, Repr

/-- A class asked for by the name of a property, or by a property and its value. -/
inductive PropertyQuery where
  | named (name : String)
  | valued (property value : String)
deriving DecidableEq, Repr

/-- A literal character; `raw` says that it was written as two hexadecimal digits. -/
structure Literal where
  char : Char
  raw : Bool
deriving DecidableEq, Repr

/-- The operations between sets of a bracketed class. -/
inductive SetOperation where
  | intersection
  | difference
  | symmetricDifference
deriving DecidableEq, Repr

/-- What stands inside the brackets of a class. -/
inductive ClassSet where
  | nothing
  | literal (literal : Literal)
  | range (first last : Literal)
  | ascii (kind : AsciiClass) (negated : Bool)
  | property (query : PropertyQuery) (negated : Bool)
  | letter (kind : LetterClass) (negated : Bool)
  | bracketed (negated : Bool) (content : ClassSet)
  | union (items : List ClassSet)
  | operation (kind : SetOperation) (left right : ClassSet)
deriving Repr

/-! ## Trees -/

/-- A pattern as it is written. -/
inductive Syntax where
  | empty
  | flags (items : List FlagItem)
  | literal (literal : Literal)
  | dot
  | assertion (assertion : Assertion)
  | property (query : PropertyQuery) (negated : Bool)
  | letter (kind : LetterClass) (negated : Bool)
  | bracketed (negated : Bool) (content : ClassSet)
  | repetition (min : Nat) (max : Option Nat) (body : Syntax)
  | group (flags : List FlagItem) (body : Syntax)
  | concat (parts : List Syntax)
  | alternation (branches : List Syntax)
deriving Repr

/-! ## Nesting -/

mutual
/-- How deep a class nests. -/
def ClassSet.depth : ClassSet → Nat
  | .bracketed _ content => content.depth + 1
  | .union items => ClassSet.maxDepth items + 1
  | .operation _ left right => max left.depth right.depth + 1
  | _ => 0

/-- The depth of the deepest of several classes. -/
def ClassSet.maxDepth : List ClassSet → Nat
  | [] => 0
  | item :: rest => max item.depth (ClassSet.maxDepth rest)
end

mutual
/-- How deep a pattern nests. -/
def Syntax.depth : Syntax → Nat
  | .bracketed _ content => content.depth + 1
  | .repetition _ _ body => body.depth + 1
  | .group _ body => body.depth + 1
  | .concat parts => Syntax.maxDepth parts + 1
  | .alternation branches => Syntax.maxDepth branches + 1
  | _ => 0

/-- The depth of the deepest of several patterns. -/
def Syntax.maxDepth : List Syntax → Nat
  | [] => 0
  | part :: rest => max part.depth (Syntax.maxDepth rest)
end

end ShellComposer.Pattern
