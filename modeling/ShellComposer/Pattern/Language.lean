import ShellComposer.Pattern.Compile

/-!
# Languages of patterns

Which texts are patterns, and what they match, is up to the engine that compiles them.  This module
says what an engine for regular expressions documents about patterns in a group between the start
and the end of a text, whatever else its patterns may hold.

Main results:

- Structure `Language`: which texts are patterns, and which stretches of a text they match.
- Structure `Language.Lawful`: how groups are read, and what the parts of a pattern match.
- Structure `Speaks`: an engine compiles the patterns of a language and searches values for them.
- Definition `Language.Stray`: a text that is no pattern, but starts with one in front of a closing
  parenthesis.
-/

namespace ShellComposer.Pattern

/-! ## Languages -/

/-- A language of patterns.  What a text stands for does not depend on how deep it nests or how much
room it takes; whether there is room to compile it is a question of its own. -/
structure Language where
  /-- What a text is read as. -/
  Tree : Type
  /-- The reading of a text, if the text is a pattern. -/
  parse : String → Option Tree
  /-- The start of the text, written `^`. -/
  start : Tree
  /-- The end of the text, written `$`. -/
  finish : Tree
  /-- A group that captures nothing, written `(?:` in front and `)` behind. -/
  group : Tree → Tree
  /-- One pattern behind another. -/
  sequence : Tree → Tree → Tree
  /-- A pattern matches a text from one position to another; positions count characters. -/
  Matches : Tree → String → Nat → Nat → Prop
  /-- A text is within the limits that are set to nesting and to size. -/
  Fits : String → Prop

namespace Language

variable (language : Language)

/-- A text that is no pattern, although what stands in front of one of its closing parentheses is
one.  Such a parenthesis may close a group that is opened in front of the text. -/
def Stray (text : String) : Prop :=
  language.parse text = none ∧
    ∃ first second, text = first ++ ")" ++ second ∧ (language.parse first).isSome = true

/-- The documented laws of groups and of the ends of a text. -/
structure Lawful : Prop where
  /-- `^` matches at the start of the text only, as long as lines do not count. -/
  start_iff : ∀ text i j, language.Matches language.start text i j ↔ i = 0 ∧ j = 0
  /-- `$` matches at the end of the text only, as long as lines do not count. -/
  finish_iff : ∀ text i j,
    language.Matches language.finish text i j ↔ i = text.length ∧ j = text.length
  /-- A group matches what the pattern in it matches. -/
  group_iff : ∀ tree text i j,
    language.Matches (language.group tree) text i j ↔ language.Matches tree text i j
  /-- A pattern behind another one matches from where that one ends. -/
  sequence_iff : ∀ first second text i k,
    language.Matches (language.sequence first second) text i k ↔
      ∃ j, language.Matches first text i j ∧ language.Matches second text j k
  /-- A pattern in a group between `^` and `$` is read as it is, unless it ends in a comment, which
  would go on over the end of the group. -/
  enclosed : ∀ text tree, language.parse text = some tree → language.parse (text ++ ")$") = none →
    language.parse ("^(?:" ++ text ++ ")$") =
      some (language.sequence language.start
        (language.sequence (language.group tree) language.finish))
  /-- In a text that is a pattern by itself, every closing parenthesis closes something; none is
  left for a group that is opened in front of it. -/
  unclosed : ∀ text, (language.parse text).isSome = true →
    language.parse ("^(?:" ++ text) = none
  /-- A group that is opened is closed, and what stands in it is a pattern. -/
  closed : ∀ text, (language.parse ("^(?:" ++ text)).isSome = true →
    ∃ inside behind, text = inside ++ ")" ++ behind ∧ (language.parse inside).isSome = true

end Language

/-- An engine compiles the patterns of a language that fit, and accepts a value when the pattern
occurs somewhere in it. -/
structure Speaks (engine : Engine) (language : Language) : Prop where
  /-- A text is compiled unless it is no pattern or does not fit. -/
  isSome_iff : ∀ text, (engine text).isSome = true ↔
    (language.parse text).isSome = true ∧ language.Fits text
  /-- Values are searched for the pattern, from any position to any other. -/
  accepts_iff : ∀ text matcher tree, engine text = some matcher →
    language.parse text = some tree → ∀ value, matcher value = true ↔
      ∃ i j, language.Matches tree value i j

end ShellComposer.Pattern
