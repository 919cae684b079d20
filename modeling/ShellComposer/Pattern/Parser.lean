import ShellComposer.Pattern.Syntax
import ShellComposer.Text.Blank
import ShellComposer.Unicode.Property

/-!
# Reading patterns

A written pattern is read into a syntax tree from left to right.  There are no look-around
assertions and no references back to groups; whatever is not a pattern is refused without details.

While the flag for ignoring blanks is on, blanks and comments between the parts of a pattern are
passed over.  A flag set inside a group holds up to the end of the group.

Main results:

- Structure `Cursor`: what is left to read, and what has to be remembered.
- Definition `parsePattern`: the syntax tree of a written pattern.
-/

namespace ShellComposer.Pattern

open Unicode

/-! ## The cursor -/

/-- What is left to read, whether blanks are ignored, and the group names used so far. -/
structure Cursor where
  rest : List Char
  ignoreBlanks : Bool
  names : List String

/-- The text after blanks and comments.  A comment runs from a hash sign to the end of its line. -/
def skipFrom (inComment : Bool) : List Char → List Char
  | [] => []
  | c :: rest =>
    if inComment then skipFrom (c != '\n') rest
    else if Text.isBlank c then skipFrom false rest
    else if c == '#' then skipFrom true rest
    else c :: rest

namespace Cursor

/-- Go on to another text. -/
def goto (cursor : Cursor) (rest : List Char) : Cursor :=
  { cursor with rest }

/-- Pass over blanks and comments where they are ignored. -/
def skip (cursor : Cursor) : Cursor :=
  if cursor.ignoreBlanks then cursor.goto (skipFrom false cursor.rest) else cursor

/-- Go on to another text and pass over blanks there. -/
def skipTo (cursor : Cursor) (rest : List Char) : Cursor :=
  (cursor.goto rest).skip

/-- The next character that counts, when the text after the current one is `rest`.  Inside a comment
that starts there, it is the first visible character of the comment. -/
def peekAfter (cursor : Cursor) (rest : List Char) : Option Char :=
  if cursor.ignoreBlanks then
    match rest.dropWhile Text.isBlank with
    | [] => rest.head?
    | '#' :: comment =>
      match comment.dropWhile Text.isBlank with
      | [] => rest.head?
      | c :: _ => some c
    | c :: _ => some c
  else rest.head?

end Cursor

/-! ## Escapes -/

/-- A part of a pattern that may also stand in a class, or at least be written there. -/
inductive Primitive where
  | literal (literal : Literal)
  | assertion (assertion : Assertion)
  | property (query : PropertyQuery) (negated : Bool)
  | letter (kind : LetterClass) (negated : Bool)

/-- The characters with a meaning of their own somewhere in patterns. -/
def isMeta (c : Char) : Bool :=
  "\\.+*?()|[]\x7b\x7d^$#&-~".toList.contains c

/-- Whether a backslash before a character just yields the character. -/
def isEscapable (c : Char) : Bool :=
  isMeta c || (c.toNat < 128 && !c.isAlphanum && c != '<' && c != '>')

/-- The value of a hexadecimal digit. -/
def hexDigit? (c : Char) : Option Nat :=
  if c.isDigit then some (c.toNat - '0'.toNat)
  else if 'a' ≤ c ∧ c ≤ 'f' then some (c.toNat - 'a'.toNat + 10)
  else if 'A' ≤ c ∧ c ≤ 'F' then some (c.toNat - 'A'.toNat + 10)
  else none

/-- The character with a code point, which must not be a surrogate. -/
def scalar? (code : Nat) : Option Char :=
  if code < 0xD800 ∨ (0xDFFF < code ∧ code ≤ lastCodePoint) then some (Char.ofNat code) else none

/-- Read exactly `count` more hexadecimal digits.  Between digits blanks may be ignored. -/
def parseHexDigits (cursor : Cursor) (value : Nat) : Nat → Option (Nat × Cursor)
  | 0 => some (value, cursor)
  | count + 1 =>
    match cursor.rest with
    | [] => none
    | c :: rest => do
      let digit ← hexDigit? c
      parseHexDigits (cursor.skipTo rest) (16 * value + digit) count

/-- Read hexadecimal digits up to a closing brace. -/
def parseHexBrace (cursor : Cursor) (value : Option Nat) : Nat → Option (Nat × Cursor)
  | 0 => none
  | steps + 1 =>
    match cursor.rest with
    | [] => none
    | '\x7d' :: rest => do return (← value, cursor.skipTo rest)
    | c :: rest => do
      let digit ← hexDigit? c
      parseHexBrace (cursor.skipTo rest) (some (16 * value.getD 0 + digit)) steps

/-- Read a character given by its code point, after the letter that announces it. -/
def parseHex (cursor : Cursor) (digits : Nat) : Option (Primitive × Cursor) := do
  let cursor := cursor.skip
  match cursor.rest with
  | [] => none
  | '\x7b' :: rest =>
    let cursor := cursor.skipTo rest
    let (code, cursor) ← parseHexBrace cursor none (cursor.rest.length + 1)
    return (.literal ⟨← scalar? code, false⟩, cursor)
  | _ =>
    let (code, cursor) ← parseHexDigits cursor 0 digits
    return (.literal ⟨← scalar? code, digits == 2⟩, cursor)

/-- Read the name of a property up to a closing brace. -/
def parsePropertyName (cursor : Cursor) (name : List Char) :
    Nat → Option (List Char × Cursor)
  | 0 => none
  | steps + 1 =>
    match cursor.rest with
    | [] => none
    | '\x7d' :: rest => some (name.reverse, cursor.goto rest)
    | c :: rest => parsePropertyName (cursor.skipTo rest) (c :: name) steps

/-- The text before and after the first place where another text occurs. -/
def splitAtFirst (mark : List Char) : List Char → Option (List Char × List Char)
  | [] => none
  | c :: rest =>
    if mark.isPrefixOf (c :: rest) then some ([], (c :: rest).drop mark.length)
    else (splitAtFirst mark rest).map fun (front, back) => (c :: front, back)

/-- The query written between the braces of a property, and whether it asks for the opposite. -/
def queryOfName (name : List Char) : PropertyQuery × Bool :=
  match splitAtFirst ['!', '='] name, splitAtFirst [':'] name, splitAtFirst ['='] name with
  | some (property, value), _, _ =>
    (.valued (String.ofList property) (String.ofList value), true)
  | none, some (property, value), _ =>
    (.valued (String.ofList property) (String.ofList value), false)
  | none, none, some (property, value) =>
    (.valued (String.ofList property) (String.ofList value), false)
  | none, none, none => (.named (String.ofList name), false)

/-- Read a class given by a property, after the letter that announces it. -/
def parseProperty (cursor : Cursor) (negated : Bool) : Option (Primitive × Cursor) := do
  let cursor := cursor.skip
  match cursor.rest with
  | [] => none
  | '\x7b' :: rest =>
    let cursor := cursor.skipTo rest
    let (name, cursor) ← parsePropertyName cursor [] (cursor.rest.length + 1)
    let (query, opposite) := queryOfName name
    return (.property query (negated != opposite), cursor)
  | '\\' :: _ => none
  | c :: rest => return (.property (.named c.toString) negated, cursor.skipTo rest)

/-- Whether a character may stand in the braces after the escape for word boundaries. -/
def isEdgeChar (c : Char) : Bool :=
  c.isAlpha || c == '-'

/-- Read the letters of a kind of word boundary. -/
def parseEdgeName (cursor : Cursor) (name : List Char) : Nat → List Char × Cursor
  | 0 => (name.reverse, cursor)
  | steps + 1 =>
    match cursor.rest with
    | [] => (name.reverse, cursor)
    | c :: rest =>
      if isEdgeChar c then parseEdgeName (cursor.skipTo rest) (c :: name) steps
      else (name.reverse, cursor)

/-- The kinds of word boundaries that are named in braces. -/
def edgeNames : List (String × WordEdge) :=
  [("start", .start), ("end", .finish), ("start-half", .startHalf), ("end-half", .endHalf)]

/-- Read what follows the escape for word boundaries: a kind in braces, or nothing.  Braces that do
not start with a letter are left for a counted repetition. -/
def parseWordEdge (cursor : Cursor) : Option (WordEdge × Cursor) :=
  match cursor.rest with
  | '\x7b' :: rest =>
    let inner := cursor.skipTo rest
    match inner.rest with
    | [] => none
    | c :: _ =>
      if isEdgeChar c then
        let (name, after) := parseEdgeName inner [] (inner.rest.length + 1)
        match after.rest with
        | '\x7d' :: rest => do
          return (← edgeNames.lookup (String.ofList name), after.goto rest)
        | _ => none
      else some (.boundary, cursor)
  | _ => some (.boundary, cursor)

/-- Read an escape after its backslash. -/
def parseEscape (cursor : Cursor) : Option (Primitive × Cursor) :=
  match cursor.rest with
  | [] => none
  | c :: rest =>
    let after := cursor.goto rest
    let literal (c : Char) := some (.literal ⟨c, false⟩, after)
    let assertion (a : Assertion) := some (.assertion a, after)
    if isEscapable c then literal c
    else match c with
      | 'x' => parseHex after 2
      | 'u' => parseHex after 4
      | 'U' => parseHex after 8
      | 'p' => parseProperty after false
      | 'P' => parseProperty after true
      | 'd' => some (.letter .digit false, after)
      | 'D' => some (.letter .digit true, after)
      | 's' => some (.letter .space false, after)
      | 'S' => some (.letter .space true, after)
      | 'w' => some (.letter .word false, after)
      | 'W' => some (.letter .word true, after)
      | 'a' => literal '\x07'
      | 'f' => literal '\x0c'
      | 't' => literal '\t'
      | 'n' => literal '\n'
      | 'r' => literal '\r'
      | 'v' => literal '\x0b'
      | 'A' => assertion .textStart
      | 'z' => assertion .textEnd
      | 'b' => (parseWordEdge after).map fun (edge, cursor) => (.assertion (.word edge), cursor)
      | 'B' => assertion (.word .noBoundary)
      | '<' => assertion (.word .start)
      | '>' => assertion (.word .finish)
      | _ => none

/-! ## Bracketed classes -/

/-- The names of the classes of ASCII characters. -/
def asciiClassNames : List (String × AsciiClass) :=
  [("alnum", .alnum), ("alpha", .alpha), ("ascii", .ascii), ("blank", .blank),
    ("cntrl", .cntrl), ("digit", .digit), ("graph", .graph), ("lower", .lower),
    ("print", .print), ("punct", .punct), ("space", .space), ("upper", .upper),
    ("word", .word), ("xdigit", .xdigit)]

/-- Read a named class of ASCII characters after its opening bracket, if there is one. -/
def parseAsciiClass (rest : List Char) : Option (ClassSet × List Char) :=
  match rest with
  | ':' :: rest =>
    let (negated, rest) := match rest with
      | '^' :: rest => (true, rest)
      | rest => (false, rest)
    let name := rest.takeWhile (· != ':')
    match rest.dropWhile (· != ':') with
    | ':' :: ']' :: rest => do
      return (.ascii (← asciiClassNames.lookup (String.ofList name)) negated, rest)
    | _ => none
  | _ => none

/-- A part of a pattern as an item of a class.  Assertions are no such items. -/
def Primitive.toClassSet : Primitive → Option ClassSet
  | literal l => some (.literal l)
  | assertion _ => none
  | property query negated => some (.property query negated)
  | letter kind negated => some (.letter kind negated)

/-- A part of a pattern as an end of a range.  Only literals are. -/
def Primitive.toLiteral : Primitive → Option Literal
  | literal l => some l
  | _ => none

/-- Read one character or escape of a class. -/
def parseClassPrimitive (cursor : Cursor) : Option (Primitive × Cursor) :=
  match cursor.rest with
  | [] => none
  | '\\' :: rest => parseEscape (cursor.goto rest)
  | c :: rest => some (.literal ⟨c, false⟩, cursor.goto rest)

/-- Read an item or a range of a class.  A dash before the closing bracket or before another dash is
no range. -/
def parseClassRange (cursor : Cursor) : Option (ClassSet × Cursor) := do
  let (first, cursor) ← parseClassPrimitive cursor
  let cursor := cursor.skip
  match cursor.rest with
  | [] => none
  | '-' :: rest =>
    let after := cursor.peekAfter rest
    if after == some ']' || after == some '-' then return (← first.toClassSet, cursor)
    else
      let cursor := cursor.skipTo rest
      let (last, cursor) ← parseClassPrimitive cursor
      let first ← first.toLiteral
      let last ← last.toLiteral
      if first.char ≤ last.char then return (.range first last, cursor) else none
  | _ => return (← first.toClassSet, cursor)

/-- The items read so far as one class, the last one read first. -/
def unionOf : List ClassSet → ClassSet
  | [] => .nothing
  | [item] => item
  | items => .union items.reverse

/-- Apply the operation that waits for its right side, if there is one. -/
def applyPending (pending : Option (SetOperation × ClassSet)) (right : ClassSet) : ClassSet :=
  match pending with
  | some (kind, left) => .operation kind left right
  | none => right

/-- The dashes at the start of a class, which stand for themselves. -/
def parseLeadingDashes (cursor : Cursor) (items : List ClassSet) :
    Nat → List ClassSet × Cursor
  | 0 => (items, cursor)
  | steps + 1 =>
    match cursor.rest with
    | '-' :: rest =>
      parseLeadingDashes (cursor.skipTo rest) (.literal ⟨'-', false⟩ :: items) steps
    | _ => (items, cursor)

/-- Read the start of a class after its opening bracket: a caret that negates it, dashes, and a
closing bracket that stands for itself when it comes first. -/
def parseClassOpen (cursor : Cursor) : Bool × List ClassSet × Cursor :=
  let cursor := cursor.skip
  let (negated, cursor) := match cursor.rest with
    | '^' :: rest => (true, cursor.skipTo rest)
    | _ => (false, cursor)
  let (items, cursor) := parseLeadingDashes cursor [] cursor.rest.length
  match items, cursor.rest with
  | [], ']' :: rest => (negated, [.literal ⟨']', false⟩], cursor.skipTo rest)
  | _, _ => (negated, items, cursor)

mutual
/-- Read a class after its opening bracket. -/
def parseClass : Nat → Cursor → Option ((Bool × ClassSet) × Cursor)
  | 0, _ => none
  | steps + 1, cursor => do
    let (negated, items, cursor) := parseClassOpen cursor
    let (content, cursor) ← parseClassItems steps cursor none items
    return ((negated, content), cursor)

/-- Read the items of a class up to its closing bracket. -/
def parseClassItems : Nat → Cursor → Option (SetOperation × ClassSet) → List ClassSet →
    Option (ClassSet × Cursor)
  | 0, _, _, _ => none
  | steps + 1, cursor, pending, items =>
    let cursor := cursor.skip
    let operation (kind : SetOperation) (rest : List Char) :=
      parseClassItems steps (cursor.goto rest)
        (some (kind, applyPending pending (unionOf items))) []
    match cursor.rest with
    | [] => none
    | ']' :: rest => some (applyPending pending (unionOf items), cursor.goto rest)
    | '&' :: '&' :: rest => operation .intersection rest
    | '-' :: '-' :: rest => operation .difference rest
    | '~' :: '~' :: rest => operation .symmetricDifference rest
    | '[' :: rest =>
      match parseAsciiClass rest with
      | some (item, rest) => parseClassItems steps (cursor.goto rest) pending (item :: items)
      | none => do
        let ((negated, content), cursor) ← parseClass steps (cursor.goto rest)
        parseClassItems steps cursor pending (.bracketed negated content :: items)
    | _ => do
      let (item, cursor) ← parseClassRange cursor
      parseClassItems steps cursor pending (item :: items)
end

/-! ## Repetitions -/

/-- Pass over a question mark that makes a repetition reluctant. -/
def skipReluctant : List Char → List Char
  | '?' :: rest => rest
  | rest => rest

/-- Read digits, between which blanks may be ignored. -/
def parseDigits (cursor : Cursor) (digits : List Char) : Nat → List Char × Cursor
  | 0 => (digits.reverse, cursor)
  | steps + 1 =>
    match cursor.rest with
    | [] => (digits.reverse, cursor)
    | c :: rest =>
      if c.isDigit then parseDigits (cursor.skipTo rest) (c :: digits) steps
      else (digits.reverse, cursor)

/-- Read a count: a 32-bit number with white space around it.  A missing number is `some none`. -/
def parseCount (cursor : Cursor) : Option (Option Nat × Cursor) :=
  let cursor := cursor.goto (cursor.rest.dropWhile Text.isBlank)
  let (digits, cursor) := parseDigits cursor [] cursor.rest.length
  let cursor := (cursor.goto (cursor.rest.dropWhile Text.isBlank)).skip
  if digits.isEmpty then some (none, cursor)
  else
    let value := digits.foldl (fun value d => 10 * value + (d.toNat - '0'.toNat)) 0
    if value < UInt32.size then some (some value, cursor) else none

/-- Read the bounds of a counted repetition after the opening brace, up to the closing one. -/
def parseBounds (cursor : Cursor) : Option (Nat × Option Nat × Cursor) := do
  let cursor := cursor.skip
  if cursor.rest.isEmpty then none
  else
    let (least, cursor) ← parseCount cursor
    match cursor.rest with
    | ',' :: rest =>
      let cursor := cursor.skipTo rest
      match cursor.rest with
      | '\x7d' :: rest => return (← least, none, cursor.skipTo rest)
      | _ =>
        let least ← least
        let (most, cursor) ← parseCount cursor
        let most ← most
        match cursor.rest with
        | '\x7d' :: rest =>
          if least ≤ most then return (least, some most, cursor.skipTo rest) else none
        | _ => none
    | '\x7d' :: rest => return (← least, ← least, cursor.skipTo rest)
    | _ => none

/-- The part read last, if it can be repeated, and the parts before it. -/
def popRepeatable : List Syntax → Option (Syntax × List Syntax)
  | [] => none
  | .empty :: _ => none
  | .flags _ :: _ => none
  | part :: rest => some (part, rest)

/-! ## Groups -/

/-- The flag of a letter. -/
def flag? : Char → Option Flag
  | 'i' => some .caseInsensitive
  | 'm' => some .multiLine
  | 's' => some .dotMatchesNewLine
  | 'U' => some .swapGreed
  | 'u' => some .unicode
  | 'R' => some .crlf
  | 'x' => some .ignoreBlanks
  | _ => none

/-- Read flags up to a colon or a closing parenthesis, which is left to be read.  No flag may come
twice, a dash may come once, and not at the end. -/
def parseFlags (items : List FlagItem) (negated dangling : Bool) :
    List Char → Option (List FlagItem × List Char)
  | [] => none
  | ':' :: rest => if dangling then none else some (items, ':' :: rest)
  | ')' :: rest => if dangling then none else some (items, ')' :: rest)
  | '-' :: rest => if negated then none else parseFlags items true true rest
  | c :: rest => do
    let flag ← flag? c
    if items.any fun item => item.flag == flag then none
    else parseFlags (items ++ [⟨flag, !negated⟩]) negated false rest

/-- Letters, digits and other numbers. -/
def isNameLetter (c : Char) : Bool :=
  alphabetic.contains c

/-- The characters that count as numbers. -/
def numeric : CharSet :=
  categorySet ["Nd", "Nl", "No"]

/-- Whether a character may stand in the name of a group. -/
def isNameChar (first : Bool) (c : Char) : Bool :=
  c == '_' || isNameLetter c ||
    (!first && (numeric.contains c || c == '.' || c == '[' || c == ']'))

/-- Read the name of a group up to its closing bracket. -/
def parseGroupName (name : List Char) : List Char → Option (String × List Char)
  | [] => none
  | '>' :: rest => if name.isEmpty then none else some (String.ofList name.reverse, rest)
  | c :: rest => if isNameChar name.isEmpty c then parseGroupName (c :: name) rest else none

/-- What an opening parenthesis starts. -/
inductive Opening where
  | directive (flags : List FlagItem) (cursor : Cursor)
  | group (flags : List FlagItem) (cursor : Cursor)

/-- The start of a named group: its name must be new. -/
def openNamed (cursor : Cursor) (rest : List Char) : Option Opening := do
  let (name, rest) ← parseGroupName [] rest
  if cursor.names.contains name then none
  else return .group [] { cursor with rest, names := name :: cursor.names }

/-- Read what follows an opening parenthesis, up to the content of the group. -/
def parseOpening (cursor : Cursor) : Option Opening :=
  let cursor := cursor.skip
  match cursor.rest with
  | '?' :: '=' :: _ => none
  | '?' :: '!' :: _ => none
  | '?' :: '<' :: '=' :: _ => none
  | '?' :: '<' :: '!' :: _ => none
  | '?' :: 'P' :: '<' :: rest => openNamed cursor rest
  | '?' :: '<' :: rest => openNamed cursor rest
  | '?' :: rest => do
    let (items, rest) ← parseFlags [] false false rest
    match rest with
    | ')' :: rest =>
      if items.isEmpty then none
      else
        let ignoreBlanks := (flagState? .ignoreBlanks items).getD cursor.ignoreBlanks
        return .directive items { cursor with rest, ignoreBlanks }
    | _ :: rest =>
      let ignoreBlanks := (flagState? .ignoreBlanks items).getD cursor.ignoreBlanks
      return .group items { cursor with rest, ignoreBlanks }
    | [] => none
  | _ => some (.group [] cursor)

/-! ## Whole patterns -/

/-- A part of a pattern as a tree. -/
def Primitive.toSyntax : Primitive → Syntax
  | literal l => .literal l
  | assertion a => .assertion a
  | property query negated => .property query negated
  | letter kind negated => .letter kind negated

/-- The parts read so far as one tree, the last one read first. -/
def concatOf : List Syntax → Syntax
  | [] => .empty
  | [part] => part
  | parts => .concat parts.reverse

/-- The branches read so far as one tree, the last one read first. -/
def alternationOf : List Syntax → Syntax
  | [branch] => branch
  | branches => .alternation branches.reverse

/-- Read alternatives up to the end of the text or to a closing parenthesis, which is left to be
read.  `branches` and `parts` hold what was read before, the last one first. -/
def parseAlternatives : Nat → Cursor → List Syntax → List Syntax → Option (Syntax × Cursor)
  | 0, _, _, _ => none
  | steps + 1, cursor, branches, parts =>
    let cursor := cursor.skip
    let done := some (alternationOf (concatOf parts :: branches), cursor)
    let goOn (cursor : Cursor) (part : Syntax) :=
      parseAlternatives steps cursor branches (part :: parts)
    let repeated (rest : List Char) (min : Nat) (max : Option Nat) := do
      let (body, parts) ← popRepeatable parts
      parseAlternatives steps (cursor.goto (skipReluctant rest)) branches
        (.repetition min max body :: parts)
    match cursor.rest with
    | [] => done
    | ')' :: _ => done
    | '|' :: rest =>
      parseAlternatives steps (cursor.goto rest) (concatOf parts :: branches) []
    | '(' :: rest => do
      match ← parseOpening (cursor.goto rest) with
      | .directive items cursor => goOn cursor (.flags items)
      | .group items inner =>
        let (body, after) ← parseAlternatives steps inner [] []
        match after.rest with
        | ')' :: rest =>
          goOn { after with rest, ignoreBlanks := cursor.ignoreBlanks } (.group items body)
        | _ => none
    | '[' :: rest => do
      let ((negated, content), cursor) ← parseClass steps (cursor.goto rest)
      goOn cursor (.bracketed negated content)
    | '?' :: rest => repeated rest 0 (some 1)
    | '*' :: rest => repeated rest 0 none
    | '+' :: rest => repeated rest 1 none
    | '\x7b' :: rest => do
      let (body, parts) ← popRepeatable parts
      let (min, max, cursor) ← parseBounds (cursor.goto rest)
      parseAlternatives steps (cursor.goto (skipReluctant cursor.rest)) branches
        (.repetition min max body :: parts)
    | '\\' :: rest => do
      let (part, cursor) ← parseEscape (cursor.goto rest)
      goOn cursor part.toSyntax
    | '.' :: rest => goOn (cursor.goto rest) .dot
    | '^' :: rest => goOn (cursor.goto rest) (.assertion .lineStart)
    | '$' :: rest => goOn (cursor.goto rest) (.assertion .lineEnd)
    | c :: rest => goOn (cursor.goto rest) (.literal ⟨c, false⟩)

/-- The deepest nesting of a pattern. -/
def depthLimit : Nat := 250

/-- The syntax tree of a written pattern. -/
def parsePattern (text : String) : Option Syntax := do
  let cs := text.toList
  let (tree, cursor) ← parseAlternatives (2 * cs.length + 2) ⟨cs, false, []⟩ [] []
  if cursor.rest.isEmpty && tree.depth ≤ depthLimit then return tree else none

end ShellComposer.Pattern
