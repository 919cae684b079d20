import ShellComposer.Pattern.Syntax
import ShellComposer.Unicode.Age
import ShellComposer.Unicode.Break
import ShellComposer.Unicode.CaseFolding
import ShellComposer.Unicode.Property
import ShellComposer.Unicode.ScriptExtension

/-!
# Classes of characters by name

Patterns ask for classes of characters by letter, by ASCII class name, or by the name of a property,
a category or a script.  Names of properties are compared loosely: blanks, dashes, underscores and
the case of letters do not count, nor does a leading "is".

Main results:

- Definition `normalizeName`: what counts of a name.
- Definition `PropertyQuery.members?`: the class a query asks for, if there is one.
- Definitions `LetterClass.members`, `AsciiClass.members`.
-/

namespace ShellComposer.Pattern

open Unicode

/-! ## Names -/

/-- The characters of a name that count, in small letters. -/
def keepLetters (name : List Char) : List Char :=
  (name.filter fun c => c.toNat < 128 && c != ' ' && c != '_' && c != '-').map Char.toLower

/-- What counts of a name.  A leading "is" does not, except in the abbreviation "isc". -/
def normalizeName (name : String) : String :=
  match name.toList with
  | a :: b :: rest =>
    if a.toLower == 'i' && b.toLower == 's' then
      let kept := keepLetters rest
      if kept == ['c'] then "isc" else String.ofList kept
    else String.ofList (keepLetters (a :: b :: rest))
  | cs => String.ofList (keepLetters cs)

/-- Whether a name counts the same as one of several. -/
def isOneOf (name : String) (names : List String) : Bool :=
  names.any fun other => normalizeName other == name

/-! ## Look-up

All names handed to these functions have been normalized. -/

/-- The property with a name. -/
def property? (name : String) : Option CharSet :=
  (properties.find? fun property => isOneOf name (property.longName :: property.otherNames)).map
    Property.members

/-- The category, or union of categories, with a name. -/
def category? (name : String) : Option CharSet :=
  if name == "any" then some .full
  else if name == "assigned" then some (categorySet ["Cn"]).complement
  else if name == "ascii" then some ⟨[(0, 0x7F)]⟩
  else
    match categories.find? fun category => isOneOf name (category.short :: category.longNames) with
    | some category => some category.members
    | none =>
      (groups.find? fun group => isOneOf name (group.short :: group.longNames)).map
        fun group => categorySet group.parts

/-- The script with a name. -/
def script? (name : String) : Option Script :=
  scripts.find? fun script => isOneOf name (script.longName :: script.shortNames)

/-- The class with a name: a property, a category or a script.  Three abbreviations that also name
mappings of characters are taken as categories. -/
def namedClass? (name : String) : Option CharSet :=
  let property := if name == "cf" || name == "sc" || name == "lc" then none else property? name
  match property with
  | some members => some members
  | none =>
    match category? name with
    | some members => some members
    | none => (script? name).map Script.members

/-- The characters with the value of a given name. -/
def breakValue? (values : List BreakValue) (name : String) : Option CharSet :=
  (values.find? fun value => isOneOf name (value.longName :: value.otherNames)).map
    BreakValue.members

/-- The class of the characters for which a property has a value. -/
def valuedClass? (property value : String) : Option CharSet :=
  if isOneOf property ["General_Category", "gc"] then category? value
  else if isOneOf property ["Script", "sc"] then (script? value).map Script.members
  else if isOneOf property ["Script_Extensions", "scx"] then (script? value).map Script.users
  else if isOneOf property ["Age"] then presentIn (fun age => isOneOf value age.names) ages
  else if isOneOf property ["Grapheme_Cluster_Break", "GCB"] then breakValue? graphemeBreaks value
  else if isOneOf property ["Word_Break", "WB"] then breakValue? wordBreaks value
  else if isOneOf property ["Sentence_Break", "SB"] then breakValue? sentenceBreaks value
  else none

/-- The class that a query asks for, if there is one. -/
def PropertyQuery.members? : PropertyQuery → Option CharSet
  | named name => namedClass? (normalizeName name)
  | valued property value => valuedClass? (normalizeName property) (normalizeName value)

/-! ## Classes with letters -/

/-- White space. -/
def spaceSet : CharSet :=
  propertySet "White_Space"

/-- Decimal digits of all scripts. -/
def digitSet : CharSet :=
  categorySet ["Nd"]

/-- Letters, marks, decimal digits and connecting punctuation. -/
def wordSet : CharSet :=
  (alphabetic.union (categorySet ["Mn", "Mc", "Me", "Nd", "Pc"])).union
    (propertySet "Join_Control")

/-- The members of a class with a letter. -/
def LetterClass.members : LetterClass → CharSet
  | digit => digitSet
  | space => spaceSet
  | word => wordSet

/-! ## Classes of ASCII characters -/

/-- The members of a class of ASCII characters. -/
def AsciiClass.members : AsciiClass → CharSet
  | alnum => .ofText "30-39 41-5A 61-7A"
  | alpha => .ofText "41-5A 61-7A"
  | ascii => .ofText "0-7F"
  | blank => .ofText "9 20"
  | cntrl => .ofText "0-1F 7F"
  | digit => .ofText "30-39"
  | graph => .ofText "21-7E"
  | lower => .ofText "61-7A"
  | print => .ofText "20-7E"
  | punct => .ofText "21-2F 3A-40 5B-60 7B-7E"
  | space => .ofText "9-D 20"
  | upper => .ofText "41-5A"
  | word => .ofText "30-39 41-5A 5F 61-7A"
  | xdigit => .ofText "30-39 41-46 61-66"

/-- The ASCII members of a class with a letter. -/
def LetterClass.asciiMembers : LetterClass → CharSet
  | digit => AsciiClass.digit.members
  | space => AsciiClass.space.members
  | word => AsciiClass.word.members

end ShellComposer.Pattern
