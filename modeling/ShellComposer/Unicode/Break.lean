import ShellComposer.Unicode.Property
import ShellComposer.Unicode.Script

/-!
# Where text breaks

Three properties say where a text may be broken into characters as a reader sees them, into words
and into sentences.  Each has several values, and a character has one of them or none.  The values
are put together from categories, scripts and other properties, with the code points that their
definitions list besides.

Main results:

- Definition `graphemeBreaks`: the values that matter between characters.
- Definitions `wordBreaks`, `sentenceBreaks`: the values that matter between words and sentences.
-/

namespace ShellComposer.Unicode

/-- A value of a property with several values: its long name, its other names, and the characters
that have it. -/
structure BreakValue where
  longName : String
  otherNames : List String
  members : CharSet

/-! ## Marks -/

/-- Marks that take up no room of their own, and the modifiers of emoji. -/
def extending : CharSet :=
  graphemeExtend.union (propertySet "Emoji_Modifier")

/-- Signs that are written over the number that follows them. -/
def numberSigns : CharSet :=
  .ofText "600-605 6DD 890-891 8E2 110BD 110CD"

/-- Signs that belong to what follows them. -/
def prepended : CharSet :=
  numberSigns.union
    (.ofText "70F D4E 111C2-111C3 113D1 1193F 11941 11A3A 11A84-11A89 11D46 11F02")

/-- Format characters that stay with what is in front of them, without the ones in a table. -/
def formatting (others : String) : CharSet :=
  (((categorySet ["Cf"]).difference extending).difference prepended).difference (.ofText others)

/-- Marks of all kinds, those that take up room among them. -/
def combining : CharSet :=
  extending.union (categorySet ["Mc"])

/-! ## Characters as a reader sees them -/

/-- Korean syllables without a last consonant.  Each stands in front of the same syllable with the
twenty-seven last consonants. -/
def openSyllables : CharSet :=
  .ofRanges ((List.range 399).map fun i => (0xAC00 + 28 * i, 0xAC00 + 28 * i))

/-- The values of Grapheme_Cluster_Break. -/
def graphemeBreaks : List BreakValue := [
  ⟨"CR", [], .ofText "D"⟩,
  ⟨"LF", [], .ofText "A"⟩,
  ⟨"Control", ["CN"],
    ((((categorySet ["Zl", "Zp", "Cc", "Cf"]).union
      (.ofText "2065 FFF0-FFF8 E0000 E0002-E001F E0080-E00FF E01F0-E0FFF")).difference
        extending).difference prepended).difference (.ofText "A D 200D")⟩,
  ⟨"Extend", ["EX"], extending⟩,
  ⟨"ZWJ", [], .ofText "200D"⟩,
  ⟨"Regional_Indicator", ["RI"], propertySet "Regional_Indicator"⟩,
  ⟨"Prepend", ["PP"], prepended⟩,
  ⟨"SpacingMark", ["SM"],
    (((categorySet ["Mc"]).difference extending).union (.ofText "E33 EB3")).difference (.ofText
      "102B-102C 1038 1062-1064 1067-106D 1083 1087-108C 108F 109A-109C 1A61 1A63-1A64 AA7B AA7D
      11720-11721")⟩,
  ⟨"L", [], .ofText "1100-115F A960-A97C"⟩,
  ⟨"V", [], .ofText "1160-11A7 D7B0-D7C6 16D63 16D67-16D6A"⟩,
  ⟨"T", [], .ofText "11A8-11FF D7CB-D7FB"⟩,
  ⟨"LV", [], openSyllables⟩,
  ⟨"LVT", [], CharSet.difference (.ofText "AC00-D7A3") openSyllables⟩]

/-! ## Words -/

/-- Characters of the Katakana script, and those that are used with them. -/
def katakana : CharSet :=
  (scriptSet "Katakana").union (.ofText "3031-3035 309B-309C 30A0 30FC FF70")

/-- Letters of the Hebrew script. -/
def hebrewLetters : CharSet :=
  (scriptSet "Hebrew").inter (categorySet ["Lo"])

/-- Scripts that are written without spaces between words. -/
def unspacedScripts : CharSet :=
  .ofText "E01-EDF 1000-108E 1780-17DC 1950-19C9 1A20-1AA7 A9E0-A9FE AA60-AADD 11700-11746"

/-- Letters of scripts with spaces between words, and signs that are used as letters. -/
def wordLetters : CharSet :=
  ((((((alphabetic.difference (propertySet "Ideographic")).difference katakana).difference
    (scriptSet "Hiragana")).difference combining).difference hebrewLetters).difference
      unspacedScripts).union (.ofText
    "2C2-2C5 2D2-2D7 2DE-2DF 2E5-2EB 2ED 2EF-2FF 55A-55C 55E 58A 5F3 70F A708-A716 A720-A721
    A789-A78A AB5B")

/-- The values of Word_Break. -/
def wordBreaks : List BreakValue := [
  ⟨"CR", [], .ofText "D"⟩,
  ⟨"LF", [], .ofText "A"⟩,
  ⟨"Newline", ["NL"], .ofText "B-C 85 2028-2029"⟩,
  ⟨"Extend", [], combining⟩,
  ⟨"ZWJ", [], .ofText "200D"⟩,
  ⟨"Regional_Indicator", ["RI"], propertySet "Regional_Indicator"⟩,
  ⟨"Format", ["FO"], formatting "200B 200D"⟩,
  ⟨"Katakana", ["KA"], katakana⟩,
  ⟨"Hebrew_Letter", ["HL"], hebrewLetters⟩,
  ⟨"ALetter", ["LE"], wordLetters⟩,
  ⟨"Single_Quote", ["SQ"], .ofText "27"⟩,
  ⟨"Double_Quote", ["DQ"], .ofText "22"⟩,
  ⟨"MidNumLet", ["MB"], .ofText "2E 2018-2019 2024 FE52 FF07 FF0E"⟩,
  ⟨"MidLetter", ["ML"], .ofText "3A B7 387 55F 5F4 2027 FE13 FE55 FF1A"⟩,
  ⟨"MidNum", ["MN"], .ofText "2C 3B 37E 589 60C-60D 66C 7F8 2044 FE10 FE14 FE50 FE54 FF0C FF1B"⟩,
  ⟨"Numeric", ["NU"], ((categorySet ["Nd"]).union numberSigns).union (.ofText "66B")⟩,
  ⟨"ExtendNumLet", ["EX"], .ofText "5F 202F 203F-2040 2054 FE33-FE34 FE4D-FE4F FF3F"⟩,
  ⟨"WSegSpace", [], .ofText "20 1680 2000-2006 2008-200A 205F 3000"⟩]

/-! ## Sentences -/

/-- Small letters, but for Georgian, whose two cases do not tell where a sentence starts. -/
def sentenceLower : CharSet :=
  ((propertySet "Lowercase").difference graphemeExtend).difference (.ofText "10D0-10FA 10FD-10FF")

/-- Capital letters and letters in title case, but for Georgian. -/
def sentenceUpper : CharSet :=
  ((categorySet ["Lt"]).union (propertySet "Uppercase")).difference
    (.ofText "1C90-1CBA 1CBD-1CBF")

/-- Marks of all kinds but for the modifiers of emoji, and the joiner. -/
def sentenceExtend : CharSet :=
  (graphemeExtend.union (categorySet ["Mc"])).union (.ofText "200D")

/-- Dots that may end a sentence or stand within one. -/
def fullStops : CharSet :=
  .ofText "2E 2024 FE52 FF0E"

/-- The values of Sentence_Break. -/
def sentenceBreaks : List BreakValue := [
  ⟨"CR", [], .ofText "D"⟩,
  ⟨"LF", [], .ofText "A"⟩,
  ⟨"Sep", ["SE"], .ofText "85 2028-2029"⟩,
  ⟨"Extend", ["EX"], sentenceExtend⟩,
  ⟨"Format", ["FO"], formatting "200D"⟩,
  ⟨"Sp", [], (propertySet "White_Space").difference (.ofText "A D 85 2028-2029")⟩,
  ⟨"Lower", ["LO"], sentenceLower⟩,
  ⟨"Upper", ["UP"], sentenceUpper⟩,
  ⟨"OLetter", ["LE"],
    (((alphabetic.union (.ofText "5F3")).difference sentenceLower).difference
      sentenceUpper).difference sentenceExtend⟩,
  ⟨"Numeric", ["NU"], ((categorySet ["Nd"]).union numberSigns).union (.ofText "66B-66C")⟩,
  ⟨"ATerm", ["AT"], fullStops⟩,
  ⟨"SContinue", ["SC"], .ofText
    "2C-2D 3A-3B 37E 55D 60C-60D 7F8 1802 1808 2013-2014 3001 FE10-FE11 FE13-FE14 FE31-FE32
    FE50-FE51 FE54-FE55 FE58 FE63 FF0C-FF0D FF1A-FF1B FF64"⟩,
  ⟨"STerm", ["ST"], (propertySet "Sentence_Terminal").difference fullStops⟩,
  ⟨"Close", ["CL"], (categorySet ["Ps", "Pe", "Pi", "Pf"]).union
    (.ofText "22 27 275B-2760 2E00-2E01 2E06-2E08 2E0B 1F676-1F678")⟩]

end ShellComposer.Unicode
