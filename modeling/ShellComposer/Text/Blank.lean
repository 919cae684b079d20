/-!
# White space and letter case in text

Labels and numbers in a catalog are trimmed of white space at both ends, words are compared without
regard to the case of the 26 Latin letters, and names are recognised by how they end.

Main results:

- Definition `isBlank`: the characters with the white-space property.
- Definition `trim`: a text without the white space at its ends.
- Definition `dropEnding`: a text without a given ending, when it has that ending.
-/

namespace ShellComposer.Text

/-- The characters with the white-space property: the control characters from tab to carriage
return, next line, and every kind of space and separator. -/
def isBlank (c : Char) : Bool :=
  let code := c.toNat
  (0x9 ≤ code && code ≤ 0xD) || code == 0x20 || code == 0x85 || code == 0xA0 || code == 0x1680 ||
    (0x2000 ≤ code && code ≤ 0x200A) || code == 0x2028 || code == 0x2029 || code == 0x202F ||
    code == 0x205F || code == 0x3000

/-- The text without white space at either end. -/
def trim (text : String) : String :=
  String.ofList ((text.toList.dropWhile isBlank).reverse.dropWhile isBlank).reverse

/-- The text with the capitals among the 26 Latin letters made small. -/
def lowerLatin (text : String) : String :=
  String.ofList (text.toList.map Char.toLower)

/-- Whether two texts agree up to the case of the 26 Latin letters. -/
def sameIgnoringCase (a b : String) : Bool :=
  lowerLatin a == lowerLatin b

/-- The text before `ending`, when the text ends so. -/
def dropEnding (text ending : String) : Option String :=
  if ending.toList.isSuffixOf text.toList
  then some (String.ofList (text.toList.take (text.toList.length - ending.toList.length)))
  else none

/-- The text after `beginning`, when the text begins so, and otherwise the whole text. -/
def dropBeginning (text beginning : String) : String :=
  if beginning.toList.isPrefixOf text.toList
  then String.ofList (text.toList.drop beginning.toList.length)
  else text

/-- A text that ends in `ending` is what comes before it, and then the ending. -/
theorem dropEnding_eq_some_iff {text ending front : String} :
    dropEnding text ending = some front ↔ text = front ++ ending := by
  rw [dropEnding]
  split
  · rename_i ends
    obtain ⟨pre, same⟩ := List.isSuffixOf_iff_suffix.1 ends
    rw [← same, Option.some.injEq]
    simp only [List.length_append, Nat.add_sub_cancel, List.take_left']
    constructor
    · rintro rfl
      apply String.toList_inj.1
      simp [← same]
    · intro eq
      have lists := congrArg String.toList eq
      rw [String.toList_append, ← same] at lists
      rw [List.append_cancel_right lists]
      simp
  · rename_i ends
    simp only [reduceCtorEq, false_iff]
    rintro rfl
    exact ends (List.isSuffixOf_iff_suffix.2 ⟨front.toList, by simp⟩)

end ShellComposer.Text
