import ShellComposer.Json.Numeral

/-!
# JSON values and JSON as it is read

What the library writes is always a proper JSON value.  What it reads may break off or go wrong at
any place, and whatever stands before that place still counts, because faults are reported in the
order of the text.  So a text is read into a tree that keeps members in document order and marks
where the text stops being JSON.

Main results:

- Definition `Value`: the values that are written.
- Definition `Tree`: the trees that are read.
- Definition `Tree.wellFormed`: nothing went wrong anywhere in the tree.
- Definition `Tree.holdable`: the tree can be taken into memory as it is.
- Theorem `Value.wellFormed_toTree`: what is written has no faults.
-/

namespace ShellComposer.Json

/-- A JSON value to be written.  The library writes no numbers but natural ones. -/
inductive Value where
  | null
  | bool (value : Bool)
  | natural (value : Nat)
  | string (text : String)
  | array (items : List Value)
  | object (members : List (String × Value))
deriving Inhabited

/-- A JSON text as it was read.

A numeral is kept digit by digit, because not every numeral stands for a number that is wanted.  A
string, or the name of a member, has no text when one of its escapes is half of a surrogate pair.
An array or object is closed when its closing bracket was reached; if it is not, its last item or
member may be the one that went wrong.  `broken` stands where no value could be read. -/
inductive Tree where
  | null
  | bool (value : Bool)
  | number (numeral : Numeral)
  | string (text : Option String)
  | array (items : List Tree) (closed : Bool)
  | object (members : List (Option String × Tree)) (closed : Bool)
  | broken
deriving Inhabited

/-- A member of an object: its name and its value. -/
abbrev Member := Option String × Tree

namespace Tree

/-- Whether reading got to the end of the value. -/
def finished : Tree → Bool
  | array _ closed => closed
  | object _ closed => closed
  | broken => false
  | _ => true

mutual
/-- Whether the text of the tree is JSON throughout, whatever its strings and numbers hold. -/
def wellFormed : Tree → Bool
  | array items closed => wellFormedItems items && closed
  | object members closed => wellFormedMembers members && closed
  | broken => false
  | _ => true

/-- Whether all items are well formed. -/
def wellFormedItems : List Tree → Bool
  | [] => true
  | item :: rest => wellFormed item && wellFormedItems rest

/-- Whether the values of all members are well formed. -/
def wellFormedMembers : List (Option String × Tree) → Bool
  | [] => true
  | member :: rest => wellFormed member.2 && wellFormedMembers rest
end

mutual
/-- Whether the tree can be taken into memory whole: it is well formed, its strings hold text, its
numbers are in range, and it nests at most `room` arrays and objects. -/
def holdable : Nat → Tree → Bool
  | _, null => true
  | _, bool _ => true
  | _, number numeral => numeral.inRange
  | _, string text => text.isSome
  | room, array items closed => 0 < room && holdableItems (room - 1) items && closed
  | room, object members closed => 0 < room && holdableMembers (room - 1) members && closed
  | _, broken => false

/-- Whether all items can be taken into memory. -/
def holdableItems : Nat → List Tree → Bool
  | _, [] => true
  | room, item :: rest => holdable room item && holdableItems room rest

/-- Whether all members can be taken into memory. -/
def holdableMembers : Nat → List (Option String × Tree) → Bool
  | _, [] => true
  | room, member :: rest =>
    member.1.isSome && holdable room member.2 && holdableMembers room rest
end

end Tree

namespace Value

mutual
/-- The tree that the text of a value is read into. -/
def toTree : Value → Tree
  | null => .null
  | bool value => .bool value
  | natural value => .number (.ofNatural value)
  | string text => .string (some text)
  | array items => .array (toTrees items) true
  | object members => .object (toMembers members) true

/-- The trees of a list of values. -/
def toTrees : List Value → List Tree
  | [] => []
  | item :: rest => toTree item :: toTrees rest

/-- The trees of a list of members. -/
def toMembers : List (String × Value) → List (Option String × Tree)
  | [] => []
  | member :: rest => (some member.1, toTree member.2) :: toMembers rest
end

/-- A value, or null when there is none. -/
def ofOption {α : Type} (write : α → Value) : Option α → Value
  | none => null
  | some value => write value

/-- A member that is left out when there is nothing to write. -/
def memberIfPresent {α : Type} (name : String) (write : α → Value) :
    Option α → List (String × Value)
  | none => []
  | some value => [(name, write value)]

/-- A text, or null when there is none. -/
def ofText? (text : Option String) : Value :=
  ofOption string text

/-- An array written item by item. -/
def ofList {α : Type} (write : α → Value) (items : List α) : Value :=
  array (items.map write)

/-- An array of texts. -/
def ofTexts (texts : List String) : Value :=
  ofList string texts

mutual
/-- The tree of a value has no defects. -/
theorem wellFormed_toTree : ∀ value : Value, value.toTree.wellFormed = true
  | null => rfl
  | bool _ => rfl
  | natural _ => rfl
  | string _ => rfl
  | array items => by simp [toTree, Tree.wellFormed, wellFormed_toTrees items]
  | object members => by simp [toTree, Tree.wellFormed, wellFormed_toMembers members]

/-- The trees of several values have none either. -/
theorem wellFormed_toTrees : ∀ items : List Value, Tree.wellFormedItems (toTrees items) = true
  | [] => rfl
  | item :: rest => by
    simp [toTrees, Tree.wellFormedItems, wellFormed_toTree item, wellFormed_toTrees rest]

/-- The members of an object that is written have none either. -/
theorem wellFormed_toMembers :
    ∀ members : List (String × Value), Tree.wellFormedMembers (toMembers members) = true
  | [] => rfl
  | member :: rest => by
    simp [toMembers, Tree.wellFormedMembers, wellFormed_toTree member.2,
      wellFormed_toMembers rest]
end

end Value

end ShellComposer.Json
