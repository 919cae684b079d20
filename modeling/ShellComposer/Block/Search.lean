import ShellComposer.Block.Edit

/-!
# Searches done step by step

A search from a block goes along a list that grows while it is read: the next block of the list is
read, and what it leads to is put at the end.  Deleting a block goes along such a list to find what
the block holds.  Finding the blocks of the script does the same with a queue, and lets no block into
the queue a second time.

Main results:

- Structure `Search`: the blocks that have been read and those that wait.
- Definitions `Search.readNext` and `Search.readNew`: one step of a search, without and with a look
  at what was found before.
-/

namespace ShellComposer

/-- How far a search has got: the blocks that it has read, and those that it has found but not read,
in the order in which they were found. -/
structure Search where
  read : List BlockId
  waiting : List BlockId
deriving DecidableEq, Repr

namespace Search

/-- A search has found one block at first. -/
def start (id : BlockId) : Search :=
  ⟨[], [id]⟩

/-- All blocks found so far. -/
def found (s : Search) : List BlockId :=
  s.read ++ s.waiting

/-- Read the next block, and let all that it leads to wait. -/
def readNext (lead : BlockId → List BlockId) (s : Search) : Option Search :=
  match s.waiting with
  | [] => none
  | id :: rest => some ⟨s.read ++ [id], rest ++ lead id⟩

/-- Let a block wait, unless it was found before. -/
def discover (s : Search) (id : BlockId) : Search :=
  if id ∈ s.found then s else { s with waiting := s.waiting ++ [id] }

/-- Read the next block, and let wait what it leads to and was not found before. -/
def readNew (lead : BlockId → List BlockId) (s : Search) : Option Search :=
  match s.waiting with
  | [] => none
  | id :: rest => some ((lead id).foldl discover ⟨s.read ++ [id], rest⟩)

end Search

end ShellComposer
