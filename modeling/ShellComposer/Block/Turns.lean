import ShellComposer.Block.Graph

/-!
# Walks done turn by turn

The walks of a block graph are stopped after as many steps as there are blocks.  Here the same walks
are loops that nothing stops from outside: every turn looks at one link and either goes on from
where it leads, or stops with a result.

Main results:

- Inductive type `LoopTurn`: what one turn of a loop comes to.
- Definitions `surroundTurn`, `topTurn`, `chainTurn`, `tailTurn`, `ancestorTurn`: one turn of each
  walk.
-/

namespace ShellComposer

/-- What one turn of a loop comes to: a state to go on from, or a result to stop with. -/
inductive LoopTurn (σ ρ : Type) where
  | goOn (state : σ)
  | stop (result : ρ)
deriving DecidableEq, Repr

namespace BlockGraph

/-- Look for the slot around a chain: go up until a slot holds the block. -/
def surroundTurn (g : BlockGraph) (id : BlockId) : LoopTurn BlockId (Option (BlockId × String)) :=
  match g.parent id with
  | none => .stop none
  | some (before, .next) => .goOn before
  | some (owner, .slot slot) => .stop (some (owner, slot))

/-- Look for the topmost block: go up while there is a block above. -/
def topTurn (g : BlockGraph) (id : BlockId) : LoopTurn BlockId BlockId :=
  match g.parent id with
  | some (above, _) => .goOn above
  | none => .stop id

/-- Collect a chain: take the block and go on to the one that follows, if there is a block. -/
def chainTurn (g : BlockGraph) :
    List BlockId × Option BlockId → LoopTurn (List BlockId × Option BlockId) (List BlockId)
  | (passed, some id) => .goOn (passed ++ [id], g.next id)
  | (passed, none) => .stop passed

/-- Look for the last block of a chain: go on while a block follows. -/
def tailTurn (g : BlockGraph) (id : BlockId) : LoopTurn BlockId BlockId :=
  match g.next id with
  | some after => .goOn after
  | none => .stop id

/-- Look for a block above: go up until it is met or there is no block above. -/
def ancestorTurn (g : BlockGraph) (ancestor id : BlockId) : LoopTurn BlockId Bool :=
  if id = ancestor then .stop true
  else
    match g.parent id with
    | some (above, _) => .goOn above
    | none => .stop false

end BlockGraph

end ShellComposer
