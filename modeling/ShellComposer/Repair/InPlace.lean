import ShellComposer.Block.InPlace
import ShellComposer.Repair

/-!
# Repairs done in place

A repair answers a new graph, how many blocks it took off, and its notices.  Here the same repairs
are done in place, one step after the other: blocks are taken off a graph while it is still looked
at, and a notice is put at the end of a log in the moment it is given.  A repair that fails halfway
leaves the graph and the log as far as it got.

Main results:

- Structure `Bench` and abbreviation `AtBench`: a graph with a log, and something done to them.
- Definitions `AtBench.unplugDuplicate`, `unplugExclusive`, `trimOperands`: the repairs of a
  command.
- Definitions `AtBench.repairAll`, `react`: one pass over the script, and the passes of a reaction.
-/

namespace ShellComposer

open Catalog

/-- A graph under repair, and the notices given so far, oldest first. -/
structure Bench where
  graph : BlockGraph
  log : List Notice

/-- Something done in place to a graph and the log.  When it fails, what was done before stays
done. -/
abbrev AtBench (α : Type) : Type :=
  ExceptT Fault (StateM Bench) α

namespace AtBench

variable {α : Type}

/-- What comes of something done, and what it leaves. -/
def on (bench : Bench) (work : AtBench α) : Except Fault α × Bench :=
  work.run bench

/-- The graph as it is now. -/
def graph : AtBench BlockGraph :=
  return (← get).graph

/-- Edit the graph in place. -/
def edit (change : InPlace α) : AtBench α :=
  ExceptT.mk fun bench =>
    let (result, graph) := InPlace.on bench.graph change
    (result, { bench with graph })

/-- Give a notice. -/
def note (notice : Notice) : AtBench Unit :=
  modify fun bench => { bench with log := bench.log ++ [notice] }

/-- Do several repairs one after the other, and count the blocks taken off. -/
def inTurn (repair : α → AtBench Nat) (items : List α) : AtBench Nat :=
  items.foldlM (fun removed item => return removed + (← repair item)) 0

/-! ## Commands -/

/-- Take off the first option whose flag was seen before, if there is one. -/
def unplugDuplicate (command : BlockId) : AtBench Nat := do
  match firstRepeated [] (flaggedOptions (← graph) command) with
  | none => return 0
  | some (id, flag) =>
    edit (.detach id true)
    note (.ofDuplicate flag id)
    return 1

/-- Take off the options whose flags are in a group, except the first of them. -/
def unplugGroup (command : BlockId) (group : List String) : Nat → AtBench Nat
  | 0 => return 0
  | rounds + 1 => do
    match (flaggedOptions (← graph) command).filter fun option => group.contains option.2 with
    | (_, keeper) :: (id, flag) :: _ =>
      edit (.detach id true)
      note (.ofConflict flag keeper id)
      return 1 + (← unplugGroup command group rounds)
    | _ => return 0

/-- Leave one option of every group of options that exclude each other. -/
def unplugExclusive (command : BlockId) (groups : List (List String)) : AtBench Nat :=
  inTurn (fun group => do unplugGroup command group (← graph).size) groups

/-- Take off the blocks beyond the most that an operand kind allows, out of the blocks that were
attached when trimming began. -/
def trimOperand (attached : List BlockId) (operand : OperandDef) : AtBench Nat := do
  match operand.cardinality.max.limit with
  | none => return 0
  | some max =>
    let ofKind := attached.filter ((← graph).hasKind (BlockKind.isOperandNamed operand.id))
    match ofKind.drop max.toNat with
    | [] => return 0
    | first :: rest =>
      (first :: rest).forM fun id => edit (.detach id true)
      note (.ofLimit max.toNat operand first)
      return (first :: rest).length

/-- Trim the operands of every kind that has a most. -/
def trimOperands (command : BlockId) (definition : CommandDef) : AtBench Nat := do
  inTurn (trimOperand ((← graph).slotChain command operandsSlot)) definition.operands

/-- Do all repairs of a command. -/
def repairCommand (command : BlockId) (definition : CommandDef) : AtBench Nat := do
  let first ← unplugDuplicate command
  let second ← unplugExclusive command definition.exclusiveOptions
  let third ← trimOperands command definition
  return first + second + third

/-! ## The script -/

/-- Repair a block if it is an enabled command that the catalog defines. -/
def repairBlock (catalog : Catalog) (id : BlockId) : AtBench Nat := do
  match (← graph).get? id with
  | some ⟨.command command, _, _, true⟩ =>
    match catalog.command? command with
    | some definition => repairCommand id definition
    | none => return 0
  | _ => return 0

/-- One pass over all blocks, oldest first. -/
def repairAll (catalog : Catalog) : AtBench Nat := do
  inTurn (repairBlock catalog) (← graph).ids

/-- Enable exactly the blocks of the script. -/
def refresh : AtBench Unit :=
  modify fun bench => { bench with graph := bench.graph.refresh.2 }

/-- The passes of a reaction.  `left` more of them may take something off; the one after them aborts
the reaction. -/
def react (catalog : Catalog) (bound : Nat) (left : Nat) : AtBench Unit := do
  refresh
  let removed ← repairAll catalog
  if removed = 0 then return ()
  else
    match left with
    | 0 =>
      refresh
      throw (.unsettled bound)
    | left + 1 => react catalog bound left

end AtBench

end ShellComposer
