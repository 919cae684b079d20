import Mathlib.Data.List.Induction
import ShellComposer.Proofs.Emitted
import ShellComposer.Proofs.Loaded
import ShellComposer.Proofs.Surplus

/-!
# Positions in the script tree

A position in the script tree is told by steps from the top: the number of a parameter, and the
number of a node in it.  The same steps lead through the blocks: the number of a slot, and the number
of a block in it.  At every position the tree has the node of the block that is there, so the tree
holds every block of the script and no others.  But slots are told apart by their names only: a block
is in the tree twice where it is held in a slot that shares its name with another one.

Main results:

- Definitions `Node.at?`, `BlockGraph.at?`: the node and the block at a position.
- Theorem `Workspace.Valid.at?_iff`: the node at a position is that of the block there.
- Theorem `Workspace.Valid.isEnabled_iff_at?`: the blocks of the script are those at positions.
- Theorem `Workspace.Valid.positions_unique_iff`: when no block is at two positions.
- Theorem `Workspace.Valid.slotsApart_of_nodup`: catalogs that bring this about.
- Theorem `Workspace.positions_of_blocks`: all this after any run.
-/

namespace ShellComposer

open BlockGraph Catalog Relation

/-! ## Steps and positions -/

/-- One step down: the number of a parameter or slot, and the number of a node or block in it. -/
abbrev Place := Nat × Nat

/-- The node that a node holds at a place. -/
def Node.child? (node : Node) (place : Place) : Option Node := do
  let parameter ← node.parameters[place.1]?
  let nodes ← parameter.children
  nodes[place.2]?

/-- The node at a position below a node. -/
def Node.at? (node : Node) (position : List Place) : Option Node :=
  position.foldlM Node.child? node

namespace BlockGraph

/-- The block that a block holds at a place. -/
def child? (g : BlockGraph) (id : BlockId) (place : Place) : Option BlockId := do
  let block ← g.get? id
  let slot ← block.slots[place.1]?
  (g.slotChain id slot.name)[place.2]?

/-- The block at a position below a block. -/
def at? (g : BlockGraph) (id : BlockId) (position : List Place) : Option BlockId :=
  position.foldlM g.child? id

/-- Wherever two slots of a block of the script share a name, they hold nothing. -/
def SlotsApart (g : BlockGraph) : Prop :=
  ∀ id block (i j : Nat) (slot slot' : Slot), g.isEnabled id = true → g.get? id = some block →
    block.slots[i]? = some slot → block.slots[j]? = some slot' → slot.name = slot'.name →
      g.slotChain id slot.name ≠ [] → i = j

end BlockGraph

variable {catalog : Catalog} {settings : Settings} {g : BlockGraph} {w : Workspace}
variable {id a b child : BlockId} {block : Block} {definition : Definition} {node childNode : Node}
variable {ids : List BlockId} {nodes : List Node} {parameter : Parameter} {i j : Nat}
variable {position position' : List Place} {place : Place}

/-- A node below another one stands in a list of children, at its number. -/
theorem Node.child?_eq_some_iff : node.child? place = some childNode ↔
    ∃ parameter nodes, node.parameters[place.1]? = some parameter ∧
      parameter.children = some nodes ∧ nodes[place.2]? = some childNode := by
  simp [Node.child?, Option.bind_eq_some_iff]

/-- A block below another one stands in a slot, at its number. -/
theorem BlockGraph.child?_eq_some_iff : g.child? id place = some child ↔
    ∃ block slot, g.get? id = some block ∧ block.slots[place.1]? = some slot ∧
      (g.slotChain id slot.name)[place.2]? = some child := by
  simp [BlockGraph.child?, Option.bind_eq_some_iff]

/-- A position ends with a step from a block to one below it. -/
theorem BlockGraph.at?_snoc : g.at? id (position ++ [place]) = some child ↔
    ∃ before, g.at? id position = some before ∧ g.child? before place = some child := by
  simp [BlockGraph.at?, Option.bind_eq_some_iff]

/-- A position in a tree starts with a step to a node below the first. -/
theorem Node.at?_cons : node.at? (place :: position) = some childNode ↔
    ∃ next, node.child? place = some next ∧ next.at? position = some childNode := by
  simp [Node.at?, Option.bind_eq_some_iff]

/-- A position in a graph starts with a step to a block below the first. -/
theorem BlockGraph.at?_cons : g.at? id (place :: position) = some child ↔
    ∃ next, g.child? id place = some next ∧ g.at? next position = some child := by
  simp [BlockGraph.at?, Option.bind_eq_some_iff]

/-- What a block holds at a place is in one of its slots. -/
theorem BlockGraph.mem_slotChain_of_child? (h : g.child? id place = some child) :
    ∃ slot, child ∈ g.slotChain id slot := by
  rcases child?_eq_some_iff.1 h with ⟨block, slot, -, -, hread⟩
  exact ⟨slot.name, List.mem_of_getElem? hread⟩

/-! ## Nodes and blocks at a position -/

/-- Each node is read from the block at its place. -/
theorem ReadsAll.exists_block (h : ReadsAll catalog g ids nodes) (hnode : nodes[j]? = some node) :
    ∃ id, ids[j]? = some id ∧ Reads catalog g id node := by
  have hj : j < ids.length := by
    rw [← h.length_eq]
    exact (List.getElem?_eq_some_iff.1 hnode).1
  rcases h.exists_node (List.getElem?_eq_getElem hj) with ⟨node', hnode', hreads⟩
  obtain rfl := Option.some.inj (hnode'.symm.trans hnode)
  exact ⟨ids[j], List.getElem?_eq_getElem hj, hreads⟩

/-- There are as many parameters as slots. -/
theorem ReadsSlots.length_eq {slots : List SlotDef} {parameters : List Parameter}
    (h : ReadsSlots catalog g id slots parameters) : parameters.length = slots.length := by
  induction slots generalizing parameters with
  | nil => cases h with | nil => rfl
  | cons first rest ih =>
    cases h with
    | cons _ _ hrest => rw [List.length_cons, List.length_cons, ih hrest]

/-- A parameter with nodes has its slot, at the same place. -/
theorem ReadsBy.exists_slot (h : ReadsBy catalog g id block definition node)
    (hparameter : node.parameters[i]? = some parameter)
    (hchildren : parameter.children = some nodes) :
    ∃ slot, definition.template.slots[i]? = some slot := by
  have hslots : ∀ {slots : List SlotDef} {parameters : List Parameter},
      ReadsSlots catalog g id slots parameters → parameters[i]? = some parameter →
        ∃ slot, (Template.slotsOf slots)[i]? = some slot := by
    intro slots parameters hreads hread
    have hi : i < slots.length := by
      rw [← hreads.length_eq]
      exact (List.getElem?_eq_some_iff.1 hread).1
    exact ⟨_, by rw [Template.slotsOf, List.getElem?_map, List.getElem?_eq_getElem hi]; rfl⟩
  cases h with
  | script =>
    cases i with
    | zero => exact ⟨_, rfl⟩
    | succ i => simp [Node.parameters] at hparameter
  | command =>
    rcases i with _ | _ | i
    · exact ⟨_, rfl⟩
    · exact ⟨_, rfl⟩
    · simp [Node.parameters] at hparameter
  | option =>
    have hmem := List.mem_of_getElem? hparameter
    have htext : parameter.children = none := by
      simp only [Node.parameters, List.mem_cons] at hmem
      rcases hmem with rfl | hmem
      · rfl
      · split at hmem <;> simp_all [Parameter.ofText, Parameter.children]
    exact absurd (htext.symm.trans hchildren) (by simp)
  | operand =>
    have hmem := List.mem_of_getElem? hparameter
    obtain rfl := List.mem_singleton.1 hmem
    exact absurd hchildren (by simp [Parameter.ofText, Parameter.children])
  | control hreads => exact hslots hreads hparameter
  | operator hreads => exact hslots hreads hparameter

namespace Workspace

/-- What a node holds at a place is the node of the block held there. -/
theorem Valid.exists_child_of_node (h : Valid catalog settings w)
    (hreads : Reads catalog w.graph id node) (hnode : node.child? place = some childNode) :
    ∃ child, w.graph.child? id place = some child ∧ Reads catalog w.graph child childNode := by
  rcases h.readsBy hreads with ⟨block, definition, hblock, hknown, hslots, hby⟩
  rcases Node.child?_eq_some_iff.1 hnode with ⟨parameter, nodes, hparameter, hchildren, hread⟩
  rcases hby.exists_slot hparameter hchildren with ⟨slot, hslot⟩
  rw [← hslots] at hslot
  obtain ⟨parameter', nodes', hparameter', hchildren', hall⟩ :=
    h.exists_parameter hreads hblock hslot
  obtain rfl := Option.some.inj (hparameter'.symm.trans hparameter)
  obtain rfl := Option.some.inj (hchildren'.symm.trans hchildren)
  rcases hall.exists_block hread with ⟨child, hchild, hreads'⟩
  exact ⟨child, child?_eq_some_iff.2 ⟨block, slot, hblock, hslot, hchild⟩, hreads'⟩

/-- What a block with a node holds at a place has a node there. -/
theorem Valid.exists_node_of_child (h : Valid catalog settings w)
    (hreads : Reads catalog w.graph id node) (hchild : w.graph.child? id place = some child) :
    ∃ childNode, node.child? place = some childNode ∧ Reads catalog w.graph child childNode := by
  rcases child?_eq_some_iff.1 hchild with ⟨block, slot, hblock, hslot, hread⟩
  obtain ⟨parameter, nodes, hparameter, hchildren, hall⟩ := h.exists_parameter hreads hblock hslot
  rcases hall.exists_node hread with ⟨childNode, hnode, hreads'⟩
  exact ⟨childNode, Node.child?_eq_some_iff.2 ⟨parameter, nodes, hparameter, hchildren, hnode⟩,
    hreads'⟩

/-- At every position below a block with a node there is the node of the block at the position. -/
theorem Valid.at?_iff (h : Valid catalog settings w) (hreads : Reads catalog w.graph id node) :
    node.at? position = some childNode ↔
      ∃ child, w.graph.at? id position = some child ∧ Reads catalog w.graph child childNode := by
  induction position generalizing id node with
  | nil =>
    constructor
    · intro hnode
      obtain rfl : node = childNode := Option.some.inj hnode
      exact ⟨id, rfl, hreads⟩
    · rintro ⟨child, hchild, hreads'⟩
      obtain rfl : id = child := Option.some.inj hchild
      exact congrArg some (hreads.unique hreads')
  | cons place rest ih =>
    rw [Node.at?_cons]
    simp only [BlockGraph.at?_cons]
    constructor
    · rintro ⟨next, hnext, hrest⟩
      rcases h.exists_child_of_node hreads hnext with ⟨before, hbefore, hreads'⟩
      rcases (ih hreads').1 hrest with ⟨child, hchild, hreads''⟩
      exact ⟨child, ⟨before, hbefore, hchild⟩, hreads''⟩
    · rintro ⟨child, ⟨before, hbefore, hchild⟩, hreads''⟩
      rcases h.exists_node_of_child hreads hbefore with ⟨next, hnext, hreads'⟩
      exact ⟨next, hnext, (ih hreads').2 ⟨child, hchild, hreads''⟩⟩

/-! ## Blocks at positions -/

/-- Blocks at positions are those of the script. -/
theorem Valid.isEnabled_iff_at? (h : Valid catalog settings w) :
    w.graph.isEnabled id = true ↔ ∃ position, w.graph.at? root position = some id := by
  constructor
  · intro hid
    rcases (h.exists_emitted (h.isEnabled_iff.1 hid)).1 with ⟨node, hemitted⟩
    clear hid
    induction hemitted with
    | script => exact ⟨[], rfl⟩
    | @held owner child _ _ block slot _ _ i j _ found slotAt _ _ blockAt _ ih =>
      rcases ih with ⟨position, hposition⟩
      have hchild : w.graph.child? owner (i, j) = some child :=
        child?_eq_some_iff.2 ⟨block, slot, found, slotAt, blockAt⟩
      exact ⟨position ++ [(i, j)], at?_snoc.2 ⟨owner, hposition, hchild⟩⟩
  · rintro ⟨position, hposition⟩
    induction position using List.reverseRecOn generalizing id with
    | nil =>
      obtain rfl : root = id := Option.some.inj hposition
      exact h.isEnabled_iff.2 .refl
    | append_singleton before place ih =>
      rcases at?_snoc.1 hposition with ⟨owner, howner, hchild⟩
      rcases mem_slotChain_of_child? hchild with ⟨slot, hmem⟩
      exact h.isEnabled_of_mem_slotChain (ih howner) hmem

end Workspace

/-- Two places at which blocks hold the same block are the same, if slots with the same name hold
nothing. -/
theorem BlockGraph.Sound.child?_unique {owner owner' : BlockId} {place' : Place} (h : g.Sound)
    (hapart : g.SlotsApart) (henabled : g.isEnabled owner = true)
    (hchild : g.child? owner place = some child) (hchild' : g.child? owner' place' = some child) :
    owner = owner' ∧ place = place' := by
  rcases child?_eq_some_iff.1 hchild with ⟨block, slot, hblock, hslot, hread⟩
  rcases child?_eq_some_iff.1 hchild' with ⟨block', slot', hblock', hslot', hread'⟩
  have hmem := List.mem_of_getElem? hread
  rcases h.slotChain_unique hmem (List.mem_of_getElem? hread') with ⟨rfl, hname⟩
  obtain rfl := Option.some.inj (hblock.symm.trans hblock')
  refine ⟨rfl, Prod.ext ?_ ?_⟩
  · exact hapart owner block _ _ slot slot' henabled hblock hslot hslot' hname
      (List.ne_nil_of_mem hmem)
  · rw [← hname] at hread'
    exact (List.getElem?_inj (List.getElem?_eq_some_iff.1 hread).1 h.nodup_slotChain).1
      (hread.trans hread'.symm)

namespace Workspace

/-- No block of the script is at two positions, exactly when slots of the script with the same name
hold nothing. -/
theorem Valid.positions_unique_iff (h : Valid catalog settings w) :
    (∀ id position position', w.graph.at? root position = some id →
      w.graph.at? root position' = some id → position = position') ↔ w.graph.SlotsApart := by
  have hsound := h.tended.sound
  constructor
  · intro hunique owner block i j slot slot' henabled hblock hslot hslot' hname hsome
    rcases h.isEnabled_iff_at?.1 henabled with ⟨position, hposition⟩
    rcases List.exists_mem_of_ne_nil _ hsome with ⟨child, hmem⟩
    rcases List.getElem?_of_mem hmem with ⟨k, hk⟩
    have hfirst : w.graph.at? root (position ++ [(i, k)]) = some child :=
      at?_snoc.2 ⟨owner, hposition, child?_eq_some_iff.2 ⟨block, slot, hblock, hslot, hk⟩⟩
    have hsecond : w.graph.at? root (position ++ [(j, k)]) = some child :=
      at?_snoc.2 ⟨owner, hposition,
        child?_eq_some_iff.2 ⟨block, slot', hblock, hslot', hname ▸ hk⟩⟩
    have hsame := hunique child _ _ hfirst hsecond
    simpa using hsame
  · intro hapart id position position' hposition hposition'
    have hroot : ∀ position place, w.graph.at? root (position ++ [place]) ≠ some root := by
      intro position place hread
      rcases at?_snoc.1 hread with ⟨owner, -, hchild⟩
      rcases mem_slotChain_of_child? hchild with ⟨slot, hmem⟩
      exact (hsound.present_of_leads (hsound.leads_of_mem_slotChain hmem)).2 rfl
    -- from the last step upwards
    induction position using List.reverseRecOn generalizing id position' with
    | nil =>
      obtain rfl : root = id := Option.some.inj hposition
      cases position' using List.reverseRecOn with
      | nil => rfl
      | append_singleton before place => exact absurd hposition' (hroot before place)
    | append_singleton before place ih =>
      cases position' using List.reverseRecOn with
      | nil =>
        obtain rfl : root = id := Option.some.inj hposition'
        exact absurd hposition (hroot before place)
      | append_singleton before' place' =>
        rcases at?_snoc.1 hposition with ⟨owner, howner, hchild⟩
        rcases at?_snoc.1 hposition' with ⟨owner', howner', hchild'⟩
        have henabled := h.isEnabled_iff_at?.2 ⟨before, howner⟩
        rcases hsound.child?_unique hapart henabled hchild hchild' with ⟨rfl, rfl⟩
        rw [ih owner before' howner howner']

/-- Slots of the script with the same name hold nothing, if no definition of the catalog gives two
slots the same name. -/
theorem Valid.slotsApart_of_nodup (h : Valid catalog settings w)
    (hnames : ∀ kind definition, catalog.definition? kind = some definition →
      (definition.template.slots.map Slot.name).Nodup) : w.graph.SlotsApart := by
  intro id block i j slot slot' _ hblock hslot hslot' hname _
  rcases h.exists_definition hblock with ⟨definition, hknown, hslots, -, -⟩
  have hnodup := hnames block.kind definition hknown
  rw [← hslots] at hnodup
  have hi : i < (block.slots.map Slot.name).length := by
    rw [List.length_map]
    exact (List.getElem?_eq_some_iff.1 hslot).1
  refine (List.getElem?_inj hi hnodup).1 ?_
  simp [hslot, hslot', hname]

/-- After any run of changes the tree has a node exactly at the positions of blocks, and it is the
node of the block there; the blocks at positions are those of the script; and each of them is at one
position only, exactly when slots of the script with the same name hold nothing. -/
theorem positions_of_blocks (catalog : Catalog) (settings : Settings)
    (mutations : List Mutation) :
    (∃ tree, (run catalog settings mutations).emit = .ok tree ∧
      ∀ position node, tree.at? position = some node ↔
        ∃ id, (run catalog settings mutations).graph.at? root position = some id ∧
          Reads catalog (run catalog settings mutations).graph id node) ∧
    (∀ id, (run catalog settings mutations).graph.isEnabled id = true ↔
      ∃ position, (run catalog settings mutations).graph.at? root position = some id) ∧
    ((∀ id, (run catalog settings mutations).graph.isEnabled id = true →
      ∃! position, (run catalog settings mutations).graph.at? root position = some id) ↔
        (run catalog settings mutations).graph.SlotsApart) := by
  have h := valid_run catalog settings mutations
  rcases h.emit_reads with ⟨tree, htree, hreads⟩
  refine ⟨⟨tree, htree, fun _ _ => h.at?_iff hreads⟩, fun _ => h.isEnabled_iff_at?, ?_⟩
  rw [← h.positions_unique_iff]
  constructor
  · intro honce id position position' hposition hposition'
    exact (honce id (h.isEnabled_iff_at?.2 ⟨position, hposition⟩)).unique hposition hposition'
  · intro hunique id henabled
    rcases h.isEnabled_iff_at?.1 henabled with ⟨position, hposition⟩
    exact ⟨position, hposition, fun other hother => hunique id other position hother hposition⟩

/-- A small catalog: a command that lists files, and a control with two slots of the same name. -/
def twiceText : String :=
  "\x7b\"commands\": [\x7b\"shellCommand\": \"ls\"\x7d], " ++
    "\"controls\": [\x7b\"id\": \"twice\", " ++
      "\"slots\": [\x7b\"name\": \"BODY\"\x7d, \x7b\"name\": \"BODY\"\x7d]\x7d]\x7d"

@[inherit_doc twiceText]
def twice : Definitions where
  commands := [⟨none, "ls", "", "", "", "", [], none, [], [], none, [], none⟩]
  operators := []
  controls := [⟨"twice", "", "", "", "", none,
    [⟨"BODY", none, "command", none, none, none, false, false⟩,
      ⟨"BODY", none, "command", none, none, none, false, false⟩]⟩]
  categories := []

@[inherit_doc twiceText]
def twiceCatalog : Catalog :=
  .compile Pattern.search twice.normalize

/-- Plug the control into the script, and the command into the control. -/
def twiceSteps : List Mutation :=
  [.create (.control "twice"), .attach root stackSlot 1, .create (.command "ls"),
    .attach 1 "BODY" 2]

/-- The command is in the tree twice: once for each slot of that name. -/
theorem twice_at_two_positions :
    Catalog.load Pattern.search twiceText = .ok twiceCatalog ∧
      ((run twiceCatalog .standard twiceSteps).emit.toOption.map fun tree =>
        [[(0, 0), (0, 0)], [(0, 0), (1, 0)]].map fun position =>
          (tree.at? position).map Node.name) = some [some "ls", some "ls"] ∧
      (run twiceCatalog .standard twiceSteps).graph.at? root [(0, 0), (0, 0)] = some 2 ∧
      (run twiceCatalog .standard twiceSteps).graph.at? root [(0, 0), (1, 0)] = some 2 ∧
      ¬ ∀ id, (run twiceCatalog .standard twiceSteps).graph.isEnabled id = true →
        ∃! position, (run twiceCatalog .standard twiceSteps).graph.at? root position = some id := by
  have hload : Catalog.load Pattern.search twiceText = .ok twiceCatalog :=
    load_eq_ok (by decide +kernel) (by decide +kernel)
  have hfirst : (run twiceCatalog .standard twiceSteps).graph.at? root [(0, 0), (0, 0)] =
      some 2 := by decide +kernel
  have hsecond : (run twiceCatalog .standard twiceSteps).graph.at? root [(0, 0), (1, 0)] =
      some 2 := by decide +kernel
  refine ⟨hload, by decide +kernel, hfirst, hsecond, fun honce => ?_⟩
  have hsame := (honce 2 (by decide +kernel)).unique hfirst hsecond
  exact absurd hsame (by decide)

end Workspace

end ShellComposer
