import ShellComposer.Proofs.Reading

/-!
# The nodes of a script tree and their blocks

The nodes of the script tree belong to blocks: the tree to the script block, and the nodes held in a
parameter to the blocks held in the slot that the parameter is read from, one by one.  After any run
the blocks with a node are the enabled ones, and each has the node that it is read as.

Main results:

- Definitions `Node.text`, `Node.children`: what a node says under a key.
- Inductive type `Workspace.Emitted`: the blocks that nodes belong to.
- Theorem `Workspace.Valid.emitted_iff`: after any run, a node belongs to a block when the block is
  enabled and is read as the node.
-/

namespace ShellComposer

open BlockGraph Relation

namespace Node

/-- The first parameter of a node with a key. -/
def parameter? (node : Node) (key : String) : Option Parameter :=
  node.parameters.find? fun parameter => parameter.key == key

/-- The text of a node under a key, empty when there is none. -/
def text (node : Node) (key : String) : String :=
  ((node.parameter? key).bind Parameter.value).getD ""

/-- The nodes that a node holds under a key. -/
def children (node : Node) (key : String) : List Node :=
  ((node.parameter? key).bind Parameter.children).getD []

end Node

namespace Workspace

/-- A block of a workspace and the node of the script tree that belongs to it. -/
inductive Emitted (w : Workspace) : BlockId → Node → Prop where
  | script {tree : Node} (emitted : w.emit = .ok tree) : Emitted w root tree
  | held {owner child : BlockId} {node childNode : Node} {block : Block} {slot : Slot}
      {parameter : Parameter} {nodes : List Node} {i j : Nat} (above : Emitted w owner node)
      (found : w.graph.get? owner = some block) (slotAt : block.slots[i]? = some slot)
      (parameterAt : node.parameters[i]? = some parameter) (held : parameter.children = some nodes)
      (blockAt : (w.graph.slotChain owner slot.name)[j]? = some child)
      (nodeAt : nodes[j]? = some childNode) : Emitted w child childNode

end Workspace

variable {catalog : Catalog} {settings : Settings} {g : BlockGraph} {w : Workspace}
variable {id owner child : BlockId} {block : Block} {node : Node} {slot : String}
variable {ids : List BlockId} {nodes : List Node} {i j : Nat}

/-! ## Several blocks -/

namespace ReadsAll

/-- Each of several blocks is read as the node at its place. -/
theorem exists_node (h : ReadsAll catalog g ids nodes) (hid : ids[j]? = some id) :
    ∃ node, nodes[j]? = some node ∧ Reads catalog g id node := by
  induction ids generalizing nodes j with
  | nil => simp at hid
  | cons first rest ih =>
    cases h with
    | cons hfirst hrest =>
      cases j with
      | zero =>
        obtain rfl := Option.some.inj hid
        exact ⟨_, rfl, hfirst⟩
      | succ j =>
        rcases ih hrest hid with ⟨node, hnode, hreads⟩
        exact ⟨node, hnode, hreads⟩

/-- What can be told from a block as from its node can be told from all of them. -/
theorem map_eq {α : Type} {f : BlockId → α} {f' : Node → α} (h : ReadsAll catalog g ids nodes)
    (hsame : ∀ id ∈ ids, ∀ node, Reads catalog g id node → f' node = f id) :
    nodes.map f' = ids.map f := by
  induction ids generalizing nodes with
  | nil => cases h with | nil => rfl
  | cons first rest ih =>
    cases h with
    | cons hfirst hrest =>
      rw [List.map_cons, List.map_cons, hsame first List.mem_cons_self _ hfirst,
        ih hrest fun id hmem => hsame id (List.mem_cons_of_mem _ hmem)]

/-- There are as many nodes as blocks. -/
theorem length_eq (h : ReadsAll catalog g ids nodes) : nodes.length = ids.length := by
  induction ids generalizing nodes with
  | nil => cases h with | nil => rfl
  | cons first rest ih =>
    cases h with
    | cons hfirst hrest => rw [List.length_cons, List.length_cons, ih hrest]

/-- What is counted of the nodes is counted of the blocks. -/
theorem countP_eq {p : BlockId → Bool} {q : Node → Bool} (h : ReadsAll catalog g ids nodes)
    (hsame : ∀ id ∈ ids, ∀ node, Reads catalog g id node → q node = p id) :
    nodes.countP q = ids.countP p := by
  have hmap := h.map_eq hsame
  rw [← Function.id_comp q, ← List.countP_map, hmap, List.countP_map, Function.id_comp]

end ReadsAll

/-! ## Slots and parameters -/

/-- A parameter that is read from a slot of a block. -/
structure ReadFrom (catalog : Catalog) (g : BlockGraph) (id : BlockId) (slot : String)
    (parameter : Parameter) (chain : List BlockId) (nodes : List Node) : Prop where
  children_eq : parameter.children = some nodes
  holds : g.Holds id slot chain
  reads : ReadsAll catalog g chain nodes

/-- Each of several slots is read as the parameter at its place. -/
theorem ReadsSlots.exists_parameter {slots : List Catalog.SlotDef} {parameters : List Parameter}
    {slot : Catalog.SlotDef} (h : ReadsSlots catalog g id slots parameters)
    (hslot : slots[i]? = some slot) : ∃ parameter chain nodes, parameters[i]? = some parameter ∧
      ReadFrom catalog g id slot.name parameter chain nodes := by
  induction slots generalizing parameters i with
  | nil => simp at hslot
  | cons first rest ih =>
    cases h with
    | cons held all hrest =>
      cases i with
      | zero =>
        obtain rfl := Option.some.inj hslot
        exact ⟨_, _, _, rfl, rfl, held, all⟩
      | succ i =>
        rcases ih hrest hslot with ⟨parameter, chain, nodes, hparameter, hread⟩
        exact ⟨parameter, chain, nodes, hparameter, hread⟩

/-- Every slot of a block has its parameter, at the same place. -/
theorem ReadsBy.exists_parameter {definition : Definition} {slot : Slot}
    (h : ReadsBy catalog g id block definition node)
    (hslot : definition.template.slots[i]? = some slot) :
    ∃ parameter chain nodes, node.parameters[i]? = some parameter ∧
      ReadFrom catalog g id slot.name parameter chain nodes := by
  cases h with
  | script held all =>
    match i, hslot with
    | 0, rfl => exact ⟨_, _, _, rfl, rfl, held, all⟩
  | command heldOptions allOptions heldOperands allOperands =>
    match i, hslot with
    | 0, rfl => exact ⟨_, _, _, rfl, rfl, heldOptions, allOptions⟩
    | 1, rfl => exact ⟨_, _, _, rfl, rfl, heldOperands, allOperands⟩
  | option => simp [Definition.template, Template.option] at hslot
  | operand => simp [Definition.template, Template.operand] at hslot
  | control hslots =>
    rw [Definition.template, Template.control, Template.slotsOf, List.getElem?_map,
      Option.map_eq_some_iff] at hslot
    rcases hslot with ⟨slotDef, hdef, rfl⟩
    exact hslots.exists_parameter hdef
  | operator hslots =>
    rw [Definition.template, Template.operator, Template.slotsOf, List.getElem?_map,
      Option.map_eq_some_iff] at hslot
    rcases hslot with ⟨slotDef, hdef, rfl⟩
    exact hslots.exists_parameter hdef

/-! ## The blocks that have a node -/

namespace Workspace

/-- A block with a node has a definition, and is read by it. -/
theorem Valid.readsBy (h : Valid catalog settings w) (hreads : Reads catalog w.graph id node) :
    ∃ block definition, w.graph.get? id = some block ∧
      catalog.definition? block.kind = some definition ∧
      block.slots = definition.template.slots ∧
      ReadsBy catalog w.graph id block definition node := by
  rcases hreads with ⟨found, known, reads⟩
  rename_i block definition
  rcases h.exists_definition found with ⟨definition', hknown, hslots, -, -⟩
  obtain rfl := Option.some.inj (known.symm.trans hknown)
  exact ⟨block, definition, found, known, hslots, reads⟩

/-- What a block with a node holds in a slot is read into the parameter at the same place. -/
theorem Valid.exists_parameter {slot : Slot} (h : Valid catalog settings w)
    (hreads : Reads catalog w.graph owner node) (hblock : w.graph.get? owner = some block)
    (hslot : block.slots[i]? = some slot) :
    ∃ parameter nodes, node.parameters[i]? = some parameter ∧ parameter.children = some nodes ∧
      ReadsAll catalog w.graph (w.graph.slotChain owner slot.name) nodes := by
  rcases h.readsBy hreads with ⟨block', definition, hblock', hknown, hslots, hby⟩
  obtain rfl := Option.some.inj (hblock.symm.trans hblock')
  rw [hslots] at hslot
  obtain ⟨parameter, chain, nodes, hparameter, hchildren, hholds, hall⟩ :=
    hby.exists_parameter hslot
  obtain rfl := hholds.unique (h.tended.sound.holds_slotChain owner slot.name)
  exact ⟨parameter, nodes, hparameter, hchildren, hall⟩

/-- A block with a node is enabled, and is read as the node. -/
theorem Valid.reads_of_emitted (h : Valid catalog settings w) (hemitted : Emitted w id node) :
    w.graph.isEnabled id = true ∧ Reads catalog w.graph id node := by
  induction hemitted with
  | script emitted =>
    rcases h.emit_reads with ⟨tree, htree, hreads⟩
    obtain rfl := Except.ok.inj (htree.symm.trans emitted)
    exact ⟨h.isEnabled_iff.2 .refl, hreads⟩
  | held _ found slotAt parameterAt held blockAt nodeAt ih =>
    rcases ih with ⟨henabled, hreads⟩
    obtain ⟨parameter, nodes, hparameter, hchildren, hall⟩ :=
      h.exists_parameter hreads found slotAt
    obtain rfl := Option.some.inj (hparameter.symm.trans parameterAt)
    obtain rfl := Option.some.inj (hchildren.symm.trans held)
    rcases hall.exists_node blockAt with ⟨childNode, hnode, hchild⟩
    obtain rfl := Option.some.inj (hnode.symm.trans nodeAt)
    exact ⟨h.isEnabled_of_mem_slotChain henabled (List.mem_of_getElem? blockAt), hchild⟩

/-- What a block with a node holds has a node. -/
theorem Valid.exists_emitted_of_mem (h : Valid catalog settings w) (hemitted : Emitted w owner node)
    (hmem : child ∈ w.graph.slotChain owner slot) : ∃ childNode, Emitted w child childNode := by
  rcases h.tended.sound.tagShown_of_mem_slotChain hmem with ⟨tag, hasked, -⟩
  rcases Option.bind_eq_some_iff.1 hasked with ⟨block, hblock, hslot⟩
  rcases Option.map_eq_some_iff.1 hslot with ⟨place, hplace, -⟩
  rcases List.getElem?_of_mem (List.mem_of_find?_eq_some hplace) with ⟨i, hi⟩
  have hname := List.find?_some hplace
  obtain rfl : place.name = slot := beq_iff_eq.1 hname
  obtain ⟨parameter, nodes, hparameter, hchildren, hall⟩ :=
    h.exists_parameter (h.reads_of_emitted hemitted).2 hblock hi
  rcases List.getElem?_of_mem hmem with ⟨j, hj⟩
  rcases hall.exists_node hj with ⟨childNode, hnode, -⟩
  exact ⟨childNode, .held hemitted hblock hi hparameter hchildren hj hnode⟩

/-- A block that the script leads to has a node, and unless it is the script, so has the block that
holds it in a slot. -/
theorem Valid.exists_emitted (h : Valid catalog settings w)
    (hpath : ReflTransGen w.graph.Leads root id) :
    (∃ node, Emitted w id node) ∧
      (id = root ∨
        ∃ owner slot node, Emitted w owner node ∧ id ∈ w.graph.slotChain owner slot) := by
  have hlinked := h.tended.sound.toWellLinked
  induction hpath with
  | refl =>
    rcases h.emit_reads with ⟨tree, htree, -⟩
    exact ⟨⟨tree, .script htree⟩, .inl rfl⟩
  | @tail before after _ hleads ih =>
    rcases ih with ⟨⟨node, hemitted⟩, hheld⟩
    rcases hleads with ⟨outlet, hlink⟩
    -- A block is held in a slot of the block before it, or in the same slot as that one.
    have hafter : ∃ owner slot node,
        Emitted w owner node ∧ after ∈ w.graph.slotChain owner slot := by
      cases outlet with
      | slot name =>
        exact ⟨before, name, node, hemitted, hlinked.mem_slotChain_iff.2 ⟨after, hlink, .refl⟩⟩
      | next =>
        rcases hheld with rfl | ⟨owner, slot, node, hemitted, hmem⟩
        · rcases h.templated.root_script with ⟨slots, hslots⟩
          rcases shape?_eq_some_iff.1 hslots with ⟨block, hblock, hkind, -⟩
          rcases hlinked.fits _ hlink with ⟨tag, hasked, -⟩
          have hnone : w.graph.tagShown root = none := by rw [tagShown_eq hblock, hkind]; rfl
          exact absurd (hnone.symm.trans hasked) (by simp)
        · rcases hlinked.mem_slotChain_iff.1 hmem with ⟨head, hhead, hfollows⟩
          refine ⟨owner, slot, node, hemitted, hlinked.mem_slotChain_iff.2 ⟨head, hhead, ?_⟩⟩
          exact hfollows.tail (hlinked.steps_next_iff.2 hlink)
    rcases hafter with ⟨owner, slot, node, hemitted, hmem⟩
    exact ⟨h.exists_emitted_of_mem hemitted hmem, .inr ⟨owner, slot, node, hemitted, hmem⟩⟩

/-- A node belongs to a block exactly when the block is enabled and is read as the node. -/
theorem Valid.emitted_iff (h : Valid catalog settings w) :
    Emitted w id node ↔ w.graph.isEnabled id = true ∧ Reads catalog w.graph id node := by
  refine ⟨h.reads_of_emitted, fun ⟨henabled, hreads⟩ => ?_⟩
  rcases h.exists_emitted (h.isEnabled_iff.1 henabled) with ⟨⟨node', hemitted⟩, -⟩
  rwa [hreads.unique (h.reads_of_emitted hemitted).2]

end Workspace

end ShellComposer
