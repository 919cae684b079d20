import ShellComposer.Proofs.Gate

/-!
# What a slot may hold

Blocks are connected by tags, and tags are made in two ways: from the kind of a block, and from the
definition whose slot asks for it.  Here it is told what this says of kinds.  After any changes the
slots of a command hold options and operands of that very command, the script holds statements, and
a slot of a control or operator holds what its catalog entry asks for.  So nobody who picks the
options or the operands out of a slot passes over a block that is in the script tree.

Main results:

- Definitions `BlockGraph.kind?` and `firstCheck`: the kind of a block, and the tag that the first
  slot of a name asks for.
- Structure `Workspace.WellTyped` and theorem `Reached.wellTyped`: what holds of every workspace
  that changes lead to.
-/

namespace ShellComposer

open BlockGraph Catalog

/-- The kind of the block with an id. -/
def BlockGraph.kind? (g : BlockGraph) (id : BlockId) : Option BlockKind :=
  (g.get? id).map Block.kind

/-- The tag that the first of several slots with a name asks for. -/
def firstCheck (slots : List SlotDef) (name : String) : Option Tag :=
  (slots.find? fun slot => slot.name == name).map fun slot => .ofCheck slot.check

/-- The kinds of blocks that are stacked in the script: commands, controls and operators. -/
inductive BlockKind.IsStatement : BlockKind → Prop where
  | command (name : String) : IsStatement (.command name)
  | control (name : String) : IsStatement (.control name)
  | operator (name : String) : IsStatement (.operator name)

variable {catalog : Catalog} {settings : Settings} {w : Workspace} {g : BlockGraph}
variable {id child : BlockId} {kind : BlockKind} {definition : Definition} {name slot : String}

/-! ## Kinds, definitions and tags -/

theorem BlockGraph.kind?_eq_some_iff :
    g.kind? id = some kind ↔ ∃ block, g.get? id = some block ∧ block.kind = kind :=
  Option.map_eq_some_iff

/-- A block is of the kind of the definition that it stands for. -/
theorem StandsFor.kind?_eq (h : StandsFor catalog g id definition) :
    g.kind? id = some definition.kind := by
  obtain ⟨block, hblock, hknown⟩ := h
  exact kind?_eq_some_iff.2 ⟨block, hblock, (Catalog.kind_of_definition? hknown).1⟩

/-- Statements are the kinds that show the tag of commands. -/
theorem BlockKind.isStatement_iff_tag? : kind.IsStatement ↔ kind.tag? = some .command := by
  constructor
  · intro h
    cases h <;> rfl
  · intro h
    cases kind with
    | command name => exact .command name
    | control name => exact .control name
    | operator name => exact .operator name
    | script => simp [BlockKind.tag?] at h
    | option name => simp [BlockKind.tag?] at h
    | operand name part => simp [BlockKind.tag?] at h

/-- The slots on the block of a control or operator ask for the tags of its catalog entry. -/
theorem Template.find?_slotsOf (slots : List SlotDef) (name : String) :
    ((Template.slotsOf slots).find? fun slot => slot.name == name).map Slot.accepts =
      firstCheck slots name := by
  rw [Template.slotsOf, List.find?_map, Option.map_map]
  rfl

namespace Workspace

/-- What holds of the kinds of blocks and of the places where they stand. -/
structure WellTyped (catalog : Catalog) (w : Workspace) : Prop where
  /-- Exactly the blocks that are there have a meaning. -/
  meant_iff : ∀ id, w.meanings.contains id = true ↔ w.graph.contains id = true
  /-- A block has the slots and the meaning of the definition of its kind. -/
  template_eq : ∀ id block, w.graph.get? id = some block → ∃ definition,
    catalog.definition? block.kind = some definition ∧ block.slots = definition.template.slots ∧
      w.meanings.get? id = some definition.template.meaning
  /-- A command holds options of its own. -/
  options_held : ∀ id name, w.graph.kind? id = some (.command name) →
    ∀ child ∈ w.graph.slotChain id optionsSlot, w.graph.kind? child = some (.option name)
  /-- A command holds operands of its own, and only such as it defines. -/
  operands_held : ∀ id name, w.graph.kind? id = some (.command name) →
    ∀ child ∈ w.graph.slotChain id operandsSlot, ∃ command operand,
      catalog.command? name = some command ∧ command.operand? operand.id = some operand ∧
        w.graph.kind? child = some (.operand name operand.id)
  /-- The script holds statements. -/
  stack_held : ∀ child ∈ w.graph.slotChain root stackSlot, ∃ kind,
    w.graph.kind? child = some kind ∧ kind.IsStatement
  /-- A control holds in a slot what its first slot of that name asks for. -/
  control_held : ∀ id name, w.graph.kind? id = some (.control name) → ∃ control,
    catalog.control? name = some control ∧ ∀ slot, ∀ child ∈ w.graph.slotChain id slot,
      ∃ tag, firstCheck control.slots slot = some tag ∧ w.graph.tagShown child = some tag
  /-- An operator holds in a slot what its first slot of that name asks for. -/
  operator_held : ∀ id name, w.graph.kind? id = some (.operator name) → ∃ operator,
    catalog.operator? name = some operator ∧ ∀ slot, ∀ child ∈ w.graph.slotChain id slot,
      ∃ tag, firstCheck operator.slots slot = some tag ∧ w.graph.tagShown child = some tag
  /-- Repairs look at all blocks in the slot for options. -/
  options_repaired : ∀ id name, w.graph.kind? id = some (.command name) →
    (flaggedOptions w.graph id).map Prod.fst = w.graph.slotChain id optionsSlot
  /-- Checks look at all blocks in the slots of a command. -/
  options_checked : ∀ id name, w.graph.kind? id = some (.command name) →
    w.site.attachedOptions id = w.graph.slotChain id optionsSlot ∧
      w.site.attachedOperands id = w.graph.slotChain id operandsSlot
  /-- What is checked and repaired is, one by one, what stands in the script tree. -/
  emitted_checked : ∀ id name node, w.graph.kind? id = some (.command name) →
    Emitted w id node →
      ReadsAll catalog w.graph (w.site.attachedOptions id) (node.children "options") ∧
        ReadsAll catalog w.graph (w.site.attachedOperands id) (node.children "operands")

/-! ## What the slots of a block hold -/

/-- A block of some kind stands for the definition of the kind. -/
theorem Valid.standsFor_of_kind? (h : Valid catalog settings w)
    (hkind : w.graph.kind? id = some kind) :
    ∃ definition, catalog.definition? kind = some definition ∧
      StandsFor catalog w.graph id definition := by
  obtain ⟨block, hblock, rfl⟩ := kind?_eq_some_iff.1 hkind
  obtain ⟨definition, hknown, -⟩ := h.exists_definition hblock
  exact ⟨definition, hknown, block, hblock, hknown⟩

/-- A block that is of the kind of a command stands for that command. -/
theorem Valid.standsFor_command (h : Valid catalog settings w)
    (hkind : w.graph.kind? id = some (.command name)) :
    ∃ command, catalog.command? name = some command ∧
      StandsFor catalog w.graph id (.command command) := by
  obtain ⟨definition, hknown, hstands⟩ := h.standsFor_of_kind? hkind
  obtain ⟨command, hcommand, rfl⟩ := Option.map_eq_some_iff.1 hknown
  exact ⟨command, hcommand, hstands⟩

/-- The slot of a block with the slots of a control or operator asks for what the catalog entry
asks for, and so what it holds shows that tag. -/
theorem Valid.firstCheck_of_mem {slots : List SlotDef} {block : Block}
    (h : Valid catalog settings w) (hblock : w.graph.get? id = some block)
    (hslots : block.slots = Template.slotsOf slots)
    (hmem : child ∈ w.graph.slotChain id slot) :
    ∃ tag, firstCheck slots slot = some tag ∧ w.graph.tagShown child = some tag := by
  obtain ⟨tag, hasked, hshown⟩ := h.tended.sound.tagShown_of_mem_slotChain hmem
  rw [tagAsked_slot_eq hblock, Block.slot?, hslots, Template.find?_slotsOf] at hasked
  exact ⟨tag, hasked, hshown⟩

/-- The script holds blocks that show the tag of commands. -/
theorem Valid.statement_of_mem (h : Valid catalog settings w)
    (hmem : child ∈ w.graph.slotChain root stackSlot) :
    ∃ kind, w.graph.kind? child = some kind ∧ kind.IsStatement := by
  obtain ⟨slots, hroot⟩ := h.templated.root_script
  obtain ⟨block, hblock, hscript, -⟩ := shape?_eq_some_iff.1 hroot
  obtain ⟨definition, hknown, hslots, -⟩ := h.exists_definition hblock
  rw [hscript] at hknown
  obtain rfl : Definition.script = definition := Option.some.inj hknown
  have hasked : w.graph.tagAsked root (.slot stackSlot) = some .command := by
    rw [tagAsked_slot_eq hblock, Block.slot?, hslots]
    rfl
  obtain ⟨held, hheld, htag⟩ := h.exists_definition_of_mem hasked hmem
  exact ⟨held.kind, hheld.kind?_eq, BlockKind.isStatement_iff_tag?.2 htag⟩

/-- What the slot for operands of a command holds is defined by the command. -/
theorem Valid.operand?_of_mem {command : CommandDef} (h : Valid catalog settings w)
    (hstands : StandsFor catalog w.graph id (.command command))
    (hmem : child ∈ w.graph.slotChain id operandsSlot) :
    ∃ operand, command.operand? operand.id = some operand ∧
      w.graph.kind? child = some (.operand command.id operand.id) := by
  obtain ⟨operand, hoperand⟩ := h.operand_of_mem hstands hmem
  refine ⟨operand, ?_, hoperand.kind?_eq⟩
  obtain ⟨block, hblock, hknown⟩ := hoperand
  rw [(Catalog.kind_of_definition? hknown).1] at hknown
  obtain ⟨owner, howner, hrest⟩ := Option.bind_eq_some_iff.1 hknown
  obtain ⟨found, hfound, hsame⟩ := Option.bind_eq_some_iff.1 hrest
  obtain ⟨rfl, rfl⟩ := Definition.operand.inj (Option.some.inj hsame)
  exact hfound

/-- Repairs take all blocks in the slot for options into account. -/
theorem Valid.map_flaggedOptions {command : CommandDef} (h : Valid catalog settings w)
    (hstands : StandsFor catalog w.graph id (.command command)) :
    (flaggedOptions w.graph id).map Prod.fst = w.graph.slotChain id optionsSlot := by
  have hall : w.site.attachedOptions id = w.graph.slotChain id optionsSlot :=
    h.attachedOptions_eq hstands
  rw [flaggedOptions, List.map_map]
  exact (List.map_id _).trans hall

/-- A block that is of the kind of a control has the slots of that control. -/
theorem Valid.exists_control (h : Valid catalog settings w)
    (hkind : w.graph.kind? id = some (.control name)) :
    ∃ control block, catalog.control? name = some control ∧ w.graph.get? id = some block ∧
      block.slots = Template.slotsOf control.slots := by
  obtain ⟨block, hblock, hname⟩ := kind?_eq_some_iff.1 hkind
  obtain ⟨definition, hknown, hslots, -⟩ := h.exists_definition hblock
  rw [hname] at hknown
  obtain ⟨control, hcontrol, rfl⟩ := Option.map_eq_some_iff.1 hknown
  exact ⟨control, block, hcontrol, hblock, hslots⟩

/-- A block that is of the kind of an operator has the slots of that operator. -/
theorem Valid.exists_operator (h : Valid catalog settings w)
    (hkind : w.graph.kind? id = some (.operator name)) :
    ∃ operator block, catalog.operator? name = some operator ∧ w.graph.get? id = some block ∧
      block.slots = Template.slotsOf operator.slots := by
  obtain ⟨block, hblock, hname⟩ := kind?_eq_some_iff.1 hkind
  obtain ⟨definition, hknown, hslots, -⟩ := h.exists_definition hblock
  rw [hname] at hknown
  obtain ⟨operator, hoperator, rfl⟩ := Option.map_eq_some_iff.1 hknown
  exact ⟨operator, block, hoperator, hblock, hslots⟩

/-- The blocks with a meaning are those that are there. -/
theorem Valid.meant_iff (h : Valid catalog settings w) :
    w.meanings.contains id = true ↔ w.graph.contains id = true := by
  refine ⟨h.templated.meant_present id, fun hpresent => ?_⟩
  obtain ⟨block, hblock⟩ := contains_iff.1 hpresent
  obtain ⟨definition, -, -, hmeant, -⟩ := h.exists_definition hblock
  exact (w.meanings.contains_iff id).2 ⟨_, hmeant⟩

/-- In every workspace that changes lead to, whatever they answer, blocks have the slots and the
meaning of their kind and stand where their kind may stand, and neither repairs nor checks pass over
a block of a command that is in the script tree. -/
theorem Reached.wellTyped (hreached : Reached catalog settings w) : WellTyped catalog w where
  meant_iff _ := hreached.valid.meant_iff
  template_eq id block hblock := by
    obtain ⟨definition, hknown, hslots, hmeant, -⟩ := hreached.valid.exists_definition hblock
    exact ⟨definition, hknown, hslots, hmeant⟩
  options_held id name hkind child hmem := by
    obtain ⟨command, hcommand, hstands⟩ := hreached.valid.standsFor_command hkind
    obtain rfl := Catalog.id_of_command? hcommand
    exact (hreached.valid.option_of_mem hstands hmem).kind?_eq
  operands_held id name hkind child hmem := by
    obtain ⟨command, hcommand, hstands⟩ := hreached.valid.standsFor_command hkind
    obtain ⟨operand, hdefined, hchild⟩ := hreached.valid.operand?_of_mem hstands hmem
    obtain rfl := Catalog.id_of_command? hcommand
    exact ⟨command, operand, hcommand, hdefined, hchild⟩
  stack_held _ hmem := hreached.valid.statement_of_mem hmem
  control_held id name hkind := by
    obtain ⟨control, block, hcontrol, hblock, hslots⟩ := hreached.valid.exists_control hkind
    exact ⟨control, hcontrol, fun _ _ hmem => hreached.valid.firstCheck_of_mem hblock hslots hmem⟩
  operator_held id name hkind := by
    obtain ⟨operator, block, hoperator, hblock, hslots⟩ := hreached.valid.exists_operator hkind
    exact ⟨operator, hoperator,
      fun _ _ hmem => hreached.valid.firstCheck_of_mem hblock hslots hmem⟩
  options_repaired id name hkind := by
    obtain ⟨command, -, hstands⟩ := hreached.valid.standsFor_command hkind
    exact hreached.valid.map_flaggedOptions hstands
  options_checked id name hkind := by
    obtain ⟨command, -, hstands⟩ := hreached.valid.standsFor_command hkind
    exact ⟨hreached.valid.attachedOptions_eq hstands, hreached.valid.attachedOperands_eq hstands⟩
  emitted_checked id name node hkind hemitted := by
    obtain ⟨command, -, hstands⟩ := hreached.valid.standsFor_command hkind
    exact hreached.valid.attached_command hstands (hreached.valid.reads_of_emitted hemitted).2

/-- The command in the script holds the operand with its file. -/
theorem listedFile_wellTyped :
    Reached listingCatalog default listedFile.workspace ∧
      listedFile.workspace.graph.kind? 1 = some (.command "ls") ∧
      listedFile.workspace.graph.slotChain 1 operandsSlot = [2] ∧
      listedFile.workspace.graph.kind? 2 = some (.operand "ls" "file") ∧
      WellTyped listingCatalog listedFile.workspace := by
  have hreached : Reached listingCatalog default listedFile.workspace :=
    .changed _ (reached_run _ _ _)
  exact ⟨hreached, by decide +kernel, by decide +kernel, by decide +kernel, hreached.wellTyped⟩

end Workspace

end ShellComposer
