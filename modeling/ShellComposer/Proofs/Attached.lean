import ShellComposer.Proofs.Emitted
import ShellComposer.Rules.Check

/-!
# What is attached to a command

The slots of a command hold options and operands of that very command, so neither checks nor repairs
pass over any of them, and what they read from a block is what its node says.

Main results:

- Definition `StandsFor`: the definition that a block stands for.
- Theorems `Valid.option_of_mem` and `Valid.operand_of_mem`: what the slots of a command hold.
- Theorem `Valid.attached_command`: the node of a command and what is attached to its block.
- Theorem `Valid.suppliedFromOutside_iff`: when a command is supplied with data.
-/

namespace ShellComposer

open BlockGraph Catalog

/-! ## Kinds and their definitions -/

/-- The kind that stands for a definition. -/
def Definition.kind : Definition → BlockKind
  | .script => .script
  | .command owner => .command owner.id
  | .option owner => .option owner.id
  | .operand owner part => .operand owner.id part.id
  | .control form => .control form.id
  | .operator form => .operator form.id

/-- The command that a definition is a part of. -/
def Definition.command? : Definition → Option CommandDef
  | .command owner => some owner
  | .option owner => some owner
  | .operand owner _ => some owner
  | _ => none

variable {catalog : Catalog} {settings : Settings} {g : BlockGraph} {w : Workspace}
variable {id child : BlockId} {node : Node} {definition : Definition} {command : CommandDef}
variable {operand : OperandDef}

/-- The command found under an id has that id. -/
theorem Catalog.id_of_command? {name : String} (h : catalog.command? name = some command) :
    command.id = name := by
  have hfound := List.find?_some h
  exact beq_iff_eq.1 hfound

/-- A kind is that of the definition it stands for, and a definition is part of a command that the
catalog lists. -/
theorem Catalog.kind_of_definition? {kind : BlockKind}
    (h : catalog.definition? kind = some definition) :
    kind = definition.kind ∧ ∀ command, definition.command? = some command →
      catalog.command? command.id = some command := by
  cases kind with
  | script =>
    obtain rfl := Option.some.inj h
    exact ⟨rfl, fun _ hnone => absurd hnone (by simp [Definition.command?])⟩
  | command name =>
    rcases Option.map_eq_some_iff.1 h with ⟨found, hfound, rfl⟩
    obtain rfl := Catalog.id_of_command? hfound
    exact ⟨rfl, fun _ hsame => Option.some.inj hsame ▸ hfound⟩
  | option name =>
    rcases Option.map_eq_some_iff.1 h with ⟨found, hfound, rfl⟩
    obtain rfl := Catalog.id_of_command? hfound
    exact ⟨rfl, fun _ hsame => Option.some.inj hsame ▸ hfound⟩
  | operand name part =>
    rcases Option.bind_eq_some_iff.1 h with ⟨found, hfound, hrest⟩
    rcases Option.bind_eq_some_iff.1 hrest with ⟨operand, hoperand, hsame⟩
    obtain rfl := Option.some.inj hsame
    obtain rfl := Catalog.id_of_command? hfound
    have hpart := List.find?_some hoperand
    obtain rfl := beq_iff_eq.1 hpart
    exact ⟨rfl, fun _ hsame => Option.some.inj hsame ▸ hfound⟩
  | control name =>
    rcases Option.map_eq_some_iff.1 h with ⟨found, hfound, rfl⟩
    have hname := List.find?_some hfound
    obtain rfl := beq_iff_eq.1 hname
    exact ⟨rfl, fun _ hnone => absurd hnone (by simp [Definition.command?])⟩
  | operator name =>
    rcases Option.map_eq_some_iff.1 h with ⟨found, hfound, rfl⟩
    have hname := List.find?_some hfound
    obtain rfl := beq_iff_eq.1 hname
    exact ⟨rfl, fun _ hnone => absurd hnone (by simp [Definition.command?])⟩

/-- The definition that a block of a graph stands for. -/
def StandsFor (catalog : Catalog) (g : BlockGraph) (id : BlockId) (definition : Definition) :
    Prop :=
  ∃ block, g.get? id = some block ∧ catalog.definition? block.kind = some definition

/-- Questions about the kind of a block are questions about the definition it stands for. -/
theorem StandsFor.hasKind (h : StandsFor catalog g id definition) (p : BlockKind → Bool) :
    g.hasKind p id = p definition.kind := by
  rcases h with ⟨block, hblock, hknown⟩
  rw [BlockGraph.hasKind, hblock]
  exact congrArg p (Catalog.kind_of_definition? hknown).1

/-- The command that a definition is a part of is one that the catalog lists. -/
theorem StandsFor.command?_eq (h : StandsFor catalog g id definition)
    (hcommand : definition.command? = some command) :
    catalog.command? command.id = some command := by
  rcases h with ⟨block, -, hknown⟩
  exact (Catalog.kind_of_definition? hknown).2 command hcommand

/-- The command that a block stands for is in the catalog. -/
theorem StandsFor.mem_commands (h : StandsFor catalog g id definition)
    (hcommand : definition.command? = some command) :
    command ∈ catalog.definitions.commands :=
  List.mem_of_find?_eq_some (h.command?_eq hcommand)

/-- Definitions that are parts of commands with the same id are parts of the same command. -/
theorem StandsFor.command_unique {other : BlockId} {definition' : Definition}
    {command' : CommandDef} (h : StandsFor catalog g id definition)
    (h' : StandsFor catalog g other definition') (hcommand : definition.command? = some command)
    (hcommand' : definition'.command? = some command') (hid : command.id = command'.id) :
    command = command' := by
  have hlisted := h.command?_eq hcommand
  rw [hid, h'.command?_eq hcommand'] at hlisted
  exact (Option.some.inj hlisted).symm

/-- A block stands for one definition only. -/
theorem StandsFor.unique {definition' : Definition} (h : StandsFor catalog g id definition)
    (h' : StandsFor catalog g id definition') : definition = definition' := by
  rcases h with ⟨block, hblock, hknown⟩
  rcases h' with ⟨block', hblock', hknown'⟩
  obtain rfl := Option.some.inj (hblock.symm.trans hblock')
  exact Option.some.inj (hknown.symm.trans hknown')

/-- A block is read by the definition that it stands for. -/
theorem StandsFor.readsBy (h : StandsFor catalog g id definition)
    (hreads : Reads catalog g id node) :
    ∃ block, g.get? id = some block ∧ ReadsBy catalog g id block definition node := by
  rcases h with ⟨block, hblock, hknown⟩
  exact ⟨block, hblock, hreads.readsBy hblock hknown⟩

/-! ## What nodes say -/

/-- The node of an option shows the flag that its block has. -/
theorem StandsFor.text_flag (h : StandsFor catalog g id (.option command))
    (hreads : Reads catalog g id node) : node.text "flag" = g.fieldText id flagField := by
  rcases h.readsBy hreads with ⟨block, hblock, hby⟩
  cases hby
  rw [fieldText, hblock]
  rfl

/-- The node of an option shows the argument that its block has, where the command has arguments. -/
theorem StandsFor.text_argument (h : StandsFor catalog g id (.option command))
    (hreads : Reads catalog g id node) (htakes : command.hasOptionArguments = true) :
    node.text "argument" = g.fieldText id argumentField := by
  rcases h.readsBy hreads with ⟨block, hblock, hby⟩
  cases hby
  rw [fieldText, hblock, if_pos htakes]
  rfl

/-- The node of an operand shows the value that its block has. -/
theorem StandsFor.text_value (h : StandsFor catalog g id (.operand command operand))
    (hreads : Reads catalog g id node) : node.text "value" = g.fieldText id valueField := by
  rcases h.readsBy hreads with ⟨block, hblock, hby⟩
  cases hby
  rw [fieldText, hblock]
  rfl

/-- The node of an operand is named for the operand. -/
theorem StandsFor.name_operand (h : StandsFor catalog g id (.operand command operand))
    (hreads : Reads catalog g id node) : node.name = operand.id := by
  rcases h.readsBy hreads with ⟨block, hblock, hby⟩
  cases hby
  rfl

namespace Workspace

/-- A node has the name that is in the meaning of its block. -/
theorem Valid.exists_meaning (h : Valid catalog settings w)
    (hreads : Reads catalog w.graph id node) :
    ∃ meaning, w.meanings.get? id = some meaning ∧ meaning.name = node.name := by
  rcases h.readsBy hreads with ⟨block, definition, hblock, hknown, -, hby⟩
  rcases h.exists_definition hblock with ⟨definition', hknown', -, hmeant, -⟩
  obtain rfl := Option.some.inj (hknown.symm.trans hknown')
  refine ⟨_, hmeant, ?_⟩
  cases hby <;> rfl

/-! ## What the slots of a command hold -/

/-- A slot of a command asks for the options or for the operands of the command. -/
theorem Valid.tagAsked_command (h : Valid catalog settings w)
    (hstands : StandsFor catalog w.graph id (.command command)) :
    w.graph.tagAsked id (.slot optionsSlot) = some (.option command.id) ∧
      w.graph.tagAsked id (.slot operandsSlot) = some (.operand command.id) := by
  rcases hstands with ⟨block, hblock, hknown⟩
  rcases h.exists_definition hblock with ⟨definition, hknown', hslots, -, -⟩
  obtain rfl := Option.some.inj (hknown.symm.trans hknown')
  rw [tagAsked_slot_eq hblock, tagAsked_slot_eq hblock, Block.slot?, Block.slot?, hslots]
  exact ⟨rfl, rfl⟩

/-- What a slot holds stands for a definition that shows the tag the slot asks for. -/
theorem Valid.exists_definition_of_mem {tag : Tag} {slot : String} (h : Valid catalog settings w)
    (hasked : w.graph.tagAsked id (.slot slot) = some tag)
    (hmem : child ∈ w.graph.slotChain id slot) :
    ∃ definition, StandsFor catalog w.graph child definition ∧
      definition.kind.tag? = some tag := by
  rcases h.tended.sound.tagShown_of_mem_slotChain hmem with ⟨tag', hasked', hshown⟩
  obtain rfl := Option.some.inj (hasked.symm.trans hasked')
  rcases Option.bind_eq_some_iff.1 hshown with ⟨block, hblock, htag⟩
  rcases h.exists_definition hblock with ⟨definition, hknown, -⟩
  refine ⟨definition, ⟨block, hblock, hknown⟩, ?_⟩
  rw [← (Catalog.kind_of_definition? hknown).1]
  exact htag

/-- The slot for options holds options of the command. -/
theorem Valid.option_of_mem (h : Valid catalog settings w)
    (hstands : StandsFor catalog w.graph id (.command command))
    (hmem : child ∈ w.graph.slotChain id optionsSlot) :
    StandsFor catalog w.graph child (.option command) := by
  obtain ⟨definition, hchild, htag⟩ :=
    h.exists_definition_of_mem (h.tagAsked_command hstands).1 hmem
  cases definition with
  | option owner =>
    have hid : owner.id = command.id := by simpa [Definition.kind, BlockKind.tag?] using htag
    obtain rfl := hchild.command_unique hstands rfl rfl hid
    exact hchild
  | _ => simp [Definition.kind, BlockKind.tag?] at htag

/-- The slot for operands holds operands of the command. -/
theorem Valid.operand_of_mem (h : Valid catalog settings w)
    (hstands : StandsFor catalog w.graph id (.command command))
    (hmem : child ∈ w.graph.slotChain id operandsSlot) :
    ∃ operand, StandsFor catalog w.graph child (.operand command operand) := by
  obtain ⟨definition, hchild, htag⟩ :=
    h.exists_definition_of_mem (h.tagAsked_command hstands).2 hmem
  cases definition with
  | operand owner operand =>
    have hid : owner.id = command.id := by simpa [Definition.kind, BlockKind.tag?] using htag
    obtain rfl := hchild.command_unique hstands rfl rfl hid
    exact ⟨operand, hchild⟩
  | _ => simp [Definition.kind, BlockKind.tag?] at htag

/-- No block in the slot for options is passed over. -/
theorem Valid.attachedOptions_eq (h : Valid catalog settings w)
    (hstands : StandsFor catalog w.graph id (.command command)) :
    w.site.attachedOptions id = w.graph.slotChain id optionsSlot := by
  refine List.filter_eq_self.2 fun child hmem => ?_
  exact (h.option_of_mem hstands hmem).hasKind BlockKind.isOption

/-- No block in the slot for operands is passed over. -/
theorem Valid.attachedOperands_eq (h : Valid catalog settings w)
    (hstands : StandsFor catalog w.graph id (.command command)) :
    w.site.attachedOperands id = w.graph.slotChain id operandsSlot := by
  refine List.filter_eq_self.2 fun child hmem => ?_
  rcases h.operand_of_mem hstands hmem with ⟨operand, hoperand⟩
  exact hoperand.hasKind BlockKind.isOperand

/-- The node of a command holds the nodes of what is attached to its block. -/
theorem Valid.attached_command (h : Valid catalog settings w)
    (hstands : StandsFor catalog w.graph id (.command command))
    (hreads : Reads catalog w.graph id node) :
    ReadsAll catalog w.graph (w.site.attachedOptions id) (node.children "options") ∧
      ReadsAll catalog w.graph (w.site.attachedOperands id) (node.children "operands") := by
  rw [h.attachedOptions_eq hstands, h.attachedOperands_eq hstands]
  rcases hstands.readsBy hreads with ⟨block, hblock, hby⟩
  cases hby with
  | command heldOptions allOptions heldOperands allOperands =>
    have hlinked := h.tended.sound.toWellLinked
    obtain rfl := heldOptions.unique (hlinked.holds_slotChain id optionsSlot)
    obtain rfl := heldOperands.unique (hlinked.holds_slotChain id operandsSlot)
    exact ⟨allOptions, allOperands⟩

/-- The flags of the options of a command, as its node has them. -/
theorem Valid.flags_eq (h : Valid catalog settings w)
    (hstands : StandsFor catalog w.graph id (.command command))
    (hreads : Reads catalog w.graph id node) :
    (node.children "options").map (fun option => option.text "flag") =
      (flaggedOptions w.graph id).map Prod.snd := by
  have hall := (h.attached_command hstands hreads).1
  rw [flaggedOptions, List.map_map]
  refine hall.map_eq fun child hmem childNode hchild => ?_
  rw [h.attachedOptions_eq hstands] at hmem
  exact (h.option_of_mem hstands hmem).text_flag hchild

/-- How often an operand is given to a command, as its node has it. -/
theorem Valid.countP_operands_eq (h : Valid catalog settings w)
    (hstands : StandsFor catalog w.graph id (.command command))
    (hreads : Reads catalog w.graph id node) (name : String) :
    (node.children "operands").countP (fun operand => operand.name == name) =
      (w.site.attachedOperands id).countP
        (w.graph.hasKind (BlockKind.isOperandNamed name)) := by
  refine (h.attached_command hstands hreads).2.countP_eq fun child hmem childNode hchild => ?_
  rw [h.attachedOperands_eq hstands] at hmem
  rcases h.operand_of_mem hstands hmem with ⟨operand, hoperand⟩
  rw [hoperand.name_operand hchild, hoperand.hasKind]
  rfl

/-- The sequence of some operands as a text, as their nodes have it. -/
theorem Valid.sequenceText_eq {chain : List BlockId} {nodes : List Node}
    (h : Valid catalog settings w) (hall : ReadsAll catalog w.graph chain nodes) :
    w.site.sequenceText command chain =
      String.join (nodes.map fun operand => operand.name ++ w.site.delimiter command) := by
  refine congrArg String.join ?_
  induction chain generalizing nodes with
  | nil => cases hall with | nil => rfl
  | cons first rest ih =>
    cases hall with
    | cons hfirst hrest =>
      rcases h.exists_meaning hfirst with ⟨meaning, hmeaning, hname⟩
      have hmeant : w.site.meanings.get? first = some meaning := hmeaning
      rw [List.filterMap_cons, hmeant, List.map_cons, List.map_cons, hname, ih hrest]

end Workspace

/-! ## Commands that are supplied with data -/

/-- A block is in the chain of a slot that an operator supplies with data. -/
def Supplied (catalog : Catalog) (g : BlockGraph) (id : BlockId) : Prop :=
  ∃ owner slot operator, id ∈ g.slotChain owner slot ∧
    StandsFor catalog g owner (.operator operator) ∧ slot ∈ operator.slotsWithImplicitData

namespace Workspace

/-- The meaning of an operator says which slots it supplies with data. -/
theorem Valid.suppliesData_iff {owner : BlockId} (h : Valid catalog settings w)
    (howner : w.graph.contains owner = true) (slot : String) :
    (match (w.meanings.get? owner).bind Meaning.operatorForm? with
      | some form => form.suppliesData slot
      | none => false) = true ↔
    ∃ operator, StandsFor catalog w.graph owner (.operator operator) ∧
      slot ∈ operator.slotsWithImplicitData := by
  rcases contains_iff.1 howner with ⟨block, hblock⟩
  rcases h.exists_definition hblock with ⟨definition, hknown, -, hmeant, -⟩
  have hstands : StandsFor catalog w.graph owner definition := ⟨block, hblock, hknown⟩
  rw [hmeant, Option.bind_some]
  cases definition with
  | operator operator =>
    have hform : Meaning.operatorForm? (Definition.operator operator).template.meaning =
      some (Template.operatorForm operator) := rfl
    rw [hform]
    constructor
    · intro hsupplies
      exact ⟨operator, hstands, List.contains_iff_mem.1 hsupplies⟩
    · rintro ⟨other, hother, hmem⟩
      obtain rfl := Definition.operator.inj (hstands.unique hother)
      exact List.contains_iff_mem.2 hmem
  | _ =>
    refine iff_of_false Bool.false_ne_true fun ⟨operator, hoperator, _⟩ => ?_
    exact Definition.noConfusion (hstands.unique hoperator)

/-- A command is supplied with data by the slot that its chain is in, or not at all. -/
theorem Valid.suppliedFromOutside_iff (h : Valid catalog settings w)
    (hid : w.graph.contains id = true) :
    w.site.suppliedFromOutside id = true ↔ Supplied catalog w.graph id := by
  have hlinked := h.tended.sound.toWellLinked
  have hsurround : ∀ owner slot, w.site.graph.surroundParent id = some (owner, slot) ↔
      id ∈ w.graph.slotChain owner slot := fun _ _ => hlinked.surroundParent_eq_some_iff hid
  rw [Site.suppliedFromOutside]
  cases hplace : w.site.graph.surroundParent id with
  | none =>
    refine iff_of_false Bool.false_ne_true fun ⟨owner, slot, operator, hmem, _⟩ => ?_
    rw [(hsurround owner slot).2 hmem] at hplace
    simp at hplace
  | some place =>
    rcases place with ⟨owner, slot⟩
    have hmem := (hsurround owner slot).1 hplace
    rcases hlinked.mem_slotChain_iff.1 hmem with ⟨head, hlink, -⟩
    refine (h.suppliesData_iff (hlinked.ends_present _ hlink).1 slot).trans ?_
    constructor
    · rintro ⟨operator, hstands, hsupplied⟩
      exact ⟨owner, slot, operator, hmem, hstands, hsupplied⟩
    · rintro ⟨owner', slot', operator, hmem', hstands, hsupplied⟩
      rw [(hsurround owner' slot').2 hmem', Option.some.injEq, Prod.mk.injEq] at hplace
      rcases hplace with ⟨rfl, rfl⟩
      exact ⟨operator, hstands, hsupplied⟩

end Workspace

end ShellComposer
