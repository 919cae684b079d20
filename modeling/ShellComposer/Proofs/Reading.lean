import ShellComposer.Proofs.Templated

/-!
# Scripts are read off the graph

The script tree says what the graph says, block by block.  Here this is put as a relation between
blocks and nodes that mentions neither meanings nor enabled flags, and after any run the tree that
is emitted is the one node that the script block is read as.

Main results:

- Inductive types `Reads`, `ReadsAll`, `ReadsSlots`: what blocks, chains and slots are read as.
- Theorem `Reads.unique`: a block is read as at most one node.
- Theorem `Workspace.Valid.emitBlock_reads`: every block of the script is emitted as it reads.
- Theorem `Workspace.emit_run_reads`: after any run the script is emitted as it reads.
-/

namespace ShellComposer

open BlockGraph Relation

section Reading

variable (catalog : Catalog) (g : BlockGraph)

mutual
/-- The script node that a block is read as. -/
inductive Reads : BlockId → Node → Prop where
  | by_definition {id : BlockId} {block : Block} {definition : Definition} {node : Node}
      (found : g.get? id = some block) (known : catalog.definition? block.kind = some definition)
      (reads : ReadsBy id block definition node) : Reads id node

/-- The node that a block is read as when its kind stands for a definition. -/
inductive ReadsBy : BlockId → Block → Definition → Node → Prop where
  | script {id : BlockId} {block : Block} {stack : List BlockId} {commands : List Node}
      (held : g.Holds id stackSlot stack) (all : ReadsAll stack commands) :
      ReadsBy id block .script
        (.mk .script "script" [.ofNodes "commands" commands] none none)
  | command {id : BlockId} {block : Block} {command : Catalog.CommandDef}
      {optionChain operandChain : List BlockId} {options operands : List Node}
      (heldOptions : g.Holds id optionsSlot optionChain) (allOptions : ReadsAll optionChain options)
      (heldOperands : g.Holds id operandsSlot operandChain)
      (allOperands : ReadsAll operandChain operands) :
      ReadsBy id block (.command command)
        (.mk .command command.shellCommand
          [.ofNodes "options" options, .ofNodes "operands" operands] none none)
  | option {id : BlockId} {block : Block} {command : Catalog.CommandDef} :
      ReadsBy id block (.option command)
        (.mk .option command.shellCommand
          (.ofText "flag" (block.fieldText flagField) ::
            if command.hasOptionArguments
            then [.ofText "argument" (block.fieldText argumentField)] else []) none none)
  | operand {id : BlockId} {block : Block} {command : Catalog.CommandDef}
      {operand : Catalog.OperandDef} :
      ReadsBy id block (.operand command operand)
        (.mk .operand operand.id [.ofText "value" (block.fieldText valueField)] none none)
  | control {id : BlockId} {block : Block} {control : Catalog.ControlDef}
      {parameters : List Parameter} (slots : ReadsSlots id control.slots parameters) :
      ReadsBy id block (.control control)
        (.mk .control control.scriptName parameters
          (some ⟨control.syntaxEnd, control.slots.map fun slot =>
            ⟨slotKey slot.name, slot.syntaxPrefix, slot.obligatory, slot.breakLineBefore⟩⟩) none)
  | operator {id : BlockId} {block : Block} {operator : Catalog.OperatorDef}
      {parameters : List Parameter} (slots : ReadsSlots id operator.slots parameters) :
      ReadsBy id block (.operator operator)
        (.mk .operator operator.id parameters none
          (some ⟨operator.slots.map fun slot =>
            ⟨slotKey slot.name, slot.symbol, slot.symbolPlacement⟩⟩))

/-- The nodes that blocks are read as, one for each. -/
inductive ReadsAll : List BlockId → List Node → Prop where
  | nil : ReadsAll [] []
  | cons {id : BlockId} {ids : List BlockId} {node : Node} {nodes : List Node}
      (first : Reads id node) (rest : ReadsAll ids nodes) : ReadsAll (id :: ids) (node :: nodes)

/-- The parameters that the slots of a block are read as, with the nodes of all blocks held
there. -/
inductive ReadsSlots : BlockId → List Catalog.SlotDef → List Parameter → Prop where
  | nil {id : BlockId} : ReadsSlots id [] []
  | cons {id : BlockId} {slot : Catalog.SlotDef} {slots : List Catalog.SlotDef}
      {chain : List BlockId} {nodes : List Node} {parameters : List Parameter}
      (held : g.Holds id slot.name chain) (all : ReadsAll chain nodes)
      (rest : ReadsSlots id slots parameters) :
      ReadsSlots id (slot :: slots) (.ofNodes (slotKey slot.name) nodes :: parameters)
end

end Reading

variable {catalog : Catalog} {settings : Settings} {g : BlockGraph} {w : Workspace}
variable {id a b : BlockId} {block : Block}

/-- A block with a definition is read by that definition. -/
theorem Reads.readsBy {definition : Definition} {node : Node} (h : Reads catalog g id node)
    (found : g.get? id = some block) (known : catalog.definition? block.kind = some definition) :
    ReadsBy catalog g id block definition node := by
  cases h with
  | by_definition found' known' reads =>
    obtain rfl := Option.some.inj (found.symm.trans found')
    obtain rfl := Option.some.inj (known.symm.trans known')
    exact reads

/-- A block is read as at most one node. -/
theorem Reads.unique {node other : Node} (h : Reads catalog g id node)
    (hother : Reads catalog g id other) : node = other := by
  refine @Reads.rec catalog g
    (fun id node _ => ∀ other, Reads catalog g id other → node = other)
    (fun id block definition node _ =>
      ∀ other, ReadsBy catalog g id block definition other → node = other)
    (fun ids nodes _ => ∀ others, ReadsAll catalog g ids others → nodes = others)
    (fun id slots parameters _ =>
      ∀ others, ReadsSlots catalog g id slots others → parameters = others)
    ?block ?script ?command ?option ?operand ?control ?operator ?noBlock ?moreBlocks ?noSlot
    ?moreSlots id node h other hother
  case block =>
    intro id block definition node found known _ ih other hother
    exact ih other (hother.readsBy found known)
  case script =>
    intro id block stack commands held _ ih other hother
    cases hother with
    | script held' hstack =>
      obtain rfl := held.unique held'
      rw [ih _ hstack]
  case command =>
    intro id block command optionChain operandChain options operands heldOptions _ heldOperands _
      ihOptions ihOperands other hother
    cases hother with
    | command heldOptions' hoptions heldOperands' hoperands =>
      obtain rfl := heldOptions.unique heldOptions'
      obtain rfl := heldOperands.unique heldOperands'
      rw [ihOptions _ hoptions, ihOperands _ hoperands]
  case option => rintro id block command other ⟨⟩; rfl
  case operand => rintro id block command operand other ⟨⟩; rfl
  case control =>
    intro id block control parameters _ ih other hother
    cases hother with
    | control hslots => rw [ih _ hslots]
  case operator =>
    intro id block operator parameters _ ih other hother
    cases hother with
    | operator hslots => rw [ih _ hslots]
  case noBlock => rintro others ⟨⟩; rfl
  case moreBlocks =>
    intro id ids node nodes _ _ ihFirst ihRest others hothers
    cases hothers with
    | cons hfirst hrest => rw [ihFirst _ hfirst, ihRest _ hrest]
  case noSlot => rintro id others ⟨⟩; rfl
  case moreSlots =>
    intro id slot slots chain nodes parameters held _ _ ihChain ihRest others hothers
    cases hothers with
    | cons held' hchain hrest =>
      obtain rfl := held.unique held'
      rw [ihChain _ hchain, ihRest _ hrest]

/-! ## Blocks of the script -/

namespace BlockGraph

/-- A block lies one block deeper than the block above it. -/
theorem WellLinked.length_ancestry_of_leads (h : g.WellLinked) (hleads : g.Leads a b) :
    (g.ancestry b).length = (g.ancestry a).length + 1 := by
  rcases h.leads_present hleads with ⟨ha, hb⟩
  have horbit : Orbit g.above b (b :: g.ancestry a) :=
    .more (h.above_eq_some_iff.2 hleads) (h.ancestry_orbit ha)
  rw [(h.ancestry_orbit hb).unique horbit, List.length_cons]

/-- What a block leads to lies deeper. -/
theorem WellLinked.length_ancestry_lt (h : g.WellLinked) (hpath : TransGen g.Leads a b) :
    (g.ancestry a).length < (g.ancestry b).length := by
  induction hpath with
  | single hleads =>
    rw [h.length_ancestry_of_leads hleads]
    exact Nat.lt_succ_self _
  | tail _ hleads ih =>
    rw [h.length_ancestry_of_leads hleads]
    exact Nat.lt_succ_of_lt ih

end BlockGraph

namespace Workspace

/-- The enabled blocks are those that the script leads to. -/
theorem Valid.isEnabled_iff (h : Valid catalog settings w) :
    w.graph.isEnabled id = true ↔ ReflTransGen w.graph.Leads root id := by
  have hlinked := h.tended.sound.toWellLinked
  cases hblock : w.graph.get? id with
  | some block =>
    rw [isEnabled_eq hblock, h.consistent.enabled_iff id block hblock]
    exact hlinked.rootOf_eq_root_iff (contains_iff.2 ⟨block, hblock⟩)
  | none =>
    refine iff_of_false (by simp [isEnabled, hblock]) fun hpath => ?_
    have hpresent : w.graph.contains id = true := by
      rcases hpath.cases_tail with hroot | ⟨before, -, hleads⟩
      · exact hroot ▸ hlinked.root_present
      · exact (hlinked.leads_present hleads).2
    rcases contains_iff.1 hpresent with ⟨block, hfound⟩
    simp [hblock] at hfound

/-- What a block of the script holds is enabled. -/
theorem Valid.isEnabled_of_mem_slotChain {slot : String} (h : Valid catalog settings w)
    (hid : w.graph.isEnabled id = true) (hmem : a ∈ w.graph.slotChain id slot) :
    w.graph.isEnabled a = true := by
  rw [h.isEnabled_iff] at hid ⊢
  exact hid.trans (h.tended.sound.leads_of_mem_slotChain hmem).to_reflTransGen

/-- Nothing that a block of the script holds is passed over. -/
theorem Valid.enabledChain_eq (h : Valid catalog settings w) (hid : w.graph.isEnabled id = true)
    (slot : String) : w.graph.enabledChain id slot = w.graph.slotChain id slot :=
  List.filter_eq_self.2 fun _ hmem => h.isEnabled_of_mem_slotChain hid hmem

/-- What an enabled block has in a slot is all enabled. -/
theorem Valid.holds_enabledChain (h : Valid catalog settings w)
    (hid : w.graph.isEnabled id = true) (slot : String) :
    w.graph.Holds id slot (w.graph.enabledChain id slot) := by
  rw [h.enabledChain_eq hid slot]
  exact h.tended.sound.holds_slotChain id slot

/-- Every block has a definition, whose template gave it its slots, its fields and its meaning. -/
theorem Valid.exists_definition (h : Valid catalog settings w)
    (hblock : w.graph.get? id = some block) :
    ∃ definition, catalog.definition? block.kind = some definition ∧
      block.slots = definition.template.slots ∧
      w.meanings.get? id = some definition.template.meaning ∧
      ∀ entry ∈ definition.template.fields, (block.field? entry.1).isSome = true := by
  obtain ⟨definition, hknown, hslots, hmeant, hfields⟩ :=
    h.templated.template_eq id _ _ (shape?_eq_some_iff.2 ⟨block, hblock, rfl, rfl⟩)
  rw [h.catalog_eq] at hknown
  simp only [field?, hblock, Option.bind_some] at hfields
  exact ⟨definition, hknown, hslots, hmeant, hfields⟩

end Workspace

/-! ## Emitting -/

/-- The key of a slot in the config is that of the parameter read from it. -/
theorem Meaning.configKey_eq {meaning : Meaning} (slots : List Catalog.SlotDef)
    (hbindings : meaning.bindings = Template.bindingsOf slots) (slot : String) :
    meaning.configKey slot = slotKey slot := by
  rw [Meaning.configKey]
  split
  · rename_i binding hfind
    have hname := List.find?_some hfind
    have hmem := List.mem_of_find?_eq_some hfind
    rw [hbindings, Template.bindingsOf, List.mem_map] at hmem
    rcases hmem with ⟨source, -, rfl⟩
    simp only [Bool.and_eq_true, beq_iff_eq] at hname
    exact congrArg slotKey hname.2
  · rfl

/-- How a control is written, slot by slot. -/
theorem Template.controlConfig?_control (control : Catalog.ControlDef) :
    (Template.control control).meaning.controlConfig? =
      some ⟨control.syntaxEnd, control.slots.map fun slot =>
        ⟨slotKey slot.name, slot.syntaxPrefix, slot.obligatory, slot.breakLineBefore⟩⟩ := by
  have hkey : ∀ slot, (Template.control control).meaning.configKey slot = slotKey slot :=
    Meaning.configKey_eq control.slots rfl
  simp only [Meaning.controlConfig?, hkey]
  simp [Meaning.controlForm?, Template.control, Template.controlForm]

/-- How an operator is written, slot by slot. -/
theorem Template.operatorConfig?_operator (operator : Catalog.OperatorDef) :
    (Template.operator operator).meaning.operatorConfig? =
      some ⟨operator.slots.map fun slot =>
        ⟨slotKey slot.name, slot.symbol, slot.symbolPlacement⟩⟩ := by
  have hkey : ∀ slot, (Template.operator operator).meaning.configKey slot = slotKey slot :=
    Meaning.configKey_eq operator.slots rfl
  simp only [Meaning.operatorConfig?, hkey]
  simp [Meaning.operatorForm?, Template.operator, Template.operatorForm]

section Emission

variable {emitNode : BlockId → Except Fault Node} {chain : List BlockId} {slot : String}

/-- A chain is emitted as it reads if every block in it is. -/
theorem mapM_reads (hchain : ∀ child ∈ chain, ∃ node, emitNode child = .ok node ∧
    Reads catalog g child node) :
    ∃ nodes, chain.mapM emitNode = .ok nodes ∧ ReadsAll catalog g chain nodes := by
  induction chain with
  | nil => exact ⟨[], rfl, .nil⟩
  | cons first rest ih =>
    rcases hchain first List.mem_cons_self with ⟨node, hnode, hreads⟩
    obtain ⟨nodes, hnodes, hall⟩ :=
      ih fun child hchild => hchain child (List.mem_cons_of_mem _ hchild)
    refine ⟨node :: nodes, ?_, .cons hreads hall⟩
    rw [List.mapM_cons, hnode, hnodes]
    rfl

/-- A parameter is emitted as its slot reads. -/
theorem emitParameter_reads (block : Block)
    (hchain : ∀ child ∈ g.enabledChain id slot, ∃ node, emitNode child = .ok node ∧
      Reads catalog g child node) (key : String) :
    ∃ nodes, emitParameter g emitNode id block ⟨key, .input, slot⟩ = .ok (.ofNodes key nodes) ∧
      ReadsAll catalog g (g.enabledChain id slot) nodes := by
  rcases mapM_reads hchain with ⟨nodes, hnodes, hreads⟩
  refine ⟨nodes, ?_, hreads⟩
  simp only [emitParameter, hnodes]
  rfl

/-- The slots of a control or operator are emitted as they read. -/
theorem mapM_emitParameter_reads (block : Block)
    (hall : ∀ slot, g.Holds id slot (g.enabledChain id slot))
    (hchain : ∀ slot, ∀ child ∈ g.enabledChain id slot, ∃ node, emitNode child = .ok node ∧
      Reads catalog g child node) (slots : List Catalog.SlotDef) :
    ∃ parameters, (Template.bindingsOf slots).mapM (emitParameter g emitNode id block) =
      .ok parameters ∧ ReadsSlots catalog g id slots parameters := by
  induction slots with
  | nil => exact ⟨[], rfl, .nil⟩
  | cons slot slots ih =>
    obtain ⟨nodes, hnodes, hreads⟩ :=
      emitParameter_reads block (hchain slot.name) (slotKey slot.name)
    rcases ih with ⟨parameters, hparameters, hrest⟩
    refine ⟨.ofNodes (slotKey slot.name) nodes :: parameters, ?_,
      .cons (hall slot.name) hreads hrest⟩
    rw [Template.bindingsOf, List.map_cons, List.mapM_cons, hnodes]
    rw [Template.bindingsOf] at hparameters
    rw [hparameters]
    rfl

/-- A block that means what its template says is emitted as it reads, if everything it holds is. -/
theorem emitBlock_reads {meanings : Meanings} {definition : Definition} {levels : Nat}
    (hblock : g.get? id = some block) (hknown : catalog.definition? block.kind = some definition)
    (hmeant : meanings.get? id = some definition.template.meaning)
    (hall : ∀ slot, g.Holds id slot (g.enabledChain id slot))
    (hchain : ∀ slot, ∀ child ∈ g.enabledChain id slot, ∃ node,
      emitBlock g meanings levels child = .ok node ∧ Reads catalog g child node) :
    ∃ node, emitBlock g meanings (levels + 1) id = .ok node ∧ Reads catalog g id node := by
  have hemit : ∀ parameters, definition.template.meaning.bindings.mapM
      (emitParameter g (emitBlock g meanings levels) id block) = .ok parameters →
      emitBlock g meanings (levels + 1) id =
        .ok (.mk definition.template.meaning.nodeType definition.template.meaning.name parameters
          definition.template.meaning.controlConfig?
          definition.template.meaning.operatorConfig?) := by
    intro parameters hparameters
    simp only [emitBlock, block_eq_ok_iff.2 hblock, hmeant, bind, Except.bind, hparameters]
    rfl
  suffices hreads : ∃ parameters, definition.template.meaning.bindings.mapM
      (emitParameter g (emitBlock g meanings levels) id block) = .ok parameters ∧
      ReadsBy catalog g id block definition
        (.mk definition.template.meaning.nodeType definition.template.meaning.name parameters
          definition.template.meaning.controlConfig?
          definition.template.meaning.operatorConfig?) by
    rcases hreads with ⟨parameters, hparameters, hreads⟩
    exact ⟨_, hemit parameters hparameters, .by_definition hblock hknown hreads⟩
  cases definition with
  | script =>
    obtain ⟨commands, hcommands, hreads⟩ :=
      emitParameter_reads block (hchain stackSlot) "commands"
    refine ⟨[.ofNodes "commands" commands], ?_, .script (hall stackSlot) hreads⟩
    simp only [Definition.template, Template.script, scriptMeaning, List.mapM_cons, hcommands]
    rfl
  | command command =>
    obtain ⟨options, hoptions, hreads⟩ :=
      emitParameter_reads block (hchain optionsSlot) "options"
    obtain ⟨operands, hoperands, hreads'⟩ :=
      emitParameter_reads block (hchain operandsSlot) "operands"
    refine ⟨[.ofNodes "options" options, .ofNodes "operands" operands], ?_,
      .command (hall optionsSlot) hreads (hall operandsSlot) hreads'⟩
    simp only [Definition.template, Template.command, List.mapM_cons, hoptions, hoperands]
    rfl
  | option command =>
    refine ⟨_, ?_, .option⟩
    simp only [Definition.template, Template.option]
    split <;> rfl
  | operand command operand => exact ⟨_, rfl, .operand⟩
  | control control =>
    obtain ⟨parameters, hparameters, hreads⟩ :=
      mapM_emitParameter_reads block hall hchain control.slots
    refine ⟨parameters, hparameters, ?_⟩
    rw [Definition.template, Template.controlConfig?_control]
    exact .control hreads
  | operator operator =>
    obtain ⟨parameters, hparameters, hreads⟩ :=
      mapM_emitParameter_reads block hall hchain operator.slots
    refine ⟨parameters, hparameters, ?_⟩
    rw [Definition.template, Template.operatorConfig?_operator]
    exact .operator hreads

end Emission

namespace Workspace

/-- Every block of the script is emitted as it reads.  Each level of blocks is one link further from
the script, so as many levels as there are blocks are enough. -/
theorem Valid.emitBlock_reads (h : Valid catalog settings w) (levels : Nat)
    (hid : w.graph.isEnabled id = true)
    (hlevels : w.graph.size < levels + (w.graph.ancestry id).length) :
    ∃ node, emitBlock w.graph w.meanings levels id = .ok node ∧ Reads catalog w.graph id node := by
  have hlinked := h.tended.sound.toWellLinked
  induction levels generalizing id with
  | zero =>
    rcases exists_block_of_isEnabled hid with ⟨block, hblock⟩
    have hbound := hlinked.length_ancestry_le (contains_iff.2 ⟨block, hblock⟩)
    omega
  | succ levels ih =>
    rcases exists_block_of_isEnabled hid with ⟨block, hblock⟩
    rcases h.exists_definition hblock with ⟨definition, hknown, -, hmeant, -⟩
    refine ShellComposer.emitBlock_reads hblock hknown hmeant (h.holds_enabledChain hid) ?_
    intro slot child hchild
    rw [h.enabledChain_eq hid] at hchild
    have hdeeper := hlinked.length_ancestry_lt (hlinked.leads_of_mem_slotChain hchild)
    refine ih (h.isEnabled_of_mem_slotChain hid hchild) ?_
    omega

/-- The script is emitted as it reads. -/
theorem Valid.emit_reads (h : Valid catalog settings w) :
    ∃ node, w.emit = .ok node ∧ Reads catalog w.graph root node := by
  have hroot : w.graph.isEnabled root = true := h.isEnabled_iff.2 .refl
  have hlength : 0 < (w.graph.ancestry root).length := by
    obtain ⟨rest, hrest⟩ :=
      (h.tended.sound.ancestry_orbit h.tended.sound.root_present).exists_cons
    rw [hrest]
    exact Nat.zero_lt_succ _
  rcases h.emitBlock_reads w.graph.size hroot (by omega) with ⟨node, hnode, hreads⟩
  refine ⟨node, ?_, hreads⟩
  rcases h.templated.root_script with ⟨slots, hslots⟩
  rcases shape?_eq_some_iff.1 hslots with ⟨block, hblock, hkind, -⟩
  have hknown : catalog.definition? block.kind = some .script := by
    rw [hkind]
    rfl
  have hscript : node.nodeType = .script := by
    cases hreads.readsBy hblock hknown
    rfl
  rw [emit, ShellComposer.emit, if_pos h.tended.sound.root_present, hnode]
  exact if_pos hscript

/-- After any run of changes the script is emitted, as the one node that the script block is read
as, and the enabled blocks in a slot of a block of the script are all that the slot holds. -/
theorem emit_run_reads (catalog : Catalog) (settings : Settings) (mutations : List Mutation) :
    (∃ node, (run catalog settings mutations).emit = .ok node) ∧
      (∀ node, (run catalog settings mutations).emit = .ok node ↔
        Reads catalog (run catalog settings mutations).graph root node) ∧
      ∀ id slot, (run catalog settings mutations).graph.isEnabled id = true →
        (run catalog settings mutations).graph.Holds id slot
          ((run catalog settings mutations).graph.enabledChain id slot) := by
  have h := valid_run catalog settings mutations
  rcases h.emit_reads with ⟨node, hemit, hreads⟩
  refine ⟨⟨node, hemit⟩, fun other => ⟨fun hother => ?_, fun hother => ?_⟩,
    fun id slot hid => h.holds_enabledChain hid slot⟩
  · obtain rfl : node = other := Except.ok.inj (hemit.symm.trans hother)
    exact hreads
  · rw [hreads.unique hother] at hemit
    exact hemit

end Workspace

end ShellComposer
