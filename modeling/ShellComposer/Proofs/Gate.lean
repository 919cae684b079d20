import ShellComposer.Proofs.Attached
import ShellComposer.Proofs.Checking
import ShellComposer.Proofs.Settled

/-!
# What gets through the gate

A script is handed on when the workspace is not blocked.  Repairs, checks and the script tree each
walk over the blocks in their own way; here they are held against each other.  After any run whose
last change succeeded, the tree has nothing in it that repairs would take off, and the workspace is
not blocked exactly when the tree is complete.

Main results:

- Structure `Untangled`: a node of a command as repairs leave it.
- Definition `Complete`: a node that no check finds fault with.
- Theorem `Valid.check_eq_nil_iff`: a check finds no fault exactly when the node is complete.
- Theorem `unblocked_iff_complete`: what the tree of a workspace looks like after a run.
-/

namespace ShellComposer

open BlockGraph Catalog Pattern

/-- A node of a command as repairs leave it. -/
structure Untangled (command : CommandDef) (node : Node) : Prop where
  /-- No flag occurs twice. -/
  distinct : ((node.children "options").map fun option => option.text "flag").Nodup
  /-- Of options that exclude each other there is at most one. -/
  exclusive : ∀ group ∈ command.exclusiveOptions,
    (node.children "options").countP (fun option => group.contains (option.text "flag")) ≤ 1
  /-- No operand is given more often than allowed. -/
  bounded : ∀ operand ∈ command.operands, ∀ most, operand.cardinality.max.limit = some most →
    (node.children "operands").countP (fun child => child.name == operand.id) ≤ most.toNat

/-- The sequence of operands of a command as a text: after the name of each comes the delimiter. -/
def sequenceOf (settings : Settings) (command : CommandDef) (node : Node) : String :=
  String.join ((node.children "operands").map fun operand =>
    operand.name ++ command.operandIdsSequenceDelimiter.getD settings.defaultSequenceDelimiter)

/-- A node of a command that has enough of everything.  Where it is supplied with data, only its
options count. -/
structure CompleteCommand (engine : Engine) (settings : Settings) (supplied : Prop)
    (command : CommandDef) (node : Node) : Prop where
  options_enough : ∀ least, command.optionsMin = some least →
    least.toNat ≤ (node.children "options").length
  operands_enough : ¬ supplied → ∀ least, command.operandsMin = some least →
    least.toNat ≤ (node.children "operands").length
  kinds_enough : ¬ supplied → ∀ operand ∈ command.operands, operand.cardinality.min.toNat ≤
    (node.children "operands").countP fun child => child.name == operand.id
  /-- There are no rules about sequences, or the first that matches carries no message. -/
  sequence_accepted : ¬ supplied → command.operandSyntaxRules = [] ∨
    ∃ rule, (command.operandSyntaxRules.find? fun rule => accepts engine
      (wholeSequence rule.regexPattern) (sequenceOf settings command node)) = some rule ∧
        rule.errorMessage.getD "" = ""

/-- A node without anything to put right, by the definition that its block stands for. -/
def Complete (engine : Engine) (settings : Settings) (supplied : Prop) (node : Node) :
    Definition → Prop
  | .script => True
  | .command command => CompleteCommand engine settings supplied command node
  | .option command => ∀ rule ∈ command.argumentRules (node.text "flag"),
      accepts engine rule.regex (node.text "argument") = true
  | .operand command operand => ∀ rule ∈ command.valueRules operand.id,
      accepts engine rule.regex (node.text "value") = true
  | .control control => ∀ (i : Nat) (slot : SlotDef), control.slots[i]? = some slot →
      ∃ parameter, node.parameters[i]? = some parameter ∧
        (slot.obligatory = true → ∃ first rest, parameter.children = some (first :: rest))
  | .operator operator => ∀ (i : Nat) (slot : SlotDef), operator.slots[i]? = some slot →
      ∃ parameter, node.parameters[i]? = some parameter ∧
        ∃ only, parameter.children = some [only]

variable {engine : Engine} {catalog : Catalog} {settings : Settings}
variable {g : BlockGraph} {w : Workspace} {id : BlockId} {node : Node} {definition : Definition}
variable {command : CommandDef}

/-! ## Slots with one block, and slots with any -/

namespace BlockGraph

/-- A slot has a head when its chain has a first block. -/
theorem Holds.nonempty_iff {slot : String} {chain : List BlockId} (h : g.Holds id slot chain) :
    g.slotHead id slot ≠ none ↔ ∃ first rest, chain = first :: rest := by
  cases h with
  | empty nothing => simp [nothing]
  | stack first onward =>
    rcases onward.exists_cons with ⟨rest, rfl⟩
    simp [first]

/-- A slot has a head that nothing follows when its chain is one block. -/
theorem Holds.single_iff {slot : String} {chain : List BlockId} (h : g.Holds id slot chain) :
    (∃ head, g.slotHead id slot = some head ∧ g.next head = none) ↔ ∃ only, chain = [only] := by
  cases h with
  | empty nothing => simp [nothing]
  | stack first onward =>
    cases onward with
    | last stop => simp [first, stop]
    | more go onward =>
      rcases onward.exists_cons with ⟨rest, rfl⟩
      simp [first, go]

end BlockGraph

namespace ReadFrom

variable {slot : String} {parameter : Parameter} {chain : List BlockId} {nodes : List Node}

/-- A slot with any blocks in it is a parameter with any nodes in it. -/
theorem nonempty_iff (h : ReadFrom catalog g id slot parameter chain nodes) :
    g.slotHead id slot ≠ none ↔
      ∃ first rest, parameter.children = some (first :: rest) := by
  rw [h.holds.nonempty_iff, h.children_eq, ← List.length_pos_iff_exists_cons,
    ← h.reads.length_eq, List.length_pos_iff_exists_cons]
  simp only [Option.some.injEq]

/-- A slot with just one block in it is a parameter with just one node in it. -/
theorem single_iff (h : ReadFrom catalog g id slot parameter chain nodes) :
    (∃ head, g.slotHead id slot = some head ∧ g.next head = none) ↔
      ∃ only, parameter.children = some [only] := by
  rw [h.holds.single_iff, h.children_eq, ← List.length_eq_one_iff, ← h.reads.length_eq,
    List.length_eq_one_iff]
  simp only [Option.some.injEq]

end ReadFrom

/-! ## Checks and nodes -/

/-- What is the case for every slot can be told from the parameters. -/
theorem ReadsSlots.forall_slots_iff {slots : List SlotDef} {parameters : List Parameter}
    {held : SlotDef → Prop} {shown : SlotDef → Parameter → Prop}
    (h : ReadsSlots catalog g id slots parameters)
    (hsame : ∀ (slot : SlotDef) parameter chain nodes,
      ReadFrom catalog g id slot.name parameter chain nodes → (held slot ↔ shown slot parameter)) :
    (∀ slot ∈ slots, held slot) ↔ ∀ (i : Nat) (slot : SlotDef), slots[i]? = some slot →
      ∃ parameter, parameters[i]? = some parameter ∧ shown slot parameter := by
  constructor
  · intro hall i slot hslot
    rcases h.exists_parameter hslot with ⟨parameter, chain, nodes, hparameter, hread⟩
    exact ⟨parameter, hparameter,
      (hsame slot parameter chain nodes hread).1 (hall slot (List.mem_of_getElem? hslot))⟩
  · intro hall slot hmem
    rcases List.getElem?_of_mem hmem with ⟨i, hslot⟩
    rcases h.exists_parameter hslot with ⟨parameter, chain, nodes, hparameter, hread⟩
    rcases hall i slot hslot with ⟨parameter', hparameter', hshown⟩
    obtain rfl := Option.some.inj (hparameter.symm.trans hparameter')
    exact (hsame slot parameter chain nodes hread).2 hshown

/-- Without options that take an argument there are no rules about arguments. -/
theorem argumentRules_eq_nil (hnone : command.hasOptionArguments = false) (flag : String) :
    command.argumentRules flag = [] := by
  have hentries : (command.options.filterMap fun option =>
      option.argument.map fun argument => (option.flag, argument.validations)) = [] := by
    rw [List.filterMap_eq_nil_iff]
    intro option hmem
    rw [CommandDef.hasOptionArguments, List.any_eq_false] at hnone
    have hno := hnone option hmem
    rw [Option.not_isSome_iff_eq_none] at hno
    rw [hno, Option.map_none]
  rw [CommandDef.argumentRules, hentries]
  rfl

/-- Which values a loaded catalog accepts. -/
theorem checkValue_compiled_eq_nil_iff {rules : List ValueRule} {value : String}
    {name : Nat → ViolationId}
    (hvalid : ∀ rule ∈ rules, (compileValueRule engine rule).isSome = true) :
    Site.checkValue (rules.filterMap (compileValueRule engine)) value name = [] ↔
      ∀ rule ∈ rules, accepts engine rule.regex value = true :=
  Site.checkValue_eq_nil_iff.trans (all_compiled_iff hvalid)

namespace Workspace

/-- The sequence of operands is fine when there are no rules for it or one of them accepts it. -/
theorem Valid.checkSequence_eq_nil_iff (h : Valid catalog settings w)
    (hloaded : Loaded engine catalog)
    (hstands : StandsFor catalog w.graph id (.command command))
    (hreads : Reads catalog w.graph id node) :
    w.site.checkSequence command (w.site.attachedOperands id) = [] ↔
      command.operandSyntaxRules = [] ∨
        ∃ rule, (command.operandSyntaxRules.find? fun rule => accepts engine
          (wholeSequence rule.regexPattern) (sequenceOf settings command node)) = some rule ∧
            rule.errorMessage.getD "" = "" := by
  have hmem := hstands.mem_commands rfl
  have hrules : w.site.catalog.sequenceRulesOf command.id =
      command.operandSyntaxRules.filterMap (compileSyntaxRule engine) := by
    rw [← hloaded.sequenceRulesOf_eq hmem, ← h.catalog_eq]
    rfl
  have htext : w.site.sequenceText command (w.site.attachedOperands id) =
      sequenceOf settings command node := by
    rw [h.sequenceText_eq (h.attached_command hstands hreads).2, sequenceOf, ← h.settings_eq]
    rfl
  rw [Site.checkSequence_eq_nil_iff, hrules, htext, find?_compiled]
  refine or_congr ?_ ?_
  · rw [List.filterMap_eq_nil_iff]
    constructor
    · intro hnone
      refine List.eq_nil_iff_forall_not_mem.2 fun rule hrule => ?_
      have hsome := hloaded.faultless.sequence_valid command hmem rule hrule
      rw [hnone rule hrule] at hsome
      exact absurd hsome Bool.false_ne_true
    · intro hnone rule hrule
      rw [hnone] at hrule
      exact absurd hrule List.not_mem_nil
  · simp only [Option.map_eq_some_iff]
    constructor
    · rintro ⟨message, ⟨rule, hrule, rfl⟩, hempty⟩
      exact ⟨rule, hrule, hempty⟩
    · rintro ⟨rule, hrule, hempty⟩
      exact ⟨rule.errorMessage, ⟨rule, hrule, rfl⟩, hempty⟩

/-- A command has nothing to put right exactly when its node is complete. -/
theorem Valid.checkCommand_eq_nil_iff (h : Valid catalog settings w)
    (hloaded : Loaded engine catalog)
    (hstands : StandsFor catalog w.graph id (.command command))
    (hreads : Reads catalog w.graph id node) :
    w.site.checkCommand id command = [] ↔
      CompleteCommand engine settings (Supplied catalog w.graph id) command node := by
  rcases h.attached_command hstands hreads with ⟨hoptions, hoperands⟩
  have hid : w.graph.contains id = true := by
    rcases hstands with ⟨block, hblock, -⟩
    exact contains_iff.2 ⟨block, hblock⟩
  have hsupplied : w.site.suppliedFromOutside id = false ↔ ¬ Supplied catalog w.graph id := by
    rw [← h.suppliedFromOutside_iff hid, Bool.not_eq_true]
  have hkinds : (∀ operand ∈ command.operands,
      w.site.checkOperandKind (w.site.attachedOperands id) operand = none) ↔
      ∀ operand ∈ command.operands, operand.cardinality.min.toNat ≤
        (node.children "operands").countP fun child => child.name == operand.id := by
    refine forall₂_congr fun operand _ => ?_
    rw [Site.checkOperandKind_eq_none_iff, h.countP_operands_eq hstands hreads]
    rfl
  rw [Site.checkCommand_eq_nil_iff, Site.checkOptionCount_eq_nil_iff,
    Site.checkOperandCount_eq_nil_iff, hsupplied, hkinds,
    h.checkSequence_eq_nil_iff hloaded hstands hreads, ← hoptions.length_eq,
    ← hoperands.length_eq]
  constructor
  · rintro ⟨hleast, hrest⟩
    exact ⟨hleast, fun hnot => (hrest hnot).1, fun hnot => (hrest hnot).2.1,
      fun hnot => (hrest hnot).2.2⟩
  · rintro ⟨hleast, hcount, hkind, hsequence⟩
    exact ⟨hleast, fun hnot => ⟨hcount hnot, hkind hnot, hsequence hnot⟩⟩

/-- An operand has nothing to put right exactly when all its rules accept its value. -/
theorem Valid.checkOperand_eq_nil_iff {block : Block} {operand : OperandDef}
    (h : Valid catalog settings w) (hloaded : Loaded engine catalog)
    (hstands : StandsFor catalog w.graph id (.operand command operand))
    (hblock : w.graph.get? id = some block) (hreads : Reads catalog w.graph id node) :
    w.site.checkOperand block command operand = [] ↔
      ∀ rule ∈ command.valueRules operand.id,
        accepts engine rule.regex (node.text "value") = true := by
  have hmem := hstands.mem_commands rfl
  have hrules : w.site.catalog.operandRulesOf command.id operand.id =
      (command.valueRules operand.id).filterMap (compileValueRule engine) := by
    rw [← hloaded.operandRulesOf_eq hmem, ← h.catalog_eq]
    rfl
  rw [Site.checkOperand, hrules,
    checkValue_compiled_eq_nil_iff (hloaded.faultless.valueRules_valid hmem operand.id),
    hstands.text_value hreads, fieldText, hblock]

/-- An option of a command with options has a flag, which it was given when it was placed. -/
theorem Valid.exists_flag {block : Block} (h : Valid catalog settings w)
    (hstands : StandsFor catalog w.graph id (.option command))
    (hblock : w.graph.get? id = some block) (htakes : command.hasOptionArguments = true) :
    ∃ flag, block.field? flagField = some flag := by
  rcases h.exists_definition hblock with ⟨definition, hknown, -, -, hfields⟩
  have hstands' : StandsFor catalog w.graph id definition := ⟨block, hblock, hknown⟩
  obtain rfl := hstands'.unique hstands
  cases hoptions : command.options with
  | nil => simp [CommandDef.hasOptionArguments, hoptions] at htakes
  | cons first rest =>
    refine Option.isSome_iff_exists.1 (hfields (flagField, first.flag) ?_)
    simp [Definition.template, Template.option, hoptions]

/-- An option has nothing to put right exactly when all rules for its flag accept its argument. -/
theorem Valid.checkOption_eq_nil_iff {block : Block} (h : Valid catalog settings w)
    (hloaded : Loaded engine catalog)
    (hstands : StandsFor catalog w.graph id (.option command))
    (hblock : w.graph.get? id = some block) (hreads : Reads catalog w.graph id node) :
    w.site.checkOption block command = [] ↔
      ∀ rule ∈ command.argumentRules (node.text "flag"),
        accepts engine rule.regex (node.text "argument") = true := by
  have hmem := hstands.mem_commands rfl
  have hrules : ∀ flag, w.site.catalog.argumentRulesFor command.id flag =
      (command.argumentRules flag).filterMap (compileValueRule engine) := by
    intro flag
    rw [← hloaded.argumentRulesFor_eq hmem, ← h.catalog_eq]
    rfl
  rw [Site.checkOption]
  cases htakes : command.hasOptionArguments with
  | false =>
    refine iff_of_true ?_ fun rule hrule => ?_
    · split
      · rfl
      · rw [hrules, argumentRules_eq_nil htakes]
        rfl
    · rw [argumentRules_eq_nil htakes] at hrule
      exact absurd hrule List.not_mem_nil
  | true =>
    rcases h.exists_flag hstands hblock htakes with ⟨flag, hflag⟩
    have htext : node.text "flag" = flag := by
      rw [hstands.text_flag hreads, fieldText, hblock]
      simp only [Block.fieldText, hflag, Option.getD_some]
    rw [hflag, htext]
    simp only
    rw [hrules, checkValue_compiled_eq_nil_iff (hloaded.faultless.argumentRules_valid hmem flag),
      hstands.text_argument hreads htakes, fieldText, hblock]

/-- A check finds no fault with a block exactly when its node is complete. -/
theorem Valid.check_eq_nil_iff (h : Valid catalog settings w) (hloaded : Loaded engine catalog)
    (hstands : StandsFor catalog w.graph id definition)
    (hreads : Reads catalog w.graph id node) :
    w.site.check id = [] ↔
      Complete engine settings (Supplied catalog w.graph id) node definition := by
  rcases hstands.readsBy hreads with ⟨block, hblock, hby⟩
  have hfound : w.site.graph.get? id = some block := hblock
  have hknown : w.site.catalog.definition? block.kind = some definition := by
    rcases hstands with ⟨block', hblock', hknown⟩
    obtain rfl := Option.some.inj (hblock.symm.trans hblock')
    rw [← hknown, ← h.catalog_eq]
    rfl
  simp only [Site.check, hfound, hknown]
  cases definition with
  | script => exact iff_of_true rfl trivial
  | command command => exact h.checkCommand_eq_nil_iff hloaded hstands hreads
  | option command => exact h.checkOption_eq_nil_iff hloaded hstands hblock hreads
  | operand command operand => exact h.checkOperand_eq_nil_iff hloaded hstands hblock hreads
  | control control =>
    rw [Site.checkControl_eq_nil_iff]
    cases hby with
    | control hslots =>
      exact hslots.forall_slots_iff fun slot parameter chain nodes hread =>
        imp_congr_right fun _ => hread.nonempty_iff
  | operator operator =>
    rw [Site.checkOperator_eq_nil_iff]
    cases hby with
    | operator hslots =>
      exact hslots.forall_slots_iff fun slot parameter chain nodes hread => hread.single_iff

/-- The node of a command that is in order is untangled. -/
theorem Valid.untangled_of_inOrder (h : Valid catalog settings w)
    (hstands : StandsFor catalog w.graph id (.command command))
    (hreads : Reads catalog w.graph id node) (horder : InOrder w.graph id command) :
    Untangled command node := by
  have hflags := h.flags_eq hstands hreads
  refine ⟨?_, fun group hgroup => ?_, fun operand hoperand most hmost => ?_⟩
  · rw [hflags]
    exact horder.distinct
  · have hcount : (node.children "options").countP
        (fun option => group.contains (option.text "flag")) =
        (flaggedOptions w.graph id).countP fun option => group.contains option.2 := by
      have hmap := congrArg (List.countP group.contains) hflags
      rw [List.countP_map, List.countP_map] at hmap
      exact hmap
    rw [hcount, List.countP_eq_length_filter]
    exact horder.exclusive group hgroup
  · rw [h.countP_operands_eq hstands hreads, h.attachedOperands_eq hstands,
      List.countP_eq_length_filter]
    exact horder.bounded operand hoperand most hmost

/-- Where nothing is left to repair, every command of the script is in order. -/
theorem Valid.inOrder_of_settled (h : Valid catalog settings w) (hsettled : w.Settled)
    (henabled : w.graph.isEnabled id = true)
    (hstands : StandsFor catalog w.graph id (.command command)) :
    InOrder w.graph id command := by
  rcases hstands with ⟨block, hblock, hknown⟩
  rcases Catalog.kind_of_definition? hknown with ⟨hkind, hlisted⟩
  rw [isEnabled_eq hblock] at henabled
  have hcommand : w.catalog.command? command.id = some command := by
    rw [h.catalog_eq]
    exact hlisted command rfl
  exact inOrder_of_repairAll h.tended.sound hsettled hblock hkind henabled hcommand

/-- Every block of the script has a node, and a definition that it stands for. -/
theorem Valid.exists_node_of_isEnabled (h : Valid catalog settings w)
    (henabled : w.graph.isEnabled id = true) :
    ∃ node definition, Emitted w id node ∧ StandsFor catalog w.graph id definition := by
  rcases h.exists_emitted (h.isEnabled_iff.1 henabled) with ⟨⟨node, hemitted⟩, -⟩
  rcases exists_block_of_isEnabled henabled with ⟨block, hblock⟩
  rcases h.exists_definition hblock with ⟨definition, hknown, -⟩
  exact ⟨node, definition, hemitted, block, hblock, hknown⟩

/-- A workspace is not blocked exactly when every node of its script tree is complete. -/
theorem Valid.isBlocked_eq_false_iff (h : Valid catalog settings w)
    (hloaded : Loaded engine catalog) : w.isBlocked = false ↔
      ∀ id node definition, Emitted w id node → StandsFor catalog w.graph id definition →
        Complete engine settings (Supplied catalog w.graph id) node definition := by
  rw [h.consistent.isBlocked_eq_false_iff]
  constructor
  · intro hnone id node definition hemitted hstands
    rcases h.reads_of_emitted hemitted with ⟨henabled, hreads⟩
    exact (h.check_eq_nil_iff hloaded hstands hreads).1 (hnone id henabled)
  · intro hall id henabled
    rcases h.exists_node_of_isEnabled henabled with ⟨node, definition, hemitted, hstands⟩
    have hreads := (h.reads_of_emitted hemitted).2
    exact (h.check_eq_nil_iff hloaded hstands hreads).2 (hall id node definition hemitted hstands)

/-- After any run of changes to a workspace with a loaded catalog whose last change succeeded, every
block of the script has its node in the script tree, the commands of the tree are untangled, and the
workspace is not blocked exactly when every node of the tree is complete. -/
theorem unblocked_iff_complete {text : String} (hload : Catalog.load engine text = .ok catalog)
    (settings : Settings) (mutations : List Mutation) (last : Mutation)
    {answer : Answer (List BlockId)} {ids : List BlockId}
    (hanswer : last.answer (run catalog settings mutations) = answer)
    (hok : answer.result = .ok ids) :
    (∃ tree, answer.workspace.emit = .ok tree) ∧
      (∀ id, answer.workspace.graph.isEnabled id = true → ∃ node definition,
        Emitted answer.workspace id node ∧
          StandsFor catalog answer.workspace.graph id definition) ∧
      (∀ id node command, Emitted answer.workspace id node →
        StandsFor catalog answer.workspace.graph id (.command command) →
          Untangled command node) ∧
      (answer.workspace.isBlocked = false ↔
        ∀ id node definition, Emitted answer.workspace id node →
          StandsFor catalog answer.workspace.graph id definition →
            Complete engine settings (Supplied catalog answer.workspace.graph id) node
              definition) := by
  have hrun := valid_run catalog settings mutations
  have h : Valid catalog settings answer.workspace := hanswer ▸ hrun.answer last
  have hsettled : answer.workspace.Settled := by
    subst hanswer
    exact settled_answer hrun.tended hok
  rcases h.emit_reads with ⟨tree, htree, -⟩
  refine ⟨⟨tree, htree⟩, fun id henabled => h.exists_node_of_isEnabled henabled, ?_,
    h.isBlocked_eq_false_iff (loaded_of_load hload)⟩
  intro id node command hemitted hstands
  rcases h.reads_of_emitted hemitted with ⟨henabled, hreads⟩
  exact h.untangled_of_inOrder hstands hreads (h.inOrder_of_settled hsettled henabled hstands)

/-- A small catalog: a command that lists files, each of which has to have a name. -/
def listingText : String :=
  "\x7b\"commands\": [\x7b\"shellCommand\": \"ls\", \"operands\": [\x7b\"id\": \"file\", " ++
    "\"validations\": [\x7b\"regex\": \".\", \"errorMessage\": \"Name a file.\"\x7d]\x7d]\x7d]\x7d"

@[inherit_doc listingText]
def listing : Definitions where
  commands := [⟨none, "ls", "", "", "", "", [], none, [],
    [⟨"file", "", "", "", .string, "", .any, [⟨".", "Name a file."⟩]⟩], none, [], none⟩]
  operators := []
  controls := []
  categories := []

@[inherit_doc listingText]
def listingCatalog : Catalog :=
  .compile Pattern.search listing.normalize

/-- Plug the command into the script and an operand into the command, and name the file. -/
def listedFile : Answer (List BlockId) :=
  Mutation.answer (run listingCatalog default [.create (.command "ls"), .attach root stackSlot 1,
    .create (.operand "ls" "file"), .attach 1 operandsSlot 2]) (.setField 2 valueField "notes")

/-- The command with its file gets through the gate, so it is complete. -/
theorem listedFile_complete :
    Catalog.load Pattern.search listingText = .ok listingCatalog ∧ listedFile.result = .ok [] ∧
      listedFile.workspace.isBlocked = false ∧
      ∀ id node definition, Emitted listedFile.workspace id node →
        StandsFor listingCatalog listedFile.workspace.graph id definition →
          Complete Pattern.search default (Supplied listingCatalog listedFile.workspace.graph id)
            node definition := by
  have hload : Catalog.load Pattern.search listingText = .ok listingCatalog := by
    have hparse : Catalog.parse listingText = .ok listing := by decide +kernel
    have hdefects : defects Pattern.search listing.normalize = [] := by decide +kernel
    rw [Catalog.load, hparse]
    simp only [bind, Except.bind, build, hdefects]
    rfl
  have hok : listedFile.result = .ok [] := by decide +kernel
  have hopen : listedFile.workspace.isBlocked = false := by decide +kernel
  have hgate := (unblocked_iff_complete hload default _ _ rfl hok).2.2.2
  exact ⟨hload, hok, hopen, hgate.1 hopen⟩

end Workspace

end ShellComposer
