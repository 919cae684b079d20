import ShellComposer.Proofs.Gate
import ShellComposer.Proofs.Resuming
import ShellComposer.Proofs.SameScript

/-!
# Blocks outside of the script are of no consequence

Blocks that are not part of the script can be made, changed, linked to each other and deleted, and
nothing is to be seen of it.  Every change is followed by a reaction, which goes over all blocks; but
what it enables, repairs and checks, and what is emitted, is read off the enabled blocks alone, and
links do not lead out of these.  And where no bound cuts reactions short, nothing is left to repair
that a reaction to such a change could find.

Main results:

- Theorems `SameScript.inOrder`, `Unseen.check_eq`, `SameScript.reads`: what is repaired, checked and
  emitted at an enabled block is read off the enabled blocks.
- Structure `Unseen`: workspaces that differ outside of the script only.
- Theorem `Unseen.undisturbed`: they show the same.
- Theorem `unseen_answer`: a change that names disabled blocks only makes such a difference.
- Theorem `orphans_undisturbed`: after any run of such changes the workspace shows what it did.
-/

namespace ShellComposer

open BlockGraph Catalog Relation

/-! ## Enabled blocks and what their slots hold -/

namespace BlockGraph

variable {g g' : BlockGraph} {id owner command : BlockId} {slot : String}

/-- What an enabled block holds is enabled. -/
theorem Marked.isEnabled_of_mem_slotChain (h : g.Marked) (howner : g.isEnabled owner = true)
    (hmem : id ∈ g.slotChain owner slot) : g.isEnabled id = true := by
  rw [h.enabled_iff] at howner ⊢
  exact howner.trans (h.leads_of_mem_slotChain hmem).to_reflTransGen

/-- What an enabled block holds is enabled. -/
theorem Marked.isEnabled_of_holds {chain : List BlockId} (h : g.Marked)
    (howner : g.isEnabled owner = true) (hholds : g.Holds owner slot chain) :
    ∀ id ∈ chain, g.isEnabled id = true := by
  obtain rfl := hholds.unique (h.holds_slotChain owner slot)
  exact fun id hmem => h.isEnabled_of_mem_slotChain howner hmem

namespace SameScript

/-- An enabled block has the same kind in both graphs. -/
theorem hasKind_eq (h : SameScript g g') (hid : g.isEnabled id = true) (p : BlockKind → Bool) :
    g'.hasKind p id = g.hasKind p id := by
  rw [hasKind, hasKind, h.get?_eq id hid]

/-- An enabled block has the same fields in both graphs. -/
theorem fieldText_eq (h : SameScript g g') (hid : g.isEnabled id = true) (name : String) :
    g'.fieldText id name = g.fieldText id name := by
  rw [fieldText, fieldText, h.get?_eq id hid]

variable (h : SameScript g g') (hmarked : g.Marked) (hsound : g'.Sound)

include h hmarked hsound

/-- An enabled block holds the same blocks of a kind. -/
theorem filter_hasKind_eq (howner : g.isEnabled owner = true) (slot : String)
    (p : BlockKind → Bool) : (g'.slotChain owner slot).filter (g'.hasKind p) =
      (g.slotChain owner slot).filter (g.hasKind p) := by
  rw [h.slotChain_eq hmarked hsound howner]
  refine List.filter_congr fun id hmem => ?_
  exact h.hasKind_eq (hmarked.isEnabled_of_mem_slotChain howner hmem) p

/-! ## Repairs -/

/-- An enabled command has the same options with the same flags. -/
theorem flaggedOptions_eq (hcommand : g.isEnabled command = true) :
    flaggedOptions g' command = flaggedOptions g command := by
  rw [flaggedOptions, flaggedOptions, h.filter_hasKind_eq hmarked hsound hcommand]
  refine List.map_congr_left fun id hmem => ?_
  have hid := hmarked.isEnabled_of_mem_slotChain hcommand (List.mem_of_mem_filter hmem)
  rw [h.fieldText_eq hid]

/-- An enabled command that is in order stays so. -/
theorem inOrder {definition : CommandDef} (hcommand : g.isEnabled command = true)
    (horder : InOrder g command definition) : InOrder g' command definition where
  distinct := by
    rw [h.flaggedOptions_eq hmarked hsound hcommand]
    exact horder.distinct
  exclusive := by
    rw [h.flaggedOptions_eq hmarked hsound hcommand]
    exact horder.exclusive
  bounded := by
    intro operand hmem most hmost
    rw [h.filter_hasKind_eq hmarked hsound hcommand]
    exact horder.bounded operand hmem most hmost

/-- Where a pass has nothing to take off, it has nothing to take off with the same script either. -/
theorem repairAll_eq {catalog : Catalog} (hidle : Idle (repairAll catalog) g) :
    repairAll catalog g' = .ok (.start g') := by
  refine repairAll_eq_start fun id block name definition hblock hkind henabled hknown => ?_
  have hid : g.isEnabled id = true := by rw [← h.enabled_eq, isEnabled_eq hblock, henabled]
  have hblock' : g.get? id = some block := (h.get?_eq id hid).symm.trans hblock
  exact h.inOrder hmarked hsound hid
    (inOrder_of_repairAll hmarked.toSound hidle hblock' hkind henabled hknown)

/-! ## Nodes -/

/-- An enabled block is read as the same node. -/
theorem reads {catalog : Catalog} {node : Node} (hreads : Reads catalog g id node)
    (hid : g.isEnabled id = true) : Reads catalog g' id node := by
  refine @Reads.rec catalog g
    (fun id node _ => g.isEnabled id = true → Reads catalog g' id node)
    (fun id block definition node _ =>
      g.isEnabled id = true → ReadsBy catalog g' id block definition node)
    (fun ids nodes _ => (∀ id ∈ ids, g.isEnabled id = true) → ReadsAll catalog g' ids nodes)
    (fun id slots parameters _ =>
      g.isEnabled id = true → ReadsSlots catalog g' id slots parameters)
    ?block ?script ?command ?option ?operand ?control ?operator ?noBlock ?moreBlocks ?noSlot
    ?moreSlots id node hreads hid
  case block =>
    intro id block definition node found known _ ih hid
    exact .by_definition ((h.get?_eq id hid).trans found) known (ih hid)
  case script =>
    intro id block stack commands held _ ih hid
    exact .script (h.holds hmarked hsound held hid) (ih (hmarked.isEnabled_of_holds hid held))
  case command =>
    intro id block command optionChain operandChain options operands heldOptions _ heldOperands _
      ihOptions ihOperands hid
    exact .command (h.holds hmarked hsound heldOptions hid)
      (ihOptions (hmarked.isEnabled_of_holds hid heldOptions))
      (h.holds hmarked hsound heldOperands hid)
      (ihOperands (hmarked.isEnabled_of_holds hid heldOperands))
  case option => exact fun _ => .option
  case operand => exact fun _ => .operand
  case control => exact fun _ ih hid => .control (ih hid)
  case operator => exact fun _ ih hid => .operator (ih hid)
  case noBlock => exact fun _ => .nil
  case moreBlocks =>
    intro id ids node nodes _ _ ihFirst ihRest hids
    exact .cons (ihFirst (hids id List.mem_cons_self))
      (ihRest fun id hmem => hids id (List.mem_cons_of_mem _ hmem))
  case noSlot => exact fun _ => .nil
  case moreSlots =>
    intro id slot slots chain nodes parameters held _ _ ihChain ihRest hid
    exact .cons (h.holds hmarked hsound held hid) (ihChain (hmarked.isEnabled_of_holds hid held))
      (ihRest hid)

end SameScript

end BlockGraph

/-- The blocks that a change names. -/
def Mutation.named : Mutation → List BlockId
  | create _ => []
  | setField id _ _ => [id]
  | attach parent _ child => [parent, child]
  | insertAfter previous child => [previous, child]
  | detach id _ => [id]
  | remove id => [id]
  | react => []

namespace Workspace

variable {catalog : Catalog} {settings : Settings} {w w' w'' : Workspace} {id : BlockId}

/-! ## Differences outside of the script -/

/-- The second workspace differs from the first outside of the script only, and in what reactions
make anew. -/
structure Unseen (w w' : Workspace) : Prop where
  same_script : SameScript w.graph w'.graph
  meaning_eq : ∀ id, w.graph.isEnabled id = true → w'.meanings.get? id = w.meanings.get? id
  catalog_eq : w'.catalog = w.catalog
  settings_eq : w'.settings = w.settings
  notices_eq : w'.notices = w.notices

namespace Unseen

theorem refl (w : Workspace) : Unseen w w :=
  ⟨.refl w.graph, fun _ _ => rfl, rfl, rfl, rfl⟩

/-- What is unseen twice in a row is unseen. -/
theorem trans (h : Unseen w w') (h' : Unseen w' w'') : Unseen w w'' where
  same_script := h.same_script.trans h'.same_script
  meaning_eq := by
    intro id hid
    have hid' : w'.graph.isEnabled id = true := (h.same_script.enabled_eq id).trans hid
    exact (h'.meaning_eq id hid').trans (h.meaning_eq id hid)
  catalog_eq := h'.catalog_eq.trans h.catalog_eq
  settings_eq := h'.settings_eq.trans h.settings_eq
  notices_eq := h'.notices_eq.trans h.notices_eq

/-- Enabled blocks are called the same. -/
theorem subject_eq (h : Unseen w w') (hid : w.graph.isEnabled id = true) :
    subject w'.graph w'.meanings id = subject w.graph w.meanings id := by
  rw [subject, subject, h.same_script.get?_eq id hid, h.meaning_eq id hid]

/-- Whether an operand is missed does not depend on what is unseen. -/
theorem checkOperandKind_eq {operands : List BlockId} (h : Unseen w w')
    (henabled : ∀ other ∈ operands, w.graph.isEnabled other = true) (operand : OperandDef) :
    w'.site.checkOperandKind operands operand = w.site.checkOperandKind operands operand := by
  have hcount : operands.countP (w'.site.graph.hasKind (BlockKind.isOperandNamed operand.id)) =
      operands.countP (w.site.graph.hasKind (BlockKind.isOperandNamed operand.id)) := by
    refine List.countP_congr fun other hmem => ?_
    have hkind : w'.site.graph.hasKind _ other = w.site.graph.hasKind _ other :=
      h.same_script.hasKind_eq (henabled other hmem) (BlockKind.isOperandNamed operand.id)
    rw [hkind]
  simp only [Site.checkOperandKind, hcount]

/-- Whether the sequence of operands is fine does not depend on what is unseen. -/
theorem checkSequence_eq {operands : List BlockId} (h : Unseen w w')
    (henabled : ∀ other ∈ operands, w.graph.isEnabled other = true) (command : CommandDef) :
    w'.site.checkSequence command operands = w.site.checkSequence command operands := by
  have hcatalog : w'.site.catalog = w.site.catalog := h.catalog_eq
  have hsettings : w'.site.settings = w.site.settings := h.settings_eq
  have htext : w'.site.sequenceText command operands = w.site.sequenceText command operands := by
    have hmeanings : operands.filterMap w'.site.meanings.get? =
        operands.filterMap w.site.meanings.get? :=
      List.filterMap_congr fun other hmem => h.meaning_eq other (henabled other hmem)
    simp only [Site.sequenceText, Site.delimiter, hmeanings, hsettings]
  simp only [Site.checkSequence, hcatalog, htext]

variable (h : Unseen w w') (hmarked : w.graph.Marked) (hsound : w'.graph.Sound)

include h hmarked hsound

/-- An enabled block has the same options attached. -/
theorem attachedOptions_eq (hid : w.graph.isEnabled id = true) :
    w'.site.attachedOptions id = w.site.attachedOptions id :=
  h.same_script.filter_hasKind_eq hmarked hsound hid optionsSlot BlockKind.isOption

/-- An enabled block has the same operands attached. -/
theorem attachedOperands_eq (hid : w.graph.isEnabled id = true) :
    w'.site.attachedOperands id = w.site.attachedOperands id :=
  h.same_script.filter_hasKind_eq hmarked hsound hid operandsSlot BlockKind.isOperand

/-- The slot around an enabled block is that of an enabled block. -/
theorem suppliedFromOutside_eq (hid : w.graph.isEnabled id = true) :
    w'.site.suppliedFromOutside id = w.site.suppliedFromOutside id := by
  have hplace : w'.site.graph.surroundParent id = w.site.graph.surroundParent id :=
    h.same_script.surroundParent_eq hmarked hsound hid
  rw [Site.suppliedFromOutside, Site.suppliedFromOutside, hplace]
  cases hread : w.site.graph.surroundParent id with
  | none => rfl
  | some place =>
    rcases place with ⟨owner, slot⟩
    have hmem := (hmarked.surroundParent_eq_some_iff (contains_of_isEnabled hid)).1 hread
    have howner : w.graph.isEnabled owner = true := by
      rw [(SameScript.refl w.graph).enabled_of_leads hmarked
        (hmarked.leads_of_mem_slotChain hmem).to_reflTransGen, hid]
    have hmeaning : w'.site.meanings.get? owner = w.site.meanings.get? owner :=
      h.meaning_eq owner howner
    simp only [hmeaning]

/-- An enabled command is checked as before. -/
theorem checkCommand_eq (hid : w.graph.isEnabled id = true) (command : CommandDef) :
    w'.site.checkCommand id command = w.site.checkCommand id command := by
  have henabled : ∀ other ∈ w.site.attachedOperands id, w.graph.isEnabled other = true :=
    fun other hmem => hmarked.isEnabled_of_mem_slotChain hid (List.mem_of_mem_filter hmem)
  have hkinds : w'.site.checkOperandKind (w.site.attachedOperands id) =
      w.site.checkOperandKind (w.site.attachedOperands id) :=
    funext fun operand => h.checkOperandKind_eq henabled operand
  simp only [Site.checkCommand, h.attachedOptions_eq hmarked hsound hid,
    h.attachedOperands_eq hmarked hsound hid, h.suppliedFromOutside_eq hmarked hsound hid, hkinds,
    h.checkSequence_eq henabled]

/-- An enabled control is checked as before. -/
theorem checkControl_eq (hid : w.graph.isEnabled id = true) (control : ControlDef) :
    w'.site.checkControl id control = w.site.checkControl id control := by
  have hhead : w'.site.graph.slotHead id = w.site.graph.slotHead id :=
    funext fun slot => h.same_script.target?_eq hmarked hsound hid (.slot slot)
  simp only [Site.checkControl, hhead]

/-- An enabled operator is checked as before. -/
theorem checkOperator_eq (hid : w.graph.isEnabled id = true) (operator : OperatorDef) :
    w'.site.checkOperator id operator = w.site.checkOperator id operator := by
  have hslots : w'.site.checkOperatorSlot id = w.site.checkOperatorSlot id := by
    funext slot
    have hhead : w'.site.graph.slotHead id slot.name = w.site.graph.slotHead id slot.name :=
      h.same_script.target?_eq hmarked hsound hid (.slot slot.name)
    rw [Site.checkOperatorSlot, Site.checkOperatorSlot, hhead]
    cases hread : w.site.graph.slotHead id slot.name with
    | none => rfl
    | some head =>
      have henabled : w.graph.isEnabled head = true :=
        (hmarked.ends_eq (mem_links_of_target? hread)).symm.trans hid
      have hnext : w'.site.graph.next head = w.site.graph.next head :=
        h.same_script.target?_eq hmarked hsound henabled .next
      simp only [hnext]
  simp only [Site.checkOperator, hslots]

/-- Enabled blocks are checked as before. -/
theorem check_eq (hid : w.graph.isEnabled id = true) : w'.site.check id = w.site.check id := by
  have hblock : w'.site.graph.get? id = w.site.graph.get? id := h.same_script.get?_eq id hid
  have hcatalog : w'.site.catalog = w.site.catalog := h.catalog_eq
  simp only [Site.check, hblock, hcatalog, h.checkCommand_eq hmarked hsound hid,
    h.checkControl_eq hmarked hsound hid, h.checkOperator_eq hmarked hsound hid,
    Site.checkOperand, Site.checkOption]

end Unseen

/-! ## What a workspace shows -/

/-- The second workspace shows what the first does. -/
structure Undisturbed (w w' : Workspace) : Prop where
  /-- The same blocks are enabled, with the same fields and the same links. -/
  same_script : SameScript w.graph w'.graph
  emit_eq : w'.emit = w.emit
  violations_eq : ∀ id, w'.violations id = w.violations id
  diagnostics_eq : w'.diagnostics = w.diagnostics
  isBlocked_eq : w'.isBlocked = w.isBlocked
  notices_eq : w'.notices = w.notices

/-- In a valid workspace the enabled blocks are the script's. -/
theorem Valid.marked (h : Valid catalog settings w) : w.graph.Marked :=
  ⟨h.tended.sound, fun _ => h.isEnabled_iff⟩

/-- A difference outside of the script does not show. -/
theorem Unseen.undisturbed (h : Unseen w w') (hvalid : Valid catalog settings w)
    (hvalid' : Valid catalog settings w') : Undisturbed w w' := by
  have hmarked := hvalid.marked
  have hsound : w'.graph.Sound := hvalid'.tended.sound
  have henabled : w'.graph.isEnabled = w.graph.isEnabled := funext h.same_script.enabled_eq
  have hverdict : ∀ id, w'.site.verdict id = w.site.verdict id := by
    intro id
    have hread : w'.site.graph.isEnabled id = w.site.graph.isEnabled id :=
      h.same_script.enabled_eq id
    rw [Site.verdict, Site.verdict, hread]
    split
    · rename_i hid
      rw [h.check_eq hmarked hsound hid]
    · rfl
  have hviolations : ∀ id, w'.violations id = w.violations id := by
    intro id
    rw [hvalid'.consistent.violations_eq, hvalid.consistent.violations_eq, hverdict]
  have hlisted : w'.ledger.listed = w.ledger.listed := Ledger.listed_eq_of_get hviolations
  refine ⟨h.same_script, ?_, hviolations, ?_, ?_, h.notices_eq⟩
  · rcases hvalid.emit_reads with ⟨node, hemit, hreads⟩
    rcases hvalid'.emit_reads with ⟨node', hemit', hreads'⟩
    have hroot : w.graph.isEnabled root = true := hvalid.isEnabled_iff.2 .refl
    rw [hemit, hemit', (h.same_script.reads hmarked hsound hreads hroot).unique hreads']
  · rw [diagnostics, diagnostics, ShellComposer.diagnostics, ShellComposer.diagnostics, hlisted,
      henabled]
    refine List.map_congr_left fun entry hmem => ?_
    rw [h.subject_eq (List.mem_filter.1 hmem).2]
  · rw [isBlocked, isBlocked, hlisted, henabled]

/-! ## Changes outside of the script -/

/-- The workspace after a run of changes, each of which may succeed or fail. -/
def changedBy (w : Workspace) (mutations : List Mutation) : Workspace :=
  mutations.foldl (fun w mutation => (mutation.answer w).workspace) w

/-- Whether every change of a run names only blocks that are not enabled when it is made. -/
def staysAside (w : Workspace) : List Mutation → Bool
  | [] => true
  | mutation :: rest =>
    (mutation.named.all fun id => !w.graph.isEnabled id) &&
      (mutation.answer w).workspace.staysAside rest

/-- An edit of the graph outside of the script is refused, or a reaction follows. -/
theorem unseen_edit_cases {change : Except Fault BlockGraph} (call : GraphCall)
    (hcall : call.run w.graph = change) (hkept : ∀ g, change = .ok g → Retains w.graph g)
    (hsame : ∀ g, change = .ok g → SameScript w.graph g) :
    (∃ fault, (w.edit change).map (fun _ => ([] : List BlockId)) = ⟨.error fault, w⟩) ∨
      ∃ w' ids, Change w w' ∧ Unseen w w' ∧
        (w.edit change).map (fun _ => ([] : List BlockId)) = w'.react.map fun _ => ids := by
  cases hchange : change with
  | error fault => exact .inl ⟨fault, rfl⟩
  | ok g =>
    exact .inr ⟨{ w with graph := g }, [], .edited (hcall.trans hchange) (hkept g hchange),
      ⟨hsame g hchange, fun _ _ => rfl, rfl, rfl, rfl⟩, rfl⟩

/-- A block that is placed makes a difference outside of the script. -/
theorem Unseen.place (hmarked : w.graph.Marked) (kind : BlockKind) (template : Template) :
    Unseen w (w.place kind template).2 where
  same_script := hmarked.insert kind template.slots template.fields
  meaning_eq := by
    intro id hid
    have hold : id ≠ w.graph.nextId := by
      rintro rfl
      exact Bool.false_ne_true ((isEnabled_of_absent hmarked.not_contains_nextId).symm.trans hid)
    have hmeanings : (w.place kind template).2.meanings =
        Meanings.attach w.meanings w.graph.nextId template.meaning := rfl
    rw [hmeanings, Meanings.attach]
    split
    · rfl
    · exact IdMap.get?_insert_ne _ hold _
  catalog_eq := rfl
  settings_eq := rfl
  notices_eq := rfl

/-- So does the deletion of blocks that are not enabled. -/
theorem Unseen.forget {doomed : List BlockId} {g : BlockGraph} (hsame : SameScript w.graph g)
    (hdoomed : ∀ id ∈ doomed, w.graph.isEnabled id = false) : Unseen w (w.forget g doomed) where
  same_script := hsame
  meaning_eq := by
    intro id hid
    refine (w.meanings.get?_foldl_erase doomed id).trans (if_neg fun hgone => ?_)
    exact Bool.false_ne_true ((hdoomed id hgone).symm.trans hid)
  catalog_eq := rfl
  settings_eq := rfl
  notices_eq := rfl

/-- A change that names only blocks that are not enabled is refused, or it makes a difference outside
of the script, and a reaction follows. -/
theorem unseen_cases (hmarked : w.graph.Marked) (mutation : Mutation)
    (hnamed : ∀ id ∈ mutation.named, w.graph.isEnabled id = false) :
    (∃ fault, mutation.answer w = ⟨.error fault, w⟩) ∨
      ∃ w' ids, Change w w' ∧ Unseen w w' ∧ mutation.answer w = w'.react.map fun _ => ids := by
  cases mutation with
  | create kind =>
    rcases w.create_cases kind with ⟨fault, -, hrun⟩ | ⟨definition, hknown, hscript, hrun⟩
    · exact .inl ⟨fault, hrun⟩
    · exact .inr ⟨_, [w.graph.nextId], .placed hknown hscript, .place hmarked kind _, hrun⟩
  | setField id name value =>
    simp only [Mutation.named, List.mem_singleton, forall_eq] at hnamed
    exact unseen_edit_cases (.setField id name value) rfl (fun _ hset => retains_setField hset)
      fun _ hset => SameScript.setField hnamed hset
  | attach parent slot child =>
    simp only [Mutation.named, List.mem_cons, List.not_mem_nil, or_false, forall_eq_or_imp,
      forall_eq] at hnamed
    exact unseen_edit_cases (.attach parent slot child) rfl
      (fun _ hattach => retains_of_blocks (blocks_attach hattach))
      fun _ hattach => hmarked.attach hnamed.1 hnamed.2 hattach
  | insertAfter previous child =>
    simp only [Mutation.named, List.mem_cons, List.not_mem_nil, or_false, forall_eq_or_imp,
      forall_eq] at hnamed
    exact unseen_edit_cases (.insertAfter previous child) rfl
      (fun _ hinsert => retains_of_blocks (blocks_insertAfter hinsert))
      fun _ hinsert => hmarked.insertAfter hnamed.1 hnamed.2 hinsert
  | detach id heal =>
    simp only [Mutation.named, List.mem_singleton, forall_eq] at hnamed
    exact unseen_edit_cases (.detach id heal) rfl
      (fun _ hdetach => retains_of_blocks (blocks_detach hdetach))
      fun _ hdetach => hmarked.detach hnamed hdetach
  | remove id =>
    simp only [Mutation.named, List.mem_singleton, forall_eq] at hnamed
    rw [Mutation.answer, remove]
    cases hremove : w.graph.remove id with
    | error fault => exact .inl ⟨fault, rfl⟩
    | ok removed =>
      rcases removed with ⟨doomed, g⟩
      rcases hmarked.remove hnamed hremove with ⟨hsame, hdoomed⟩
      exact .inr ⟨w.forget g doomed, doomed, .removed hremove, .forget hsame hdoomed, rfl⟩
  | react => exact .inr ⟨w, [], .none, .refl w, rfl⟩

/-! ## Reactions to such changes -/

/-- Where no bound cuts reactions short, there is never anything to repair. -/
theorem Reached.settled (h : Reached catalog settings w)
    (hunset : settings.maxReactionCycles = none) : w.Settled := by
  induction h with
  | new => exact ⟨_, rfl, rfl⟩
  | @changed w mutation hearlier ih =>
    have hvalid := hearlier.valid
    rcases w.answer_cases mutation with ⟨fault, hrun⟩ | ⟨w', ids, hchange, hrun⟩
    · rw [hrun]
      exact ih
    · have hfree : w'.settings.maxReactionCycles = none := by
        rw [hchange.setting.2, hvalid.settings_eq, hunset]
      obtain ⟨_, _, -, -, hreact⟩ := react_settles (hchange.tended hvalid.tended).sound hfree
      have hok : (mutation.answer w).result = .ok ids := by
        rw [hrun, hreact]
        rfl
      exact settled_answer hvalid.tended hok
  | drained _ ih => exact ih

/-- The reaction to a difference outside of the script finds nothing to enable and nothing to
repair. -/
theorem Unseen.react_eq (h : Unseen w w') (hmarked : w.graph.Marked) (hsettled : w.Settled)
    (hsound : w'.graph.Sound) : w'.react = ⟨.ok (), w'.revalidate⟩ := by
  have hrefresh : w'.refresh = w' := by
    have hgraph := (h.same_script.marked hmarked hsound).refresh_eq
    exact congrArg (fun g => { w' with graph := g }) hgraph
  have hidle : repairAll w'.catalog w'.graph = .ok (.start w'.graph) := by
    rw [h.catalog_eq]
    exact h.same_script.repairAll_eq hmarked hsound hsettled
  have hsettled' : w'.refresh.Settled := by
    rw [hrefresh]
    exact ⟨_, hidle, rfl⟩
  rw [react, reactWithin_of_settled hsound hsettled', hrefresh]

/-- A change that names only blocks that are not enabled makes a difference outside of the script
only, whether it succeeds or fails. -/
theorem unseen_answer (hvalid : Valid catalog settings w) (hsettled : w.Settled)
    (mutation : Mutation) (hnamed : ∀ id ∈ mutation.named, w.graph.isEnabled id = false) :
    Unseen w (mutation.answer w).workspace := by
  rcases unseen_cases hvalid.marked mutation hnamed with
    ⟨fault, hrun⟩ | ⟨w', ids, hchange, hunseen, hrun⟩
  · rw [hrun]
    exact .refl w
  · have hreact := hunseen.react_eq hvalid.marked hsettled (hchange.tended hvalid.tended).sound
    rw [hrun, hreact]
    exact ⟨hunseen.same_script, hunseen.meaning_eq, hunseen.catalog_eq, hunseen.settings_eq,
      hunseen.notices_eq⟩

/-- So does a run of such changes. -/
theorem unseen_changedBy (hreached : Reached catalog settings w)
    (hunset : settings.maxReactionCycles = none) {mutations : List Mutation}
    (haside : w.staysAside mutations = true) :
    Unseen w (w.changedBy mutations) ∧ Reached catalog settings (w.changedBy mutations) := by
  induction mutations generalizing w with
  | nil => exact ⟨.refl w, hreached⟩
  | cons mutation rest ih =>
    rw [staysAside, Bool.and_eq_true] at haside
    have hnamed : ∀ id ∈ mutation.named, w.graph.isEnabled id = false := by
      simpa using haside.1
    have hfirst := unseen_answer hreached.valid (hreached.settled hunset) mutation hnamed
    rcases ih (hreached.changed mutation) haside.2 with ⟨hrest, hlast⟩
    exact ⟨hfirst.trans hrest, hlast⟩

/-- Where no bound cuts reactions short, changes that make blocks or name only blocks that are not
enabled leave everything that the workspace shows: the enabled blocks with their fields and links,
the script tree, the violations, the reports on them, and the notices. -/
theorem orphans_undisturbed (hreached : Reached catalog settings w)
    (hunset : settings.maxReactionCycles = none) {mutations : List Mutation}
    (haside : w.staysAside mutations = true) : Undisturbed w (w.changedBy mutations) := by
  rcases unseen_changedBy hreached hunset haside with ⟨hunseen, hlast⟩
  exact hunseen.undisturbed hreached.valid hlast.valid

/-- A command in the script, with an operand that names no file. -/
def unnamedFile : Workspace :=
  run listingCatalog .standard [.create (.command "ls"), .attach root stackSlot 1,
    .create (.operand "ls" "file"), .attach 1 operandsSlot 2]

/-- Give another command two operands, name a file, take an operand off, and delete the command. -/
def asideSteps : List Mutation :=
  [.create (.command "ls"), .create (.operand "ls" "file"), .create (.operand "ls" "file"),
    .insertAfter 4 5, .attach 3 operandsSlot 4, .setField 4 valueField "notes", .detach 4 true,
    .remove 3]

/-- One operand is left over, and the missing name is reported as before. -/
theorem unnamedFile_undisturbed :
    unnamedFile.graph.ids = [0, 1, 2] ∧
      (unnamedFile.changedBy asideSteps).graph.ids = [0, 1, 2, 4] ∧
      unnamedFile.diagnostics.map Diagnostic.messages = [["Name a file."]] ∧
      unnamedFile.staysAside asideSteps = true ∧
      Undisturbed unnamedFile (unnamedFile.changedBy asideSteps) := by
  have haside : unnamedFile.staysAside asideSteps = true := by decide +kernel
  have hreached := reached_run listingCatalog .standard [.create (.command "ls"),
    .attach root stackSlot 1, .create (.operand "ls" "file"), .attach 1 operandsSlot 2]
  exact ⟨by decide +kernel, by decide +kernel, by decide +kernel, haside,
    orphans_undisturbed hreached rfl haside⟩

end Workspace

end ShellComposer
