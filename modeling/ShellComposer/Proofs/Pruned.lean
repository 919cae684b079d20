import ShellComposer.Proofs.Pruning
import ShellComposer.Proofs.Templated

/-!
# What a reaction that succeeds leaves

A reaction that succeeds has gone through passes, each of which took off surplus blocks, until none
was left.  So in the end every command of the script has the options and operands that it might keep
when the reaction started, in the same order, the other ones hang nowhere, and nothing else in the
graph has changed.

Main results:

- Theorem `Pass.prunes`: a pass takes off surplus blocks.
- Structure `Pruned`: a graph from which all surplus blocks have been taken off.
- Theorem `Pruning.pruned`: where every command is in order, no surplus block is left.
- Theorem `reaction_prunes`: what a reaction that succeeds leaves.
-/

namespace ShellComposer

open BlockGraph Catalog Relation

variable {catalog : Catalog} {g g' : BlockGraph} {command id : BlockId}
variable {definition : CommandDef} {dropped : List BlockId}

/-! ## Graphs without surplus blocks -/

/-- The dropped blocks have been taken out of the rows of the commands of the script, so that every
command has the blocks that it may keep, and nothing else has changed. -/
structure Pruned (catalog : Catalog) (dropped : List BlockId) (g g' : BlockGraph) : Prop where
  /-- A command block that the script leads to stands for a command of the catalog. -/
  commands : ∀ id block name, g.get? id = some block → block.kind = .command name →
    ReflTransGen g.Leads root id → ∃ definition, catalog.command? name = some definition ∧
      ScriptCommand catalog g id definition
  /-- Its options are those that were there, group by group without the options that another one
  excludes, and then one of each flag. -/
  options : ∀ command definition, ScriptCommand catalog g command definition →
    g'.slotChain command optionsSlot =
      keptOptions definition.exclusiveOptions g.flagOf (g.slotChain command optionsSlot)
  /-- Its operands are the first of those that were there with each id, as many as allowed. -/
  operands : ∀ command definition, ScriptCommand catalog g command definition →
    g'.slotChain command operandsSlot =
      keptOperands definition.operands g.operandName (g.slotChain command operandsSlot)
  /-- The dropped blocks are those that were among the options or operands and are not any more. -/
  dropped_iff : ∀ id, id ∈ dropped ↔ ∃ command definition row,
    ScriptCommand catalog g command definition ∧ id ∈ g.slotChain command (Row.slot row) ∧
      id ∉ g'.slotChain command (Row.slot row)
  /-- They are still there, disabled, and they hang nowhere and lead nowhere. -/
  loose : ∀ id ∈ dropped, g'.contains id = true ∧ g'.isEnabled id = false ∧
    g'.parent id = none ∧ ∀ outlet, g'.target? id outlet = none
  /-- From other blocks, links lead to the first block along the chain that was not dropped. -/
  target?_eq : ∀ id outlet, id ∉ dropped →
    g'.target? id outlet = (g.chain (g.target? id outlet)).find? (· ∉ dropped)
  /-- Links between other blocks stay. -/
  links_kept : ∀ link ∈ g.links, link.source ∉ dropped → link.target ∉ dropped → link ∈ g'.links
  /-- New links come only in the place of links to dropped blocks. -/
  links_new : ∀ link ∈ g'.links, link ∈ g.links ∨
    ∃ id ∈ dropped, ⟨link.source, link.outlet, id⟩ ∈ g.links
  /-- Blocks keep their kinds, fields and slots, and none is added or deleted. -/
  content_eq : ∀ id, g'.content? id = g.content? id
  /-- The enabled blocks are those that the script led to, without the dropped ones. -/
  enabled_iff : ∀ id block, g'.get? id = some block →
    (block.enabled = true ↔ ReflTransGen g.Leads root id ∧ id ∉ dropped)
  /-- The id for the next block is the same. -/
  nextId_eq : g'.nextId = g.nextId

namespace Pruning

/-- Where every command of the script is in order, it has all the blocks that it may keep. -/
theorem chain_eq_kept (h : Pruning catalog dropped g g') (hcataloged : Cataloged catalog g)
    (horder : ∀ command definition, ScriptCommand catalog g' command definition →
      InOrder g' command definition)
    (hcommand : ScriptCommand catalog g command definition) (row : Row) :
    g'.slotChain command row.slot = row.kept definition g (g.slotChain command row.slot) := by
  have hafter := (h.scriptCommand_iff hcataloged).2 hcommand
  have hinOrder := horder command definition hafter
  rw [← h.kept_eq command definition row hcommand]
  exact (hinOrder.kept_eq (h.cataloged hcataloged) hafter row).symm

/-- The blocks taken off are still there. -/
theorem contains_of_mem (h : Pruning catalog dropped g g') (hcataloged : Cataloged catalog g)
    (hdropped : id ∈ dropped) : g'.contains id = true := by
  rcases h.surplus id hdropped with ⟨command, definition, row, hsurplus⟩
  have hbelow := hcataloged.leads_of_mem_slotChain hsurplus.held
  rw [contains_congr (shape?_of_content? (h.taken.content_eq id))]
  exact (hcataloged.present_of_leads hbelow).1

/-- The blocks taken off are those in excess of what their commands keep. -/
theorem mem_dropped_iff (h : Pruning catalog dropped g g') (hcataloged : Cataloged catalog g)
    (horder : ∀ command definition, ScriptCommand catalog g' command definition →
      InOrder g' command definition) (id : BlockId) :
    id ∈ dropped ↔ ∃ command definition row, ScriptCommand catalog g command definition ∧
      id ∈ g.slotChain command (Row.slot row) ∧ id ∉ g'.slotChain command (Row.slot row) := by
  constructor
  · intro hdropped
    rcases h.surplus id hdropped with ⟨command, definition, row, hcommand, hheld, hexcess⟩
    rw [← h.chain_eq_kept hcataloged horder hcommand row] at hexcess
    exact ⟨command, definition, row, hcommand, hheld, hexcess⟩
  · rintro ⟨command, definition, row, hcommand, hheld, hexcess⟩
    rw [h.slotChain_eq hcataloged hcommand, List.mem_filter, not_and] at hexcess
    simpa using hexcess hheld

/-- A link between blocks that are not taken off is kept. -/
theorem link_kept (h : Pruning catalog dropped g g') (hcataloged : Cataloged catalog g)
    {link : Link} (hlink : link ∈ g.links) (hsource : link.source ∉ dropped)
    (htarget : link.target ∉ dropped) : link ∈ g'.links := by
  refine h.sound.target?_eq_some_iff.1 ?_
  rw [h.taken.target?_eq h.sound hsource]
  have hhead := hcataloged.head?_onward link.source link.outlet
  rw [hcataloged.target?_eq_some_iff.2 hlink] at hhead
  rcases List.head?_eq_some_iff.1 hhead with ⟨rest, hcons⟩
  rw [hcons]
  exact List.find?_cons_of_pos (by simpa using htarget)

/-- A link is an old one, or stands where a link led to a block that is taken off. -/
theorem link_replaced (h : Pruning catalog dropped g g') (hcataloged : Cataloged catalog g)
    {link : Link} (hlink : link ∈ g'.links) : link ∈ g.links ∨ ∃ first ∈ dropped,
      (⟨link.source, link.outlet, first⟩ : Link) ∈ g.links := by
  have hread := h.sound.target?_eq_some_iff.2 hlink
  have hsource : link.source ∉ dropped := by
    intro hgone
    rw [(h.taken.loose _ hgone).2] at hread
    exact absurd hread (by simp)
  rw [h.taken.target?_eq h.sound hsource] at hread
  have hhead := hcataloged.head?_onward link.source link.outlet
  cases hfirst : g.target? link.source link.outlet with
  | none =>
    rw [hfirst, List.head?_eq_none_iff] at hhead
    rw [hhead] at hread
    exact absurd hread (by simp)
  | some first =>
    rw [hfirst] at hhead
    rcases List.head?_eq_some_iff.1 hhead with ⟨rest, hcons⟩
    have hlink' := mem_links_of_target? hfirst
    by_cases hgone : first ∈ dropped
    · exact .inr ⟨first, hgone, hlink'⟩
    · rw [hcons, List.find?_cons_of_pos (by simpa using hgone), Option.some.injEq] at hread
      rw [hread] at hlink'
      exact .inl hlink'

/-- A block taken off is outside the script. -/
theorem isEnabled_eq_false_of_mem (h : Pruning catalog dropped g g')
    (hcataloged : Cataloged catalog g) (henabled : ∀ id block, g'.get? id = some block →
      (block.enabled = true ↔ ReflTransGen g'.Leads root id)) (hdropped : id ∈ dropped) :
    g'.isEnabled id = false := by
  rw [← Bool.not_eq_true]
  intro hon
  rcases exists_block_of_isEnabled hon with ⟨block, hblock⟩
  rw [isEnabled_eq hblock, henabled id block hblock, h.linked_iff hcataloged] at hon
  exact hon.2 hdropped

/-- Where every command of the script is in order, no surplus block is left. -/
theorem pruned (h : Pruning catalog dropped g g') (hcataloged : Cataloged catalog g)
    (horder : ∀ command definition, ScriptCommand catalog g' command definition →
      InOrder g' command definition)
    (henabled : ∀ id block, g'.get? id = some block →
      (block.enabled = true ↔ ReflTransGen g'.Leads root id)) :
    Pruned catalog dropped g g' where
  commands := by
    intro id block name hblock hkind hlinked
    have hshape : g.shape? id = some (block.kind, block.slots) := by
      unfold shape?
      rw [hblock, Option.map_some]
    rcases hcataloged.slots_eq _ _ _ hshape with ⟨found, hknown, -⟩
    have hfound := hknown
    rw [hkind] at hfound
    rcases Option.map_eq_some_iff.1 hfound with ⟨definition, hlisted, rfl⟩
    exact ⟨definition, hlisted, hlinked, block, hblock, hknown⟩
  options := fun _ _ hcommand => h.chain_eq_kept hcataloged horder hcommand .options
  operands := fun _ _ hcommand => h.chain_eq_kept hcataloged horder hcommand .operands
  dropped_iff := h.mem_dropped_iff hcataloged horder
  loose := fun _ hdropped => ⟨h.contains_of_mem hcataloged hdropped,
    h.isEnabled_eq_false_of_mem hcataloged henabled hdropped, h.taken.loose _ hdropped⟩
  target?_eq := fun _ outlet hkept => h.taken.target?_eq h.sound hkept outlet
  links_kept := fun _ hlink hsource htarget => h.link_kept hcataloged hlink hsource htarget
  links_new := fun _ hlink => h.link_replaced hcataloged hlink
  content_eq := h.taken.content_eq
  enabled_iff := by
    intro id block hblock
    rw [henabled id block hblock, h.linked_iff hcataloged]
  nextId_eq := h.taken.nextId_eq

end Pruning

/-! ## Reactions -/

namespace Workspace

variable {w w' last start : Workspace}

/-- In a workspace whose blocks follow their templates, what a command holds is known from the
catalog. -/
theorem Templated.cataloged (h : w.Templated) (hsound : w.graph.Sound) :
    Cataloged w.catalog w.graph where
  toSound := hsound
  slots_eq := by
    intro id kind slots hshape
    rcases h.template_eq id kind slots hshape with ⟨definition, hknown, hslots, -⟩
    exact ⟨definition, hknown, hslots⟩

/-- A pass takes off surplus blocks. -/
theorem Pass.prunes (h : Pass w w') (hcataloged : Cataloged w.catalog w.graph) :
    Prunes w.catalog w.graph w'.graph := by
  rcases h with ⟨done, hrun, -, rfl⟩
  have hrefresh := Prunes.refresh hcataloged
  have hrepair := repairAll_prunes (hrefresh.cataloged hcataloged)
    (fun id block hblock henabled => (hcataloged.enabled_refresh_iff hblock).1 henabled) hrun
  exact hrefresh.trans hrepair hcataloged

/-- So do several passes one after the other. -/
theorem prunes_of_passes (h : ReflTransGen Pass w last)
    (hcataloged : Cataloged w.catalog w.graph) :
    last.catalog = w.catalog ∧ Prunes w.catalog w.graph last.graph := by
  induction h with
  | refl => exact ⟨rfl, .refl hcataloged⟩
  | tail _ hpass ih =>
    rcases ih with ⟨hcatalog, hprunes⟩
    have hbefore := hprunes.cataloged hcataloged
    have hsame := hpass.sameFrame hbefore.toSound
    rw [← hcatalog] at hbefore
    have hmore := hpass.prunes hbefore
    rw [hcatalog] at hmore
    exact ⟨hsame.catalog_eq.trans hcatalog, hprunes.trans hmore hcataloged⟩

/-- Where nothing is left to repair, every command of the script is in order. -/
theorem Settled.inOrder (h : w.refresh.Settled) (hcataloged : Cataloged w.catalog w.graph)
    (hcommand : ScriptCommand w.catalog w.refresh.graph command definition) :
    InOrder w.refresh.graph command definition := by
  rcases hcommand with ⟨hlinked, block, hblock, hknown⟩
  rcases Catalog.kind_of_definition? hknown with ⟨hkind, hlisted⟩
  have henabled : block.enabled = true := (hcataloged.enabled_refresh_iff hblock).2 hlinked
  exact inOrder_of_repairAll hcataloged.refresh h hblock hkind henabled (hlisted definition rfl)

/-- A reaction that succeeds leaves no surplus block. -/
theorem pruned_react (hcataloged : Cataloged w.catalog w.graph) (hok : w.react.result = .ok ()) :
    ∃ dropped, Pruned w.catalog dropped w.graph w.react.workspace.graph := by
  rcases react_exits hcataloged.toSound with ⟨last, hpath, hends, ⟨hsettled, -⟩ | hfailed⟩
  · obtain ⟨hcatalog, hprunes⟩ := prunes_of_passes hpath hcataloged
    have hlast := hprunes.cataloged hcataloged
    have hrefresh := hprunes.trans (.refresh hlast) hcataloged
    obtain ⟨dropped, hpruning⟩ := hrefresh
    have hgraph : w.react.workspace.graph = last.refresh.graph := by
      rw [hends]
      rfl
    rw [hgraph]
    refine ⟨dropped, hpruning.pruned hcataloged ?_ ?_⟩
    · intro command definition hcommand
      rw [← hcatalog] at hlast hcommand
      exact hsettled.inOrder hlast hcommand
    · exact fun id block hblock => hlast.enabled_refresh_iff hblock
  · rw [hok] at hfailed
    exact absurd hfailed (by simp)

/-- Whatever changes came before, a reaction that succeeds leaves every command of the script the
options and operands that it might keep when the reaction started, in their order, takes the others
off, and changes nothing else. -/
theorem reaction_prunes {settings : Settings} (hreached : Reached catalog settings w)
    (hstart : Change w start) (hok : start.react.result = .ok ()) :
    ∃ dropped, Pruned catalog dropped start.graph start.react.workspace.graph := by
  have hvalid := hreached.valid
  have hsound := (hstart.tended hvalid.tended).sound
  have hcataloged := (hstart.templated hvalid.templated hvalid.tended.sound).cataloged hsound
  have hcatalog : start.catalog = catalog := hstart.setting.1.trans hvalid.catalog_eq
  have hpruned := pruned_react hcataloged hok
  rw [hcatalog] at hpruned
  exact hpruned

/-- Make a command with four options, of which two pairs exclude each other and two have the same
flag, and with one operand too many. -/
def crowdedSteps : List Mutation :=
  [.create (.command "sort"), .create (.option "sort"), .create (.option "sort"),
    .create (.option "sort"), .create (.option "sort"), .setField 3 flagField "-h",
    .setField 4 flagField "-r", .setField 5 flagField "-r", .attach 1 optionsSlot 2,
    .insertAfter 2 3, .insertAfter 3 4, .insertAfter 4 5, .create (.operand "sort" "file"),
    .create (.operand "sort" "file"), .attach 1 operandsSlot 6, .insertAfter 6 7]

@[inherit_doc crowdedSteps]
def uncrowded : Workspace :=
  run sortingCatalog .standard crowdedSteps

/-- The command plugged into the script. -/
def crowdedGraph : BlockGraph :=
  (uncrowded.graph.cut 1).plug root (.slot stackSlot) 1

@[inherit_doc crowdedGraph]
def crowded : Workspace :=
  { uncrowded with graph := crowdedGraph }

/-- The first option excludes the second, the third comes twice, and one operand is allowed. -/
theorem crowded_pruned :
    Change uncrowded crowded ∧ crowded.react.result = .ok () ∧
      crowded.graph.slotChain 1 optionsSlot = [2, 3, 4, 5] ∧
      crowded.graph.slotChain 1 operandsSlot = [6, 7] ∧
      crowded.react.workspace.graph.slotChain 1 optionsSlot = [2, 4] ∧
      crowded.react.workspace.graph.slotChain 1 operandsSlot = [6] ∧
      ∃ dropped, Pruned sortingCatalog dropped crowded.graph crowded.react.workspace.graph := by
  have hfits : uncrowded.graph.Fits ⟨root, .slot stackSlot, 1⟩ :=
    ⟨.command, by decide +kernel, by decide +kernel⟩
  have hattach : uncrowded.graph.attach root stackSlot 1 = .ok crowdedGraph := by
    rw [attach_eq_ok_iff]
    exact ⟨by decide, by decide +kernel, hfits, by decide +kernel, by rw [crowdedGraph]⟩
  have hrun : GraphCall.run uncrowded.graph (.attach root stackSlot 1) = .ok crowdedGraph := by
    rw [GraphCall.run, hattach]
  have hchange : Change uncrowded crowded :=
    .edited hrun (retains_of_blocks (blocks_attach hattach))
  have hok : crowded.react.result = .ok () := by decide +kernel
  have hreached := reached_run sortingCatalog .standard crowdedSteps
  have hpruned := reaction_prunes hreached hchange hok
  exact ⟨hchange, hok, by decide +kernel, by decide +kernel, by decide +kernel, by decide +kernel,
    hpruned⟩

end Workspace

end ShellComposer
