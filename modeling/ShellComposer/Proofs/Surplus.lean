import ShellComposer.Proofs.Attached
import ShellComposer.Proofs.Rationing
import ShellComposer.Proofs.TakenOut

/-!
# Surplus blocks

A command of the script may keep some of its options and operands; the others are surplus.  When a
surplus block is taken off, and what is kept does not depend on it, the command may keep the very
blocks that it might keep before, and so may all other commands.  This goes on for one surplus block
after the other, so it does not matter in which order they are found.

Main results:

- Inductive type `Row` with `Row.kept`: the rows of blocks at a command, and what it may keep.
- Structures `ScriptCommand`, `Surplus`: a command of the script and the blocks it may not keep.
- Structure `Pruning`: surplus blocks have been taken off, and commands may keep what they might.
- Theorem `Pruning.trans`: further surplus blocks are taken off.
- Theorem `Surplus.prunes`: one surplus block is taken off.
-/

namespace ShellComposer

open BlockGraph Catalog Relation

variable {catalog : Catalog} {g g' g'' : BlockGraph} {command id : BlockId}
variable {definition : CommandDef}

/-! ## What the repairs look at -/

/-- The name of the operand that a kind of block stands for. -/
def BlockKind.operandName? : BlockKind → Option String
  | operand _ name => some name
  | _ => none

theorem BlockKind.isOperandNamed_iff {kind : BlockKind} {name : String} :
    kind.isOperandNamed name = true ↔ kind.operandName? = some name := by
  cases kind <;> simp [isOperandNamed, operandName?]

namespace BlockGraph

/-- The flag that an option block has. -/
def flagOf (g : BlockGraph) (id : BlockId) : String :=
  g.fieldText id flagField

/-- The name of the operand that a block stands for. -/
def operandName (g : BlockGraph) (id : BlockId) : Option String :=
  (g.get? id).bind fun block => block.kind.operandName?

theorem hasKind_isOperandNamed_iff {name : String} :
    g.hasKind (BlockKind.isOperandNamed name) id = true ↔ g.operandName id = some name := by
  unfold hasKind operandName
  cases g.get? id with
  | none => simp
  | some block => exact BlockKind.isOperandNamed_iff

/-- The blocks of an operand kind are those of that operand's name. -/
theorem filter_isOperandNamed (g : BlockGraph) (name : String) (ids : List BlockId) :
    ids.filter (g.hasKind (BlockKind.isOperandNamed name)) =
      ids.filter (g.operandName · = some name) := by
  refine List.filter_congr fun id _ => ?_
  rw [Bool.eq_iff_iff, hasKind_isOperandNamed_iff, decide_eq_true_iff]

/-- The flags of options depend on the content of the blocks only. -/
theorem flagOf_congr (h : ∀ id, g'.content? id = g.content? id) : g'.flagOf = g.flagOf := by
  have hflag : ∀ (g : BlockGraph) id, g.flagOf id =
      ((g.content? id).map fun content => (content.2.1.lookup flagField).getD "").getD "" := by
    intro g id
    unfold flagOf fieldText content?
    cases g.get? id <;> rfl
  funext id
  rw [hflag, hflag, h]

/-- So do the names of operands. -/
theorem operandName_congr (h : ∀ id, g'.content? id = g.content? id) :
    g'.operandName = g.operandName := by
  have hname : ∀ (g : BlockGraph) id, g.operandName id =
      (g.content? id).bind fun content => content.1.operandName? := by
    intro g id
    unfold operandName content?
    cases g.get? id <;> rfl
  funext id
  rw [hname, hname, h]

theorem hasKind_congr (h : ∀ id, g'.content? id = g.content? id) (p : BlockKind → Bool) :
    g'.hasKind p = g.hasKind p := by
  have hkind : ∀ (g : BlockGraph) id, g.hasKind p id =
      ((g.content? id).map fun content => p content.1).getD false := by
    intro g id
    unfold hasKind content?
    cases g.get? id <;> rfl
  funext id
  rw [hkind, hkind, h]

end BlockGraph

/-- The two rows of blocks that a command holds. -/
inductive Row where
  | options
  | operands
deriving DecidableEq, Repr

namespace Row

/-- The slot that holds a row. -/
def slot : Row → String
  | options => optionsSlot
  | operands => operandsSlot

/-- The tag of the blocks in a row. -/
def tag (definition : CommandDef) : Row → Tag
  | options => .option definition.id
  | operands => .operand definition.id

/-- The blocks of a row that a command may keep. -/
def kept (definition : CommandDef) (g : BlockGraph) : Row → List BlockId → List BlockId
  | options => keptOptions definition.exclusiveOptions g.flagOf
  | operands => keptOperands definition.operands g.operandName

/-- The two rows of a command are held in different slots. -/
theorem slot_inj {row row' : Row} (h : row.slot = row'.slot) : row = row' := by
  revert h
  cases row <;> cases row' <;> simp [slot, optionsSlot, operandsSlot]

/-- What is kept of a row depends on the content of the blocks only. -/
theorem kept_congr (h : ∀ id, g'.content? id = g.content? id) (row : Row) :
    row.kept definition g' = row.kept definition g := by
  cases row with
  | options => simp only [kept, flagOf_congr h]
  | operands => simp only [kept, operandName_congr h]

end Row

variable {row : Row}

/-! ## Commands of the script -/

/-- A sound graph in which every block has the slots that the catalog gives its kind. -/
structure Cataloged (catalog : Catalog) (g : BlockGraph) : Prop extends BlockGraph.Sound g where
  slots_eq : ∀ id kind slots, g.shape? id = some (kind, slots) →
    ∃ definition, catalog.definition? kind = some definition ∧ slots = definition.template.slots

/-- A command of the script: a block that the script leads to, and the command it stands for. -/
structure ScriptCommand (catalog : Catalog) (g : BlockGraph) (id : BlockId)
    (definition : CommandDef) : Prop where
  linked : ReflTransGen g.Leads root id
  stands : StandsFor catalog g id (.command definition)

/-- A block of a row that the command may not keep. -/
structure Surplus (catalog : Catalog) (g : BlockGraph) (command : BlockId)
    (definition : CommandDef) (row : Row) (id : BlockId) : Prop where
  holder : ScriptCommand catalog g command definition
  held : id ∈ g.slotChain command row.slot
  excess : id ∉ row.kept definition g (g.slotChain command row.slot)

/-- A block that some command of the script may not keep. -/
def IsSurplus (catalog : Catalog) (g : BlockGraph) (id : BlockId) : Prop :=
  ∃ command definition row, Surplus catalog g command definition row id

theorem StandsFor.of_content {definition : Definition} (h : StandsFor catalog g id definition)
    (hcontent : g'.content? id = g.content? id) : StandsFor catalog g' id definition := by
  rcases h with ⟨block, hblock, hknown⟩
  unfold content? at hcontent
  rw [hblock, Option.map_some, Option.map_eq_some_iff] at hcontent
  rcases hcontent with ⟨block', hblock', hsame⟩
  have hkind : block'.kind = block.kind := congrArg Prod.fst hsame
  refine ⟨block', hblock', ?_⟩
  rw [hkind, hknown]

namespace Cataloged

/-- Blocks keep their slots as long as they keep their kinds. -/
theorem of_content (h : Cataloged catalog g) (hsound : g'.Sound)
    (hcontent : ∀ id, g'.content? id = g.content? id) : Cataloged catalog g' where
  toSound := hsound
  slots_eq := by
    intro id kind slots hshape
    rw [shape?_of_content? (hcontent id)] at hshape
    exact h.slots_eq id kind slots hshape

/-- A row of a command asks for blocks with its tag. -/
theorem tagAsked_row (h : Cataloged catalog g)
    (hcommand : ScriptCommand catalog g command definition) (row : Row) :
    g.tagAsked command (.slot row.slot) = some (row.tag definition) := by
  rcases hcommand.stands with ⟨block, hblock, hknown⟩
  have hshape : g.shape? command = some (block.kind, block.slots) := by
    unfold shape?
    rw [hblock, Option.map_some]
  rcases h.slots_eq _ _ _ hshape with ⟨definition', hknown', hslots⟩
  obtain rfl := Option.some.inj (hknown.symm.trans hknown')
  rw [tagAsked_slot_eq hblock, Block.slot?, hslots]
  cases row <;> rfl

/-- A block held in a row shows the tag that the row asks for. -/
theorem tagShown_of_mem (h : Cataloged catalog g)
    (hcommand : ScriptCommand catalog g command definition)
    (hmem : id ∈ g.slotChain command row.slot) : g.tagShown id = some (row.tag definition) := by
  rcases h.tagShown_of_mem_slotChain hmem with ⟨tag, hasked, hshown⟩
  rw [h.tagAsked_row hcommand row] at hasked
  rw [hshown, hasked]

/-- The blocks in a row hold nothing themselves. -/
theorem bare_of_tagShown (h : Cataloged catalog g)
    (hshown : g.tagShown id = some (row.tag definition)) (name : String) :
    g.target? id (.slot name) = none := by
  rcases Option.bind_eq_some_iff.1 hshown with ⟨block, hblock, htag⟩
  have hshape : g.shape? id = some (block.kind, block.slots) := by
    unfold shape?
    rw [hblock, Option.map_some]
  have hslots : block.slots = [] := by
    rcases h.slots_eq _ _ _ hshape with ⟨found, hknown, hslots⟩
    have hkind := (Catalog.kind_of_definition? hknown).1
    rw [hslots]
    cases found <;> cases row <;> simp_all [Definition.kind, BlockKind.tag?, Row.tag,
      Definition.template, Template.option, Template.operand]
  cases hread : g.target? id (.slot name) with
  | none => rfl
  | some target =>
    rcases h.fits _ (mem_links_of_target? hread) with ⟨tag, hasked, -⟩
    rw [tagAsked_slot_eq hblock, Block.slot?, hslots] at hasked
    simp at hasked

/-- A command of the script is not a block in a row. -/
theorem tagShown_command (hcommand : ScriptCommand catalog g command definition) :
    g.tagShown command = some .command := by
  rcases hcommand.stands with ⟨block, hblock, hknown⟩
  rw [tagShown_eq hblock, (Catalog.kind_of_definition? hknown).1]
  rfl

end Cataloged

namespace IsSurplus

/-- A surplus block hangs in a row, below the command. -/
theorem ne_root (h : IsSurplus catalog g id) (hsound : g.Sound) : id ≠ root := by
  rcases h with ⟨command, definition, row, hsurplus⟩
  exact (hsound.present_of_leads (hsound.leads_of_mem_slotChain hsurplus.held)).2

/-- Surplus shows the tag of the row it is held in. -/
theorem tagShown (h : IsSurplus catalog g id) (hcataloged : Cataloged catalog g) :
    ∃ definition row, g.tagShown id = some (Row.tag definition row) := by
  rcases h with ⟨command, definition, row, hsurplus⟩
  exact ⟨definition, row, hcataloged.tagShown_of_mem hsurplus.holder hsurplus.held⟩

/-- Nothing is plugged into surplus. -/
theorem bare (h : IsSurplus catalog g id) (hcataloged : Cataloged catalog g) (name : String) :
    g.target? id (.slot name) = none := by
  rcases h.tagShown hcataloged with ⟨definition, row, hshown⟩
  exact hcataloged.bare_of_tagShown hshown name

/-- A command of the script is no surplus block. -/
theorem not_command (h : IsSurplus catalog g id) (hcataloged : Cataloged catalog g) :
    ¬ ScriptCommand catalog g id definition := by
  intro hcommand
  rcases h.tagShown hcataloged with ⟨definition', row, hshown⟩
  have htag := Option.some.inj ((Cataloged.tagShown_command hcommand).symm.trans hshown)
  cases row <;> simp [Row.tag] at htag

end IsSurplus

/-! ## Taking surplus blocks off -/

/-- Some surplus blocks have been taken off, nothing else has changed, and what commands may keep is
the same as before. -/
structure Pruning (catalog : Catalog) (gone : List BlockId) (g g' : BlockGraph) : Prop where
  sound : g'.Sound
  taken : TakenOut gone g g'
  surplus : ∀ id ∈ gone, IsSurplus catalog g id
  kept_eq : ∀ command definition (row : Row), ScriptCommand catalog g command definition →
    row.kept definition g' (g'.slotChain command row.slot) =
      row.kept definition g (g.slotChain command row.slot)

/-- A graph that comes of another one by taking surplus blocks off. -/
def Prunes (catalog : Catalog) (g g' : BlockGraph) : Prop :=
  ∃ gone, Pruning catalog gone g g'

namespace Pruning

variable {gone gone' : List BlockId}

/-- A graph that fits the catalog does so after pruning. -/
theorem cataloged (h : Pruning catalog gone g g') (hcataloged : Cataloged catalog g) :
    Cataloged catalog g' :=
  hcataloged.of_content h.sound h.taken.content_eq

/-- After pruning, the root leads to what it led to but for what was taken out. -/
theorem linked_iff (h : Pruning catalog gone g g') (hcataloged : Cataloged catalog g) :
    ReflTransGen g'.Leads root id ↔ ReflTransGen g.Leads root id ∧ id ∉ gone := by
  refine h.taken.linked_iff hcataloged.toSound h.sound ?_ ?_
  · exact fun hroot => (h.surplus root hroot).ne_root hcataloged.toSound rfl
  · exact fun d hd => (h.surplus d hd).bare hcataloged

/-- A command of the script is never taken out. -/
theorem not_mem_of_scriptCommand (h : Pruning catalog gone g g')
    (hcataloged : Cataloged catalog g) (hcommand : ScriptCommand catalog g command definition) :
    command ∉ gone :=
  fun hgone => (h.surplus command hgone).not_command hcataloged hcommand

/-- The commands of the script stay the same. -/
theorem scriptCommand_iff (h : Pruning catalog gone g g') (hcataloged : Cataloged catalog g) :
    ScriptCommand catalog g' command definition ↔ ScriptCommand catalog g command definition := by
  constructor
  · intro hcommand
    have hlinked := ((h.linked_iff hcataloged).1 hcommand.linked).1
    exact ⟨hlinked, hcommand.stands.of_content (h.taken.content_eq command).symm⟩
  · intro hcommand
    have hkept := h.not_mem_of_scriptCommand hcataloged hcommand
    exact ⟨(h.linked_iff hcataloged).2 ⟨hcommand.linked, hkept⟩,
      hcommand.stands.of_content (h.taken.content_eq command)⟩

/-- The rows of commands are as they were, without the blocks taken off. -/
theorem slotChain_eq (h : Pruning catalog gone g g') (hcataloged : Cataloged catalog g)
    (hcommand : ScriptCommand catalog g command definition) (slot : String) :
    g'.slotChain command slot = (g.slotChain command slot).filter (· ∉ gone) :=
  h.taken.slotChain_eq (h.not_mem_of_scriptCommand hcataloged hcommand) slot

/-- Blocks that are surplus afterwards were surplus before. -/
theorem isSurplus (h : Pruning catalog gone g g') (hcataloged : Cataloged catalog g)
    (hsurplus : IsSurplus catalog g' id) : IsSurplus catalog g id := by
  rcases hsurplus with ⟨command, definition, row, hcommand, hheld, hexcess⟩
  have hbefore := (h.scriptCommand_iff hcataloged).1 hcommand
  rw [h.slotChain_eq hcataloged hbefore] at hheld
  rw [h.kept_eq command definition row hbefore] at hexcess
  exact ⟨command, definition, row, hbefore, List.mem_of_mem_filter hheld, hexcess⟩

theorem trans (h : Pruning catalog gone g g') (h' : Pruning catalog gone' g' g'')
    (hcataloged : Cataloged catalog g) : Pruning catalog (gone ++ gone') g g'' where
  sound := h'.sound
  taken := h.taken.trans h'.taken h.sound h'.sound
  surplus := by
    intro id hgone
    rcases List.mem_append.1 hgone with hgone | hgone
    · exact h.surplus id hgone
    · exact h.isSurplus hcataloged (h'.surplus id hgone)
  kept_eq := by
    intro command definition row hcommand
    have hafter := (h.scriptCommand_iff hcataloged).2 hcommand
    rw [h'.kept_eq command definition row hafter, h.kept_eq command definition row hcommand]

end Pruning

namespace Prunes

theorem refl (h : Cataloged catalog g) : Prunes catalog g g :=
  ⟨[], h.toSound, .none g, by simp, fun _ _ _ _ => rfl⟩

theorem trans (h : Prunes catalog g g') (h' : Prunes catalog g' g'')
    (hcataloged : Cataloged catalog g) : Prunes catalog g g'' := by
  rcases h with ⟨gone, hpruning⟩
  rcases h' with ⟨gone', hpruning'⟩
  exact ⟨gone ++ gone', hpruning.trans hpruning' hcataloged⟩

/-- Enabling blocks takes none off. -/
theorem refresh (h : Cataloged catalog g) : Prunes catalog g g.refresh.2 := by
  refine ⟨[], h.toSound.refresh, .refresh g, by simp, fun command definition row hcommand => ?_⟩
  rw [row.kept_congr (content?_refresh g), (TakenOut.refresh g).slotChain_eq (by simp)]
  simp

theorem cataloged (h : Prunes catalog g g') (hcataloged : Cataloged catalog g) :
    Cataloged catalog g' := by
  rcases h with ⟨gone, hpruning⟩
  exact hpruning.cataloged hcataloged

theorem content_eq (h : Prunes catalog g g') (id : BlockId) : g'.content? id = g.content? id := by
  rcases h with ⟨gone, hpruning⟩
  exact hpruning.taken.content_eq id

theorem scriptCommand (h : Prunes catalog g g') (hcataloged : Cataloged catalog g)
    (hcommand : ScriptCommand catalog g command definition) :
    ScriptCommand catalog g' command definition := by
  rcases h with ⟨gone, hpruning⟩
  exact (hpruning.scriptCommand_iff hcataloged).2 hcommand

/-- What a row holds was there before, in the same order. -/
theorem slotChain_sublist (h : Prunes catalog g g') (hcataloged : Cataloged catalog g)
    (hcommand : ScriptCommand catalog g command definition) (slot : String) :
    (g'.slotChain command slot).Sublist (g.slotChain command slot) := by
  rcases h with ⟨gone, hpruning⟩
  rw [hpruning.slotChain_eq hcataloged hcommand]
  exact List.filter_sublist

theorem kept_eq (h : Prunes catalog g g') (hcommand : ScriptCommand catalog g command definition)
    (row : Row) : row.kept definition g' (g'.slotChain command row.slot) =
      row.kept definition g (g.slotChain command row.slot) := by
  rcases h with ⟨gone, hpruning⟩
  exact hpruning.kept_eq command definition row hcommand

end Prunes

/-- One block is taken off that its command may not keep, and that the rest does not depend on. -/
theorem Surplus.prunes (h : Surplus catalog g command definition row id)
    (hcataloged : Cataloged catalog g)
    (hkept : row.kept definition g ((g.slotChain command row.slot).filter (· ≠ id)) =
      row.kept definition g (g.slotChain command row.slot)) :
    Prunes catalog g (g.unplug id) := by
  have hsound := hcataloged.toSound
  have hsurplus : IsSurplus catalog g id := ⟨command, definition, row, h⟩
  rcases hsound.exists_link_of_mem_slotChain h.held with ⟨source, outlet, hheld⟩
  have htaken := TakenOut.unplug hsound hheld (hsurplus.bare hcataloged)
  refine ⟨[id], hsound.unplug id, htaken, ?_, fun command' definition' row' hcommand' => ?_⟩
  · intro other hother
    rw [List.mem_singleton] at hother
    exact hother ▸ hsurplus
  · have hne : command' ≠ id := by
      rintro rfl
      exact hsurplus.not_command hcataloged hcommand'
    rw [row'.kept_congr htaken.content_eq, htaken.slotChain_eq (by simpa using hne)]
    simp only [List.mem_singleton]
    by_cases hmem : id ∈ g.slotChain command' row'.slot
    · rcases hsound.slotChain_unique h.held hmem with ⟨rfl, hslot⟩
      obtain rfl := Row.slot_inj hslot
      have hsame := hcommand'.stands.unique h.holder.stands
      obtain rfl : definition' = definition := by simpa using hsame
      exact hkept
    · rw [filter_ne_of_not_mem hmem]

end ShellComposer
