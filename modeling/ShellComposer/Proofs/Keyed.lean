import ShellComposer.Proofs.Attached
import ShellComposer.Proofs.Positions
import ShellComposer.Proofs.Reporting

/-!
# Slots and their keys

A node of a control or operator has a parameter for each slot of its definition and an entry that
says how the slot is written.  Both are made from the list of slots, so they agree by place.  A
reader of the script has only the key to go by, and the key is made from the name of the slot; so
the two agree by key exactly when the names give different keys.

Main results:

- Definition `Node.entryKeys`: the keys under which a node says how its slots are written.
- Structure `Placed` and theorem `Reads.placed`: entries and parameters agree by place.
- Structure `ToldByKey` and theorem `Placed.toldByKey_iff`: when they agree by key.
- Theorem `keys_of_emitted`: what holds of every node of a script.
-/

namespace ShellComposer

open BlockGraph Catalog

/-- The slots that a definition lists. -/
def Definition.slotDefs : Definition → List SlotDef
  | .control form => form.slots
  | .operator form => form.slots
  | _ => []

/-- The keys of the parameters read from slots. -/
def slotKeys (slots : List SlotDef) : List String :=
  slots.map fun slot => slotKey slot.name

/-- The keys of the entries that say how the slots of a node are written. -/
def Node.entryKeys (node : Node) : List String :=
  (node.controlConfig.elim [] fun config => config.slots.map ControlSlotConfig.key) ++
    node.operatorConfig.elim [] fun config => config.slots.map OperatorSlotConfig.key

/-- A node whose entries are those of the slots of a definition, one for each and in their order. -/
def WrittenBy (node : Node) : Definition → Prop
  | .control control => node.operatorConfig = none ∧
      node.controlConfig = some ⟨control.syntaxEnd, control.slots.map fun slot =>
        ⟨slotKey slot.name, slot.syntaxPrefix, slot.obligatory, slot.breakLineBefore⟩⟩
  | .operator operator => node.controlConfig = none ∧
      node.operatorConfig = some ⟨operator.slots.map fun slot =>
        ⟨slotKey slot.name, slot.symbol, slot.symbolPlacement⟩⟩
  | _ => node.controlConfig = none ∧ node.operatorConfig = none

/-- A parameter that holds the nodes of the blocks in a slot, one by one. -/
def ReadAs (catalog : Catalog) (g : BlockGraph) (id : BlockId) (slot : String)
    (parameter : Parameter) : Prop :=
  ∃ nodes, parameter.children = some nodes ∧ ReadsAll catalog g (g.slotChain id slot) nodes

/-- Entries and parameters by place: those of a slot are where the slot is, and have its key. -/
structure Placed (catalog : Catalog) (g : BlockGraph) (id : BlockId) (slots : List SlotDef)
    (node : Node) : Prop where
  entryKeys_eq : node.entryKeys = slotKeys slots
  keys_eq : node.parameters.map Parameter.key = slotKeys slots
  read : ∀ (i : Nat) (slot : SlotDef), slots[i]? = some slot →
    ∃ parameter, node.parameters[i]? = some parameter ∧ ReadAs catalog g id slot.name parameter

/-- Entries and parameters by key: whoever has an entry finds the slot that it is about. -/
structure ToldByKey (catalog : Catalog) (g : BlockGraph) (id : BlockId) (slots : List SlotDef)
    (node : Node) : Prop where
  /-- Just one parameter has the key of an entry. -/
  once : ∀ key ∈ node.entryKeys, (node.parameters.map Parameter.key).count key = 1
  /-- It holds what is in the slot that the entry is about. -/
  read : ∀ (i : Nat) (slot : SlotDef) (key : String), slots[i]? = some slot →
    node.entryKeys[i]? = some key →
      ∀ parameter ∈ node.parameters, parameter.key = key → ReadAs catalog g id slot.name parameter
  /-- Different slots have different keys. -/
  apart : ∀ (i j : Nat) (slot slot' : SlotDef), slots[i]? = some slot → slots[j]? = some slot' →
    i ≠ j → slotKey slot.name ≠ slotKey slot'.name

variable {catalog : Catalog} {settings : Settings} {g : BlockGraph} {w : Workspace}
variable {id : BlockId} {node : Node} {definition : Definition} {slots : List SlotDef}
variable {parameters : List Parameter}

/-! ## By place -/

/-- The parameters read from slots have the keys of the slots, in order. -/
theorem ReadsSlots.keys_eq (h : ReadsSlots catalog g id slots parameters) :
    parameters.map Parameter.key = slotKeys slots := by
  induction slots generalizing parameters with
  | nil => cases h with | nil => rfl
  | cons slot slots ih =>
    cases h with
    | cons held all rest =>
      rw [List.map_cons, ih rest]
      rfl

/-- The parameter at the place of a slot is read from it. -/
theorem ReadsSlots.readAs {i : Nat} {slot : SlotDef} (h : ReadsSlots catalog g id slots parameters)
    (hsound : g.Sound) (hslot : slots[i]? = some slot) :
    ∃ parameter, parameters[i]? = some parameter ∧ ReadAs catalog g id slot.name parameter := by
  rcases h.exists_parameter hslot with ⟨parameter, chain, nodes, hparameter, hread⟩
  obtain rfl := hread.holds.unique (hsound.holds_slotChain id slot.name)
  exact ⟨parameter, hparameter, nodes, hread.children_eq, hread.reads⟩

/-- The entries of a node are those of the definition that its block is read by. -/
theorem ReadsBy.writtenBy {block : Block} (h : ReadsBy catalog g id block definition node) :
    WrittenBy node definition := by
  cases h with
  | script => exact ⟨rfl, rfl⟩
  | command => exact ⟨rfl, rfl⟩
  | option => exact ⟨rfl, rfl⟩
  | operand => exact ⟨rfl, rfl⟩
  | control => exact ⟨rfl, rfl⟩
  | operator => exact ⟨rfl, rfl⟩

/-- A node is written with the keys of the slots of its definition. -/
theorem WrittenBy.entryKeys_eq (h : WrittenBy node definition) :
    node.entryKeys = slotKeys definition.slotDefs := by
  cases definition with
  | control control =>
    rw [Node.entryKeys, h.1, h.2]
    simp [Definition.slotDefs, slotKeys]
  | operator operator =>
    rw [Node.entryKeys, h.1, h.2]
    simp [Definition.slotDefs, slotKeys]
  | script => rw [Node.entryKeys, h.1, h.2]; rfl
  | command command => rw [Node.entryKeys, h.1, h.2]; rfl
  | option command => rw [Node.entryKeys, h.1, h.2]; rfl
  | operand command operand => rw [Node.entryKeys, h.1, h.2]; rfl

/-- A node of a control or operator has the entries and parameters of its slots at their places. -/
theorem ReadsBy.placed {block : Block} (h : ReadsBy catalog g id block definition node)
    (hsound : g.Sound) (htype : node.nodeType = .control ∨ node.nodeType = .operator) :
    Placed catalog g id definition.slotDefs node := by
  have hentries := h.writtenBy.entryKeys_eq
  cases h with
  | script => rcases htype with htype | htype <;> cases htype
  | command => rcases htype with htype | htype <;> cases htype
  | option => rcases htype with htype | htype <;> cases htype
  | operand => rcases htype with htype | htype <;> cases htype
  | control hslots => exact ⟨hentries, hslots.keys_eq, fun _ _ hslot => hslots.readAs hsound hslot⟩
  | operator hslots => exact ⟨hentries, hslots.keys_eq, fun _ _ hslot => hslots.readAs hsound hslot⟩

/-! ## By key -/

/-- Where no two slots have the same key, the entry of a slot leads to its parameter. -/
theorem Placed.toldByKey (h : Placed catalog g id slots node)
    (hnodup : (slotKeys slots).Nodup) :
    ToldByKey catalog g id slots node where
  once := by
    intro key hkey
    rw [h.entryKeys_eq, ← h.keys_eq] at hkey
    exact List.count_eq_one_of_mem (h.keys_eq ▸ hnodup) hkey
  read := by
    intro i slot key hslot hentry parameter hparameter hkey
    rcases List.getElem?_of_mem hparameter with ⟨j, hj⟩
    have hkeyAt : (slotKeys slots)[j]? = some key := by
      rw [← h.keys_eq, List.getElem?_map, hj, Option.map_some, hkey]
    rw [h.entryKeys_eq] at hentry
    -- The parameter is where the entry is, since no key comes twice.
    have hplace : i = j := (List.getElem?_inj (List.getElem?_eq_some_iff.1 hentry).1 hnodup).1
      (hentry.trans hkeyAt.symm)
    obtain ⟨parameter', hparameter', hread⟩ := h.read i slot hslot
    rw [hplace, hj] at hparameter'
    rwa [Option.some.inj hparameter']
  apart := by
    intro i j slot slot' hslot hslot' hne hkey
    refine hne ((List.getElem?_inj ?_ hnodup).1 ?_)
    · rw [slotKeys, List.length_map]
      exact (List.getElem?_eq_some_iff.1 hslot).1
    · rw [slotKeys, List.getElem?_map, List.getElem?_map, hslot, hslot', Option.map_some,
        Option.map_some, hkey]

/-- Where the parameters tell the slots apart by key, the keys are different. -/
theorem ToldByKey.nodup (h : ToldByKey catalog g id slots node) :
    (slotKeys slots).Nodup := by
  refine List.nodup_iff_getElem?_ne_getElem?.2 fun i j hlt hbound hsame => ?_
  rw [slotKeys, List.length_map] at hbound
  rw [slotKeys, List.getElem?_map, List.getElem?_map,
    List.getElem?_eq_getElem (Nat.lt_trans hlt hbound), List.getElem?_eq_getElem hbound] at hsame
  exact h.apart i j _ _ (List.getElem?_eq_getElem _) (List.getElem?_eq_getElem _) (Nat.ne_of_lt hlt)
    (Option.some.inj hsame)

/-- The parameters tell the slots apart by key when the keys are different. -/
theorem Placed.toldByKey_iff (h : Placed catalog g id slots node) :
    ToldByKey catalog g id slots node ↔ (slotKeys slots).Nodup :=
  ⟨ToldByKey.nodup, h.toldByKey⟩

namespace Workspace

/-- After any run of changes, every node of a control or operator has the entries of the definition
that its block stands for, and for each slot, at the same place and under the same key, a parameter
with the blocks in it.  The key alone tells which slot is meant exactly when the names of the slots
give different keys. -/
theorem keys_of_emitted (hreached : Reached catalog settings w) (hemitted : Emitted w id node)
    (htype : node.nodeType = .control ∨ node.nodeType = .operator) :
    ∃ definition, StandsFor catalog w.graph id definition ∧ WrittenBy node definition ∧
      Placed catalog w.graph id definition.slotDefs node ∧
      (ToldByKey catalog w.graph id definition.slotDefs node ↔
        (slotKeys definition.slotDefs).Nodup) := by
  have hvalid := hreached.valid
  obtain ⟨block, definition, hblock, hknown, -, hreads⟩ :=
    hvalid.readsBy (hvalid.reads_of_emitted hemitted).2
  have hplaced := hreads.placed hvalid.tended.sound htype
  exact ⟨definition, ⟨block, hblock, hknown⟩, hreads.writtenBy, hplaced, hplaced.toldByKey_iff⟩

/-- A block of the script that stands for a definition with slots has a node of their kind. -/
theorem Valid.exists_node_of_slotDefs (h : Valid catalog settings w)
    (henabled : w.graph.isEnabled id = true) (hstands : StandsFor catalog w.graph id definition)
    (hslots : definition.slotDefs ≠ []) :
    ∃ node, Emitted w id node ∧ (node.nodeType = .control ∨ node.nodeType = .operator) := by
  rcases h.exists_emitted (h.isEnabled_iff.1 henabled) with ⟨⟨node, hemitted⟩, -⟩
  rcases hstands.readsBy (h.reads_of_emitted hemitted).2 with ⟨block, -, hreads⟩
  refine ⟨node, hemitted, ?_⟩
  cases hreads with
  | control => exact .inl rfl
  | operator => exact .inr rfl
  | script => exact absurd rfl hslots
  | command => exact absurd rfl hslots
  | option => exact absurd rfl hslots
  | operand => exact absurd rfl hslots

/-- The two slots of the operator have different keys, so its node can be read by key. -/
theorem keys_of_emitted_piping :
    Reached pipingCatalog .standard (run pipingCatalog .standard pipingSteps) ∧
      ∃ node, Emitted (run pipingCatalog .standard pipingSteps) 1 node ∧
        (node.nodeType = .control ∨ node.nodeType = .operator) ∧
        ∃ definition,
          StandsFor pipingCatalog (run pipingCatalog .standard pipingSteps).graph 1 definition ∧
            slotKeys definition.slotDefs = ["from", "to"] ∧
            ToldByKey pipingCatalog (run pipingCatalog .standard pipingSteps).graph 1
              definition.slotDefs node := by
  have hreached := reached_run pipingCatalog .standard pipingSteps
  have hstands : StandsFor pipingCatalog (run pipingCatalog .standard pipingSteps).graph 1
      (.operator pipe) := Option.bind_eq_some_iff.1 (by decide +kernel)
  rcases hreached.valid.exists_node_of_slotDefs (by decide +kernel) hstands (by decide) with
    ⟨node, hemitted, htype⟩
  rcases keys_of_emitted hreached hemitted htype with ⟨definition, hstands', -, -, htold⟩
  obtain rfl := hstands.unique hstands'
  exact ⟨hreached, node, hemitted, htype, _, hstands, by decide +kernel,
    htold.2 (by decide +kernel)⟩

/-- A small catalog: a command that lists files, and a control with two slots whose names differ in
case only. -/
def eitherText : String :=
  "\x7b\"commands\": [\x7b\"shellCommand\": \"ls\"\x7d], " ++
    "\"controls\": [\x7b\"id\": \"either\", " ++
      "\"slots\": [\x7b\"name\": \"LEFT\"\x7d, \x7b\"name\": \"left\"\x7d]\x7d]\x7d"

/-- The control. -/
def eitherControl : ControlDef where
  id := "either"
  shellCommand := ""
  label := ""
  description := ""
  color := ""
  syntaxEnd := none
  slots := [⟨"LEFT", none, "command", none, none, none, false, false⟩,
    ⟨"left", none, "command", none, none, none, false, false⟩]

@[inherit_doc eitherText]
def either : Definitions where
  commands := [⟨none, "ls", "", "", "", "", [], none, [], [], none, [], none⟩]
  operators := []
  controls := [eitherControl]
  categories := []

@[inherit_doc eitherText]
def eitherCatalog : Catalog :=
  .compile Pattern.search either.normalize

/-- Plug the control into the script, and the command into its second slot. -/
def eitherSteps : List Mutation :=
  [.create (.control "either"), .attach root stackSlot 1, .create (.command "ls"),
    .attach 1 "left" 2]

/-- Both entries and both parameters of the node have the same key, but only one of the parameters
holds the command. -/
theorem either_not_told_by_key :
    Catalog.load Pattern.search eitherText = .ok eitherCatalog ∧
      Reached eitherCatalog .standard (run eitherCatalog .standard eitherSteps) ∧
      ((run eitherCatalog .standard eitherSteps).emit.toOption.bind fun tree =>
        (tree.at? [(0, 0)]).map fun node => (node.entryKeys, node.parameters.map fun parameter =>
          (parameter.key, (parameter.children.getD []).map Node.name))) =
        some (["left", "left"], [("left", []), ("left", ["ls"])]) ∧
      ¬ ∀ id node definition, Emitted (run eitherCatalog .standard eitherSteps) id node →
        node.nodeType = .control ∨ node.nodeType = .operator →
        StandsFor eitherCatalog (run eitherCatalog .standard eitherSteps).graph id definition →
          ToldByKey eitherCatalog (run eitherCatalog .standard eitherSteps).graph id
            definition.slotDefs node := by
  have hload : Catalog.load Pattern.search eitherText = .ok eitherCatalog :=
    load_eq_ok (by decide +kernel) (by decide +kernel)
  have hreached := reached_run eitherCatalog .standard eitherSteps
  refine ⟨hload, hreached, by decide +kernel, fun hall => ?_⟩
  have hstands : StandsFor eitherCatalog (run eitherCatalog .standard eitherSteps).graph 1
      (.control eitherControl) := Option.bind_eq_some_iff.1 (by decide +kernel)
  rcases hreached.valid.exists_node_of_slotDefs (by decide +kernel) hstands (by decide) with
    ⟨node, hemitted, htype⟩
  have htold := hall 1 node _ hemitted htype hstands
  exact absurd htold.nodup (by decide +kernel)

end Workspace

end ShellComposer
