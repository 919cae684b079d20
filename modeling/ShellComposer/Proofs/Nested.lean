import ShellComposer.Proofs.Reloading
import ShellComposer.Script.Node

/-!
# Trees are read back up to the limit of nesting

A script tree, a request with such a tree and the meaning of a block are read back from the JSON
text that is written for them, if no more than 127 arrays and objects nest in it, and otherwise the
text is refused; a different tree is never read.  What is missing stays missing, whether it is left
out of the text or written as null, and an empty list of nodes stays a list.  A node is read with as
many levels below it as may nest, so the limit is met by the text alone.

Main results:

- Theorems `Form.rereads`, `Meaning.rereads`: meanings are read back.
- Theorem `Parameter.rereads_with`: a parameter is read back when the nodes it holds are.
- Theorem `Node.rereads_levels`: a node is read back when no more nests in it than levels are read.
- Theorem `ofText_text`: nodes, requests and meanings are read back from their texts, or refused.
-/

namespace ShellComposer

open Json Json.Value Catalog
open Json.Fields (rereads_field rereads_ifPresent)

/-! ## Meanings -/

/-- The type of a node is read back. -/
theorem NodeType.rereads (room : Nat) (nodeType : NodeType) :
    Rereads room decode (.string nodeType.word) nodeType := by
  cases nodeType <;> exact rereads_variant rfl room

/-- So is the source of a binding. -/
theorem BindingSource.rereads (room : Nat) (source : BindingSource) :
    Rereads room decode (.string source.word) source := by
  cases source <;> exact rereads_variant rfl room

/-- A binding is read back with its name, its key and its source. -/
theorem Binding.rereads (room : Nat) (binding : Binding) :
    Rereads room decode binding.encode binding :=
  ((rereads_field (rereads_string _ binding.key)).map Binding.mk
    |>.seq (rereads_field (BindingSource.rereads _ binding.source))
    |>.seq (rereads_field (rereads_string _ binding.name))).record (by decide)

/-- A slot of a control is read back. -/
theorem ControlSlot.rereads (room : Nat) (slot : ControlSlot) :
    Rereads room decode slot.encode slot :=
  ((rereads_field (rereads_string _ slot.name)).map ControlSlot.mk
    |>.seq (rereads_field (rereads_text? _ slot.syntaxPrefix))
    |>.seq (rereads_field (rereads_bool _ slot.obligatory))
    |>.seq (rereads_field (rereads_bool _ slot.breakLineBefore))).record (by decide)

/-- The form of a control is read back with its slots. -/
theorem ControlForm.rereads (room : Nat) (form : ControlForm) :
    Rereads room decode form.encode form :=
  ((rereads_field (rereads_text? _ form.syntaxEnd)).map ControlForm.mk
    |>.seq (rereads_field (rereads_list (ControlSlot.rereads _) form.slots))).record (by decide)

/-- A slot of an operator is read back. -/
theorem OperatorSlot.rereads (room : Nat) (slot : OperatorSlot) :
    Rereads room decode slot.encode slot :=
  ((rereads_field (rereads_string _ slot.name)).map OperatorSlot.mk
    |>.seq (rereads_field (rereads_text? _ slot.symbol))
    |>.seq (rereads_field (SymbolPlacement.rereads? _ slot.symbolPlacement))).record (by decide)

/-- The form of an operator is read back with its slots. -/
theorem OperatorForm.rereads (room : Nat) (form : OperatorForm) :
    Rereads room decode form.encode form :=
  ((rereads_field (rereads_list (OperatorSlot.rereads _) form.slots)).map OperatorForm.mk
    |>.seq (rereads_field (rereads_texts _ form.slotsWithImplicitData))).record (by decide)

/-- A form is read back by the name of its one member. -/
theorem Form.rereads (room : Nat) (form : Form) : Rereads room decode form.encode form := by
  cases form with
  | control form => exact rereads_tagged rfl ((ControlForm.rereads _ form).map Form.control)
  | operator form => exact rereads_tagged rfl ((OperatorForm.rereads _ form).map Form.operator)

/-- A form is never written as null, so leaving it out means that there is none. -/
theorem Form.encode_ne_null (form : Form) : form.encode ≠ .null := by
  cases form <;> exact Value.noConfusion

/-- A meaning is read back with its bindings and its form. -/
theorem Meaning.rereads (room : Nat) (meaning : Meaning) :
    Rereads room decode meaning.encode meaning :=
  ((rereads_field (NodeType.rereads _ meaning.nodeType)).map Meaning.mk
    |>.seq (rereads_field (rereads_string _ meaning.name))
    |>.seq (rereads_field (rereads_list (Binding.rereads _) meaning.bindings))
    |>.seq (rereads_ifPresent Form.encode_ne_null (Form.rereads _) meaning.form)).record (by decide)

/-! ## Configurations -/

/-- How a slot of a control is written is read back. -/
theorem ControlSlotConfig.rereads (room : Nat) (slot : ControlSlotConfig) :
    Rereads room decode slot.encode slot :=
  ((rereads_field (rereads_string _ slot.key)).map ControlSlotConfig.mk
    |>.seq (rereads_field (rereads_text? _ slot.syntaxPrefix))
    |>.seq (rereads_field (rereads_bool _ slot.obligatory))
    |>.seq (rereads_field (rereads_bool _ slot.breakLineBefore))).record (by decide)

/-- How a control is written is read back. -/
theorem ControlConfig.rereads (room : Nat) (config : ControlConfig) :
    Rereads room decode config.encode config :=
  ((rereads_field (rereads_text? _ config.syntaxEnd)).map ControlConfig.mk
    |>.seq (rereads_field (rereads_list (ControlSlotConfig.rereads _) config.slots))).record
      (by decide)

/-- How a slot of an operator is written is read back. -/
theorem OperatorSlotConfig.rereads (room : Nat) (slot : OperatorSlotConfig) :
    Rereads room decode slot.encode slot :=
  ((rereads_field (rereads_string _ slot.key)).map OperatorSlotConfig.mk
    |>.seq (rereads_field (rereads_text? _ slot.symbol))
    |>.seq (rereads_field (SymbolPlacement.rereads? _ slot.symbolPlacement))).record (by decide)

/-- How an operator is written is read back. -/
theorem OperatorConfig.rereads (room : Nat) (config : OperatorConfig) :
    Rereads room decode config.encode config :=
  ((rereads_field (rereads_list (OperatorSlotConfig.rereads _) config.slots)).map
    OperatorConfig.mk).record (by decide)

/-! ## Nodes -/

/-- Several nodes are written one by one. -/
theorem encodeNodes_eq_map (nodes : List Node) : encodeNodes nodes = nodes.map Node.encode := by
  induction nodes with
  | nil => rfl
  | cons node rest ih => rw [encodeNodes, ih, List.map_cons]

/-- Several parameters are written one by one. -/
theorem encodeParameters_eq_map (parameters : List Parameter) :
    encodeParameters parameters = parameters.map Parameter.encode := by
  induction parameters with
  | nil => rfl
  | cons parameter rest ih => rw [encodeParameters, ih, List.map_cons]

/-- A parameter is written with its key, and with a value or children where it has them. -/
theorem Parameter.encode_eq (parameter : Parameter) : parameter.encode =
    .object ([("key", .string parameter.key)] ++
      memberIfPresent "value" .string parameter.value ++
      memberIfPresent "children" (ofList Node.encode) parameter.children) := by
  rcases parameter with ⟨key, value, _ | nodes⟩
  · rfl
  · rw [encode, encodeNodes_eq_map]
    rfl

/-- A node is written with its type, name and parameters, and with a configuration where it has one.
-/
theorem Node.encode_eq (node : Node) : node.encode =
    .object ([("type", .string node.nodeType.word), ("name", .string node.name),
        ("parameters", ofList Parameter.encode node.parameters)] ++
      memberIfPresent "controlConfig" ControlConfig.encode node.controlConfig ++
      memberIfPresent "operatorConfig" OperatorConfig.encode node.operatorConfig) := by
  rcases node with ⟨nodeType, name, parameters, controlConfig, operatorConfig⟩
  rw [encode, encodeParameters_eq_map]
  rfl

/-- A parameter is read back when the nodes it holds are. -/
theorem Parameter.rereads_with {room : Nat} {decodeNode : Decoder Node}
    (h : ∀ node : Node, Rereads (room - 1 - 1) decodeNode node.encode node)
    (parameter : Parameter) :
    Rereads room (decodeWith decodeNode) parameter.encode parameter := by
  have hnames : ["key", "value", "children"].Nodup := by decide
  rw [encode_eq]
  rcases parameter with ⟨key, value, children⟩
  exact ((rereads_field (rereads_string _ key)).map Parameter.mk
    |>.seq (rereads_ifPresent (fun _ => Value.noConfusion) (rereads_string _) value)
    |>.seq (rereads_ifPresent (fun _ => Value.noConfusion) (rereads_list h) children)).record hnames

/-- A node is read back when no more nests in it than levels are read. -/
theorem Node.rereads_levels {levels room : Nat} (hroom : room ≤ levels) (node : Node) :
    Rereads room (decodeLevels levels) node.encode node := by
  induction levels generalizing room node with
  | zero =>
    obtain rfl := Nat.le_zero.1 hroom
    rw [encode_eq]
    rfl
  | succ levels ih =>
    have hnames : ["type", "name", "parameters", "controlConfig", "operatorConfig"].Nodup := by
      decide
    -- between a node and the nodes in its parameters there are two arrays and another object
    have hbelow : ∀ node : Node,
        Rereads (room - 1 - 1 - 1 - 1) (decodeLevels levels) node.encode node :=
      fun node => ih (by omega) node
    rw [encode_eq]
    rcases node with ⟨nodeType, name, parameters, controlConfig, operatorConfig⟩
    exact ((rereads_field (NodeType.rereads _ nodeType)).map Node.mk
      |>.seq (rereads_field (rereads_string _ name))
      |>.seq (rereads_field (rereads_list (Parameter.rereads_with hbelow) parameters))
      |>.seq (rereads_ifPresent (fun _ => Value.noConfusion) (ControlConfig.rereads _)
        controlConfig)
      |>.seq (rereads_ifPresent (fun _ => Value.noConfusion) (OperatorConfig.rereads _)
        operatorConfig)).record hnames

/-- A node is read back with all that it has below it. -/
theorem Node.rereads (room : Nat) (node : Node) : Rereads room decode node.encode node :=
  Node.rereads_levels (Nat.le_refl room) node

/-- A request is read back with its script. -/
theorem Request.rereads (room : Nat) (request : Request) :
    Rereads room decode request.encode request :=
  ((rereads_field (rereads_string _ request.levelId)).map Request.mk
    |>.seq (rereads_field (Node.rereads _ request.script))).record (by decide)

/-! ## Texts -/

/-- Nodes, requests and meanings are read back from their texts if no more than 127 arrays and
objects nest in them, and otherwise their texts are refused. -/
theorem ofText_text :
    (∀ node : Node, Node.ofText node.encode.text =
      if node.encode.nesting ≤ 127 then .ok node else .error .malformed) ∧
    (∀ request : Request, Request.ofText request.encode.text =
      if request.encode.nesting ≤ 127 then .ok request else .error .malformed) ∧
    ∀ meaning : Meaning, Meaning.ofText meaning.encode.text =
      if meaning.encode.nesting ≤ 127 then .ok meaning else .error .malformed :=
  ⟨fun node => decodeText_text (Node.rereads _ node),
    fun request => decodeText_text (Request.rereads _ request),
    fun meaning => decodeText_text (Meaning.rereads _ meaning)⟩

namespace Node

/-- A node with a node below it, with a node below that, and so on. -/
def tower : Nat → Node
  | 0 => .mk .command "" [] none none
  | height + 1 => .mk .control "" [.ofNodes "body" [tower height]] none none

/-- Each block of a tower nests four levels deeper. -/
theorem nesting_tower (height : Nat) : (tower height).encode.nesting = 4 * height + 2 := by
  induction height with
  | zero => rfl
  | succ height ih =>
    have hparameter : (Parameter.ofNodes "body" [tower height]).encode.nesting =
        (tower height).encode.nesting + 2 := by
      simp [Parameter.ofNodes, Parameter.encode, encodeNodes, memberIfPresent, nesting,
        nestingMembers, nestingItems]
    have hnode : (tower (height + 1)).encode.nesting =
        (Parameter.ofNodes "body" [tower height]).encode.nesting + 2 := by
      simp [tower, encode, encodeParameters, memberIfPresent, nesting, nestingMembers,
        nestingItems]
    omega

/-- So 31 levels of nodes below the first are read back, and no more. -/
theorem ofText_tower (height : Nat) : ofText (tower height).encode.text =
    if height ≤ 31 then .ok (tower height) else .error .malformed := by
  have hlimit : (tower height).encode.nesting ≤ nestingLimit ↔ height ≤ 31 := by
    rw [nesting_tower, nestingLimit]
    omega
  rw [ofText, decodeText_text (Node.rereads _ (tower height))]
  simp only [hlimit]

end Node

end ShellComposer
