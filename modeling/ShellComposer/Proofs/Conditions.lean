import ShellComposer.Proofs.GraphRuns

/-!
# When a block can be linked

A block is plugged into a slot or put behind another block when a list of conditions holds.  They
are looked at one after the other, and the first that does not hold is the one that is reported.
The last condition keeps a block out of itself: the program walks upwards from the place and looks
for the block, where what matters is everything that would travel downwards with the block, that is
what its slots hold, the blocks that follow it, and what the slots of these hold, at any depth.

Main results:

- Inductive relation `Below` and theorem `WellLinked.below_iff`: what travels with a block is what
  links lead to from it.
- Structure `Condition` and inductive relation `FirstFailing`: conditions looked at in order.
- Structure `Decides` and theorem `Decides.bind`: conditions of things done one after the other.
- Definitions `slotConditions`, `nextConditions` and theorem `link_succeeds_iff`: when the two edits
  succeed, and what they report otherwise.
-/

namespace ShellComposer

open BlockGraph Relation

variable {g g' : BlockGraph} {id top parent previous child : BlockId} {slot : String}

/-! ## What travels with a block -/

namespace BlockGraph

/-- The blocks that travel with a block: those that follow it, and those that its slots and the
slots of blocks that travel with it hold. -/
inductive Below (g : BlockGraph) (top : BlockId) : BlockId → Prop where
  | follower {id : BlockId} (after : id ∈ (g.chainFrom top).tail) : Below g top id
  | held {id : BlockId} {slot : String} (inside : id ∈ g.slotChain top slot) : Below g top id
  | deeper {owner id : BlockId} {slot : String} (above : Below g top owner)
      (inside : id ∈ g.slotChain owner slot) : Below g top id

/-- Behind the start of an orbit is what at least one step leads to. -/
theorem Orbit.mem_tail_iff {step : BlockId → Option BlockId} {xs : List BlockId}
    (h : Orbit step top xs) : id ∈ xs.tail ↔ TransGen (Steps step) top id := by
  rw [TransGen.head'_iff]
  cases h with
  | last stop =>
    constructor
    · intro hmem
      simp at hmem
    · rintro ⟨first, hfirst, -⟩
      simp [Steps, stop] at hfirst
  | more go onward =>
    rw [List.tail_cons, onward.mem_iff]
    constructor
    · intro hpath
      exact ⟨_, go, hpath⟩
    · rintro ⟨first, hfirst, hpath⟩
      obtain rfl := Option.some.inj (go.symm.trans hfirst)
      exact hpath

namespace WellLinked

/-- Behind the first block of a chain are those that one comes to by going on from it. -/
theorem mem_tail_chainFrom_iff (h : g.WellLinked) (htop : g.contains top = true) :
    id ∈ (g.chainFrom top).tail ↔ TransGen (Steps g.next) top id :=
  (h.chain_orbit htop).mem_tail_iff

/-- The block that follows one that travels along travels along as well. -/
theorem below_next {next : BlockId} (h : g.WellLinked) (htop : g.contains top = true)
    (hbelow : g.Below top id) (hlink : ⟨id, .next, next⟩ ∈ g.links) : g.Below top next := by
  cases hbelow with
  | follower after =>
    have hpath := (h.mem_tail_chainFrom_iff htop).1 after
    exact .follower ((h.mem_tail_chainFrom_iff htop).2 (hpath.tail (h.steps_next_iff.2 hlink)))
  | held inside => exact .held (h.next_mem_onward inside hlink)
  | deeper above inside => exact .deeper above (h.next_mem_onward inside hlink)

/-- What travels with a block is what links lead to from it. -/
theorem below_iff (h : g.WellLinked) (htop : g.contains top = true) :
    g.Below top id ↔ TransGen g.Leads top id := by
  constructor
  · intro hbelow
    induction hbelow with
    | follower after =>
      have hpath := (h.mem_tail_chainFrom_iff htop).1 after
      exact TransGen.mono (fun _ _ hstep => ⟨.next, mem_links_of_target? hstep⟩) _ _ hpath
    | held inside => exact h.leads_of_mem_slotChain inside
    | deeper _ inside ih => exact ih.trans (h.leads_of_mem_slotChain inside)
  · intro hpath
    induction hpath with
    | single hleads =>
      rcases hleads with ⟨outlet, hlink⟩
      cases outlet with
      | slot name => exact .held (h.mem_onward_of_link hlink)
      | next =>
        have hstep : Steps g.next top _ := h.steps_next_iff.2 hlink
        exact .follower ((h.mem_tail_chainFrom_iff htop).2 (.single hstep))
    | tail _ hleads ih =>
      rcases hleads with ⟨outlet, hlink⟩
      cases outlet with
      | slot name => exact .deeper ih (h.mem_onward_of_link hlink)
      | next => exact h.below_next htop ih hlink

/-- The walk upwards from a place passes a block exactly when the place is the block or travels with
it. -/
theorem isAncestor_iff_below {place : BlockId} (h : g.WellLinked) (htop : g.contains top = true)
    (hplace : g.contains place = true) :
    g.isAncestor top place = true ↔ place = top ∨ g.Below top place := by
  rw [h.isAncestor_iff hplace, reflTransGen_iff_eq_or_transGen, h.below_iff htop]

end WellLinked

end BlockGraph

/-! ## Conditions looked at in order -/

/-- A condition, and the code and block that are reported when it does not hold. -/
structure Condition where
  holds : Prop
  code : String
  block : BlockId

/-- Whether a fault reports that a condition does not hold. -/
def Condition.ReportedBy (condition : Condition) (fault : Fault) : Prop :=
  fault.report.code = condition.code ∧ fault.report.block = some condition.block

/-- The first of some conditions that does not hold. -/
inductive FirstFailing : List Condition → Condition → Prop where
  | here {condition : Condition} {rest : List Condition} (fails : ¬ condition.holds) :
      FirstFailing (condition :: rest) condition
  | later {condition failing : Condition} {rest : List Condition} (holds : condition.holds)
      (first : FirstFailing rest failing) : FirstFailing (condition :: rest) failing

namespace FirstFailing

variable {conditions more : List Condition} {condition failing : Condition}

/-- What fails first is one of the conditions. -/
theorem mem (h : FirstFailing conditions failing) : failing ∈ conditions := by
  induction h with
  | here _ => exact List.mem_cons_self
  | later _ _ ih => exact List.mem_cons_of_mem _ ih

/-- What fails first does fail. -/
theorem fails (h : FirstFailing conditions failing) : ¬ failing.holds := by
  induction h with
  | here fails => exact fails
  | later _ _ ih => exact ih

/-- There is only one first condition that does not hold. -/
theorem unique {failing' : Condition} (h : FirstFailing conditions failing)
    (h' : FirstFailing conditions failing') : failing = failing' := by
  induction h with
  | here fails =>
    cases h' with
    | here _ => rfl
    | later holds _ => exact absurd holds fails
  | later holds _ ih =>
    cases h' with
    | here fails => exact absurd holds fails
    | later _ first => exact ih first

/-- What fails first does so whatever conditions come later. -/
theorem append_left (h : FirstFailing conditions failing) :
    FirstFailing (conditions ++ more) failing := by
  induction h with
  | here fails => exact .here fails
  | later holds _ ih => exact .later holds ih

/-- Conditions that hold may come before the one that fails first. -/
theorem append_right (hall : ∀ condition ∈ conditions, condition.holds)
    (h : FirstFailing more failing) : FirstFailing (conditions ++ more) failing := by
  induction conditions with
  | nil => exact h
  | cons first rest ih =>
    refine .later (hall first List.mem_cons_self) (ih fun condition hmem => ?_)
    exact hall condition (List.mem_cons_of_mem _ hmem)

end FirstFailing

/-- Conditions decide how something ends: it succeeds only if all of them hold, and otherwise
reports the first that does not. -/
structure Decides {α : Type} (conditions : List Condition) (result : Except Fault α) : Prop where
  all_hold : ∀ value, result = .ok value → ∀ condition ∈ conditions, condition.holds
  reported : ∀ fault, result = .error fault →
    ∃ condition, FirstFailing conditions condition ∧ condition.ReportedBy fault

namespace Decides

variable {α β : Type} {conditions more : List Condition} {condition : Condition}
variable {first : Except Fault α} {second : α → Except Fault β} {result : Except Fault α}

/-- Something that may fail and looks at one condition only. -/
theorem single (hok : ∀ value, result = .ok value → condition.holds)
    (hfault : ∀ fault, result = .error fault → ¬ condition.holds ∧ condition.ReportedBy fault) :
    Decides [condition] result := by
  refine ⟨fun value hvalue other hmem => ?_, fun fault hrun => ?_⟩
  · rw [List.mem_singleton] at hmem
    exact hmem ▸ hok value hvalue
  · rcases hfault fault hrun with ⟨hfails, hreports⟩
    exact ⟨condition, .here hfails, hreports⟩

/-- Of two things done one after the other, the second looks at its conditions when those of the
first hold. -/
theorem bind (h : Decides conditions first)
    (hmore : ∀ value, first = .ok value → Decides more (second value)) :
    Decides (conditions ++ more) (first >>= second) := by
  cases hfirst : first with
  | error fault =>
    refine ⟨fun value hvalue => ?_, fun fault' hfault => ?_⟩
    · simp [Bind.bind, Except.bind] at hvalue
    · obtain rfl : fault = fault' := Except.error.inj hfault
      rcases h.reported fault hfirst with ⟨condition, hfails, hreports⟩
      exact ⟨condition, hfails.append_left, hreports⟩
  | ok value =>
    have hall := h.all_hold value hfirst
    have hsecond := hmore value hfirst
    refine ⟨fun result hresult => ?_, fun fault hfault => ?_⟩
    · intro condition hmem
      rcases List.mem_append.1 hmem with hmem | hmem
      · exact hall condition hmem
      · exact hsecond.all_hold result hresult condition hmem
    · rcases hsecond.reported fault hfault with ⟨condition, hfails, hreports⟩
      exact ⟨condition, hfails.append_right hall, hreports⟩

/-- The first thing done looks at one condition only. -/
theorem bind_single (h : Decides [condition] first)
    (hmore : ∀ value, first = .ok value → Decides more (second value)) :
    Decides (condition :: more) (first >>= second) :=
  h.bind hmore

/-- A result is made without looking at any condition. -/
theorem done (value : α) : Decides [] (.ok value) :=
  ⟨fun _ _ _ hmem => absurd hmem List.not_mem_nil, fun _ hfault => by simp at hfault⟩

/-- A condition that holds can be looked at before all others. -/
theorem cons_of_holds (hholds : condition.holds) (h : Decides conditions result) :
    Decides (condition :: conditions) result := by
  refine ⟨fun value hvalue other hmem => ?_, fun fault hfault => ?_⟩
  · rcases List.mem_cons.1 hmem with rfl | hmem
    · exact hholds
    · exact h.all_hold value hvalue other hmem
  · rcases h.reported fault hfault with ⟨failing, hfails, hreports⟩
    exact ⟨failing, .later hholds hfails, hreports⟩

/-- A condition that fails is reported, whatever would be looked at after it. -/
theorem of_fails {fault : Fault} (hfails : ¬ condition.holds)
    (hreports : condition.ReportedBy fault) :
    Decides (condition :: conditions) (.error fault : Except Fault α) := by
  refine ⟨fun value hvalue => by simp at hvalue, fun fault' hfault => ?_⟩
  obtain rfl : fault = fault' := Except.error.inj hfault
  exact ⟨condition, .here hfails, hreports⟩

/-- What conditions decide succeeds exactly when all of them hold. -/
theorem succeeds_iff (h : Decides conditions result) :
    (∃ value, result = .ok value) ↔ ∀ condition ∈ conditions, condition.holds := by
  constructor
  · rintro ⟨value, hvalue⟩
    exact h.all_hold value hvalue
  · intro hall
    cases hresult : result with
    | ok value => exact ⟨value, rfl⟩
    | error fault =>
      rcases h.reported fault hresult with ⟨condition, hfails, -⟩
      exact absurd (hall condition hfails.mem) hfails.fails

/-- What conditions decide reports the first that does not hold. -/
theorem reports {failing : Condition} (h : Decides conditions result)
    (hfails : FirstFailing conditions failing) :
    ∃ fault, result = .error fault ∧ failing.ReportedBy fault := by
  cases hresult : result with
  | ok value => exact absurd (h.all_hold value hresult failing hfails.mem) hfails.fails
  | error fault =>
    rcases h.reported fault hresult with ⟨condition, hfirst, hreports⟩
    obtain rfl := hfirst.unique hfails
    exact ⟨fault, rfl, hreports⟩

end Decides

/-! ## The single checks -/

namespace BlockGraph

/-- The block to be moved is not the script, and it is there. -/
def movableConditions (g : BlockGraph) (child : BlockId) : List Condition :=
  [⟨child ≠ root, "G003", child⟩, ⟨g.contains child = true, "G002", child⟩]

/-- The place is neither the block to be moved nor a block that would travel with it. -/
def outsideCondition (g : BlockGraph) (place child : BlockId) : Condition :=
  ⟨place ≠ child ∧ ¬ g.Below child place, "G005", child⟩

/-- The block to be moved shows the tag that an outlet asks for. -/
def fitsCondition (g : BlockGraph) (place : BlockId) (outlet : Outlet) (child : BlockId) :
    Condition :=
  ⟨g.Fits ⟨place, outlet, child⟩, "G004", child⟩

/-- Whether a block may be moved is decided by the conditions on moving. -/
theorem decides_ensureMovable (g : BlockGraph) (child : BlockId) :
    Decides (g.movableConditions child) (g.ensureMovable child) := by
  unfold movableConditions ensureMovable
  by_cases hroot : child = root
  · rw [if_pos (beq_iff_eq.2 hroot)]
    exact .of_fails (fun hne => hne hroot) ⟨rfl, rfl⟩
  · rw [if_neg (fun hsame => hroot (beq_iff_eq.1 hsame))]
    refine .cons_of_holds hroot ?_
    by_cases hthere : g.contains child = true
    · rw [if_pos hthere]
      exact .single (fun _ _ => hthere) (fun _ hfault => by simp at hfault)
    · rw [if_neg hthere]
      exact .of_fails hthere ⟨rfl, rfl⟩

/-- Looking up a block is decided by whether it is there. -/
theorem decides_block (g : BlockGraph) (id : BlockId) :
    Decides [⟨g.contains id = true, "G002", id⟩] (g.block id) := by
  unfold BlockGraph.block
  cases hblock : g.get? id with
  | none =>
    refine .of_fails (fun hthere => ?_) ⟨rfl, rfl⟩
    rcases contains_iff.1 hthere with ⟨block, hsome⟩
    simp [hblock] at hsome
  | some block =>
    exact .single (fun _ _ => contains_iff.2 ⟨block, hblock⟩) (fun _ hfault => by simp at hfault)

/-- Whether a block fits is looked at when it is there and the outlet asks for a tag. -/
theorem decides_ensureFits {place : BlockId} {outlet : Outlet} {tag : Tag}
    (hasked : g.tagAsked place outlet = some tag) (hchild : g.contains child = true) :
    Decides [g.fitsCondition place outlet child] (g.ensureFits tag child) := by
  rcases contains_iff.1 hchild with ⟨block, hblock⟩
  have hfits : g.Fits ⟨place, outlet, child⟩ ↔ g.tagShown child = some tag := by
    constructor
    · rintro ⟨tag', hasked', hshown⟩
      obtain rfl : tag = tag' := Option.some.inj (hasked.symm.trans hasked')
      exact hshown
    · intro hshown
      exact ⟨tag, hasked, hshown⟩
  refine .single (fun value hvalue => hfits.2 (ensureFits_eq_ok_iff.1 hvalue)) ?_
  intro fault hfault
  have hne : g.tagShown child ≠ some tag := by
    intro hshown
    have hvalue : g.ensureFits tag child = .ok () := ensureFits_eq_ok_iff.2 hshown
    simp [hvalue] at hfault
  refine ⟨fun hholds => hne (hfits.1 hholds), ?_⟩
  rw [tagShown_eq hblock] at hne
  simp only [ensureFits, BlockGraph.block, hblock, bind, Except.bind, if_neg hne] at hfault
  obtain rfl := Except.error.inj hfault
  exact ⟨rfl, rfl⟩

/-- Whether a place is outside a block is decided by whether the block leads to it. -/
theorem WellLinked.decides_ensureOutside {place : BlockId} (h : g.WellLinked)
    (hchild : g.contains child = true) (hplace : g.contains place = true) :
    Decides [g.outsideCondition place child] (g.ensureOutside child place) := by
  have hwalk := h.isAncestor_iff_below hchild hplace
  unfold ensureOutside
  by_cases hinside : g.isAncestor child place = true
  · rw [if_pos hinside]
    refine .of_fails (fun houtside => ?_) ⟨rfl, rfl⟩
    rcases hwalk.1 hinside with hsame | hbelow
    · exact houtside.1 hsame
    · exact houtside.2 hbelow
  · rw [if_neg hinside]
    refine .single (fun _ _ => ?_) (fun _ hfault => by simp at hfault)
    constructor
    · exact fun hsame => hinside (hwalk.2 (.inl hsame))
    · exact fun hbelow => hinside (hwalk.2 (.inr hbelow))

/-! ## The two edits -/

/-- What has to hold, in order, for a block to be plugged into a slot. -/
def slotConditions (g : BlockGraph) (parent : BlockId) (slot : String) (child : BlockId) :
    List Condition :=
  g.movableConditions child ++
    [⟨g.contains parent = true, "G002", parent⟩,
      ⟨∃ owner, g.get? parent = some owner ∧ slot ∈ owner.slots.map Slot.name, "G006", parent⟩,
      g.fitsCondition parent (.slot slot) child,
      g.outsideCondition parent child]

/-- What has to hold, in order, for a block to be put behind another one. -/
def nextConditions (g : BlockGraph) (previous child : BlockId) : List Condition :=
  g.movableConditions child ++
    [⟨g.contains previous = true, "G002", previous⟩,
      ⟨∃ before, g.get? previous = some before ∧ before.kind ≠ .script, "G004", previous⟩,
      g.fitsCondition previous .next child,
      g.outsideCondition previous child]

/-- A slot is found under a name exactly when the block has one of that name. -/
theorem slot?_eq_none_iff {owner : Block} :
    owner.slot? slot = none ↔ slot ∉ owner.slots.map Slot.name := by
  rw [Block.slot?, List.find?_eq_none, List.mem_map]
  constructor
  · rintro hnone ⟨place, hmem, hname⟩
    exact hnone place hmem (beq_iff_eq.2 hname)
  · intro hnone place hmem hname
    exact hnone ⟨place, hmem, beq_iff_eq.1 hname⟩

/-- Only the script shows no tag. -/
theorem tag?_eq_none_iff {kind : BlockKind} : kind.tag? = none ↔ kind = .script := by
  cases kind <;> simp [BlockKind.tag?]

/-- The last checks of both edits, once the tag that is asked for is known. -/
theorem WellLinked.decides_fitting {α : Type} {place : BlockId} {outlet : Outlet} {tag : Tag}
    {value : α} (h : g.WellLinked) (hchild : g.contains child = true)
    (hplace : g.contains place = true) (hasked : g.tagAsked place outlet = some tag) :
    Decides [g.fitsCondition place outlet child, g.outsideCondition place child]
      (do g.ensureFits tag child; g.ensureOutside child place; return value) := by
  refine (decides_ensureFits hasked hchild).bind_single fun _ _ => ?_
  exact (h.decides_ensureOutside hchild hplace).bind_single fun _ _ => .done value

/-- Attaching a block to a slot is decided by its conditions, and the first that fails is reported.
-/
theorem WellLinked.decides_attach (h : g.WellLinked) (parent : BlockId) (slot : String)
    (child : BlockId) :
    Decides (g.slotConditions parent slot child) (g.attach parent slot child) := by
  unfold slotConditions attach
  refine (g.decides_ensureMovable child).bind fun _ hmovable => ?_
  have hchild := (ensureMovable_eq_ok_iff.1 hmovable).2
  refine (g.decides_block parent).bind_single fun owner howner => ?_
  rw [block_eq_ok_iff] at howner
  have hparent : g.contains parent = true := contains_iff.2 ⟨owner, howner⟩
  cases hslot : owner.slot? slot with
  | none =>
    refine .of_fails ?_ ⟨rfl, rfl⟩
    rintro ⟨owner', howner', hmem⟩
    obtain rfl := Option.some.inj (howner.symm.trans howner')
    exact slot?_eq_none_iff.1 hslot hmem
  | some place =>
    have hmem : slot ∈ owner.slots.map Slot.name := by
      by_contra hnone
      simp [slot?_eq_none_iff.2 hnone] at hslot
    refine .cons_of_holds ⟨owner, howner, hmem⟩ (h.decides_fitting hchild hparent ?_)
    rw [tagAsked_slot_eq howner, hslot, Option.map_some]

/-- Inserting a block behind another one is decided by its conditions in the same way. -/
theorem WellLinked.decides_insertAfter (h : g.WellLinked) (previous child : BlockId) :
    Decides (g.nextConditions previous child) (g.insertAfter previous child) := by
  unfold nextConditions insertAfter
  refine (g.decides_ensureMovable child).bind fun _ hmovable => ?_
  have hchild := (ensureMovable_eq_ok_iff.1 hmovable).2
  refine (g.decides_block previous).bind_single fun before hbefore => ?_
  rw [block_eq_ok_iff] at hbefore
  have hprevious : g.contains previous = true := contains_iff.2 ⟨before, hbefore⟩
  cases htag : before.kind.tag? with
  | none =>
    refine .of_fails ?_ ⟨rfl, rfl⟩
    rintro ⟨before', hbefore', hkind⟩
    obtain rfl := Option.some.inj (hbefore.symm.trans hbefore')
    exact hkind (tag?_eq_none_iff.1 htag)
  | some tag =>
    have hkind : before.kind ≠ .script := by
      intro hscript
      simp [tag?_eq_none_iff.2 hscript] at htag
    refine .cons_of_holds ⟨before, hbefore, hkind⟩ (h.decides_fitting hchild hprevious ?_)
    rw [tagAsked, tagShown_eq hbefore, htag]

end BlockGraph

/-- After any run of calls, a block is plugged into a slot or put behind another block exactly when
all conditions hold, and otherwise the first that does not hold is reported. -/
theorem link_succeeds_iff (calls : List GraphCall) (place child : BlockId) (slot : String) :
    ((∃ g, (afterCalls calls).attach place slot child = .ok g) ↔
      ∀ condition ∈ (afterCalls calls).slotConditions place slot child, condition.holds) ∧
    (∀ failing, FirstFailing ((afterCalls calls).slotConditions place slot child) failing →
      ∃ fault, (afterCalls calls).attach place slot child = .error fault ∧
        failing.ReportedBy fault) ∧
    ((∃ g, (afterCalls calls).insertAfter place child = .ok g) ↔
      ∀ condition ∈ (afterCalls calls).nextConditions place child, condition.holds) ∧
    (∀ failing, FirstFailing ((afterCalls calls).nextConditions place child) failing →
      ∃ fault, (afterCalls calls).insertAfter place child = .error fault ∧
        failing.ReportedBy fault) := by
  have hlinked := (sound_new.foldl_after calls).toWellLinked
  have hattach := hlinked.decides_attach place slot child
  have hinsert := hlinked.decides_insertAfter place child
  exact ⟨hattach.succeeds_iff, fun _ hfails => hattach.reports hfails,
    hinsert.succeeds_iff, fun _ hfails => hinsert.reports hfails⟩

end ShellComposer
