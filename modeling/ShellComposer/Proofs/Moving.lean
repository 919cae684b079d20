import ShellComposer.Proofs.Berths

/-!
# Stacks that move

A block that is plugged in somewhere takes the blocks that follow it along.  The chain it came from
ends before them, the chain it goes to has them all in one place, and what stood behind that place
stands behind them.  Nothing else moves.

Main results:

- Structure `Pluggable`: a stack of blocks can be put at an outlet.
- Theorem `Pluggable.target?_plug`: where links lead once it is put there.
- Theorems `Pluggable.chainAt_plug_slot`, `chainAt_plug_next` and `chainAt_plug_other`: the chains
  after that.
- Structure `Moved` and theorem `stack_moves`: what becomes of the chains when a block is plugged
  into a slot or put behind another block.
-/

namespace ShellComposer

open BlockGraph

namespace BlockGraph

open Relation

variable {g g' : BlockGraph} {a b id child previous owner head : BlockId}
variable {outlet outlet' : Outlet} {slot : String} {berth : Berth}

/-! ## Where links lead -/

/-- A new link decides what hangs from its outlet and nothing else. -/
theorem target?_addLink (g : BlockGraph) (source : BlockId) (outlet : Outlet) (target : BlockId) :
    (g.addLink ⟨source, outlet, target⟩).target? a outlet' =
      if source = a ∧ outlet = outlet' then some target else g.target? a outlet' := by
  unfold target? addLink
  rw [List.find?_cons]
  by_cases hsame : source = a ∧ outlet = outlet'
  · rcases hsame with ⟨rfl, rfl⟩
    simp
  · have hother : (source == a && outlet == outlet') = false := by
      rw [← Bool.not_eq_true, Bool.and_eq_true, beq_iff_eq, beq_iff_eq]
      exact hsame
    simp only [hother, if_neg hsame]

/-- Letting go of what hangs from one outlet leaves the others as they are. -/
theorem target?_dropOutlet (hother : ¬(id = a ∧ outlet = outlet')) :
    (g.dropOutlet id outlet).target? a outlet' = g.target? a outlet' := by
  unfold target? dropOutlet
  rw [List.find?_filter]
  refine congrArg (Option.map Link.target) (congrArg (List.find? · g.links) ?_)
  funext link
  by_cases hlink : (link.source == a && link.outlet == outlet') = true
  · have hends := hlink
    rw [Bool.and_eq_true, beq_iff_eq, beq_iff_eq] at hends
    have hkept : (link.source == id && link.outlet == outlet) = false := by
      rw [← Bool.not_eq_true, Bool.and_eq_true, beq_iff_eq, beq_iff_eq, hends.1, hends.2]
      exact fun hboth => hother ⟨hboth.1.symm, hboth.2.symm⟩
    simp [hlink, hkept]
  · simp [hlink]

/-- A walk passes the same places where all of them lead as they did. -/
theorem walk_congr {step step' : BlockId → Option BlockId} {n : Nat}
    (hsame : ∀ b ∈ walk step n a, step' b = step b) : walk step' n a = walk step n a := by
  induction n generalizing a with
  | zero => rfl
  | succ n ih =>
    rw [walk] at hsame
    rw [walk, walk, hsame a List.mem_cons_self]
    cases hstep : step a with
    | none => rfl
    | some after =>
      rw [hstep] at hsame
      exact congrArg _ (ih fun b hb => hsame b (List.mem_cons_of_mem _ hb))

/-- Nothing leads to a block that hangs nowhere. -/
theorem Sound.parent_eq_none_iff_target (h : g.Sound) :
    g.parent id = none ↔ ∀ a outlet, g.target? a outlet ≠ some id := by
  constructor
  · intro hloose a outlet hread
    exact parent_eq_none_iff.1 hloose _ (mem_links_of_target? hread) rfl
  · intro hnone
    cases hparent : g.parent id with
    | none => rfl
    | some place =>
      exact absurd (h.target?_eq_some_iff.2 (mem_links_of_parent hparent)) (hnone _ _)

/-! ## A stack put in -/

/-- A stack of blocks that hangs nowhere can be put at an outlet. -/
structure Pluggable (g : BlockGraph) (id : BlockId) (outlet : Outlet) (child : BlockId) : Prop where
  sound : g.Sound
  /-- Its first block shows the tag that the outlet asks for. -/
  fits : g.Fits ⟨id, outlet, child⟩
  /-- Nothing is above it. -/
  loose : g.parent child = none
  /-- It does not start with the script. -/
  movable : child ≠ root
  /-- The outlet is not one of its own, nor of what it holds. -/
  outside : ¬ ReflTransGen g.Leads child id

/-- A block that is cut off can be put wherever it fits, outside of what it takes along. -/
theorem Sound.pluggable_cut (h : g.Sound) (hne : child ≠ root)
    (hfits : g.Fits ⟨id, outlet, child⟩) (houtside : g.isAncestor child id = false) :
    (g.cut child).Pluggable id outlet child where
  sound := h.dropIncoming child
  fits := hfits
  loose := parent_dropIncoming_self
  movable := hne
  outside := by
    intro hpath
    have hback := ReflTransGen.mono leads_dropIncoming _ _ hpath
    rw [← h.isAncestor_iff (present_of_fits hfits).1, houtside] at hback
    exact Bool.false_ne_true hback

namespace Pluggable

variable (p : g.Pluggable id outlet child)

include p

/-- The block that is plugged in is there. -/
theorem contains_child : g.contains child = true :=
  (present_of_fits p.fits).2

/-- So is the block that it is plugged into. -/
theorem contains_place : g.contains id = true :=
  (present_of_fits p.fits).1

/-- A graph stays sound when a block is plugged in. -/
theorem sound_plug : (g.plug id outlet child).Sound :=
  p.sound.plug p.fits p.loose p.movable p.outside

/-- The place is none of the blocks that are moved. -/
theorem ne_place_of_mem (hmem : b ∈ g.chainFrom child) : b ≠ id := by
  rintro rfl
  exact p.outside (leads_of_follows ((p.sound.mem_chainFrom_iff p.contains_child).1 hmem))

/-- The last block of the stack is one of those that are moved. -/
theorem stackTail_mem : g.stackTail child ∈ g.chainFrom child :=
  (p.sound.mem_chainFrom_iff p.contains_child).2 (p.sound.stackTail_spec p.contains_child).2

/-- The stack ends where it ended once it is linked to the outlet. -/
theorem stackTail_placed :
    ((g.dropOutlet id outlet).addLink ⟨id, outlet, child⟩).stackTail child =
      g.stackTail child := by
  have hchain : ((g.dropOutlet id outlet).addLink ⟨id, outlet, child⟩).chainFrom child =
      g.chainFrom child := by
    refine walk_congr fun b hb => ?_
    have hother : ¬(id = b ∧ outlet = .next) := fun hboth => p.ne_place_of_mem hb hboth.1.symm
    rw [next, target?_addLink, if_neg hother, target?_dropOutlet hother, next]
  rw [stackTail, hchain, stackTail]

/-- The outlet leads to the stack, the end of the stack to what was at the outlet, and every other
outlet where it led. -/
theorem target?_plug : (g.plug id outlet child).target? a outlet' =
    if id = a ∧ outlet = outlet' then some child
    else if g.stackTail child = a ∧ .next = outlet' then g.target? id outlet
    else g.target? a outlet' := by
  have hplaced : ((g.dropOutlet id outlet).addLink ⟨id, outlet, child⟩).target? a outlet' =
      if id = a ∧ outlet = outlet' then some child else g.target? a outlet' := by
    rw [target?_addLink]
    split
    · rfl
    · rename_i hother
      rw [target?_dropOutlet hother]
  have hend := (p.sound.stackTail_spec p.contains_child).1
  rw [plug]
  cases hread : g.target? id outlet with
  | none =>
    simp only [hplaced]
    -- the end of the stack led nowhere before, and leads nowhere now
    refine if_congr Iff.rfl rfl ?_
    split
    · rename_i htail
      rw [← htail.1, ← htail.2]
      exact hend
    · rfl
  | some displaced =>
    simp only [p.stackTail_placed, target?_addLink _ (g.stackTail child), hplaced]
    by_cases htail : g.stackTail child = a ∧ .next = outlet'
    · have hother : ¬(id = a ∧ outlet = outlet') := fun hboth =>
        p.ne_place_of_mem p.stackTail_mem (htail.1.trans hboth.1.symm)
      rw [if_pos htail, if_neg hother, if_pos htail]
    · rw [if_neg htail, if_neg htail]

/-- The block hangs from its new place. -/
theorem target?_plug_self : (g.plug id outlet child).target? id outlet = some child := by
  rw [p.target?_plug, if_pos ⟨rfl, rfl⟩]

/-- What hung there before follows the last block that was moved. -/
theorem target?_plug_tail :
    (g.plug id outlet child).next (g.stackTail child) = g.target? id outlet := by
  have hother : ¬(id = g.stackTail child ∧ outlet = .next) := fun hboth =>
    p.ne_place_of_mem p.stackTail_mem hboth.1.symm
  rw [next, p.target?_plug, if_neg hother, if_pos ⟨rfl, rfl⟩]

/-- Beside the outlet and the end of the stack, the same blocks follow each other. -/
theorem next_plug (hplace : ¬(id = b ∧ outlet = .next)) (htail : b ≠ g.stackTail child) :
    (g.plug id outlet child).next b = g.next b := by
  rw [next, p.target?_plug, if_neg hplace, if_neg fun hboth => htail hboth.1.symm, next]

/-- The same blocks hang nowhere, but for the first of the stack. -/
theorem parent_plug_eq_none_iff :
    (g.plug id outlet child).parent b = none ↔ g.parent b = none ∧ b ≠ child := by
  rw [p.sound_plug.parent_eq_none_iff_target, p.sound.parent_eq_none_iff_target]
  constructor
  · intro hnone
    refine ⟨fun a from' hread => ?_, ?_⟩
    · by_cases hplace : id = a ∧ outlet = from'
      · rcases hplace with ⟨rfl, rfl⟩
        exact hnone _ .next (p.target?_plug_tail.trans hread)
      · refine hnone a from' ?_
        rw [p.target?_plug, if_neg hplace, if_neg, hread]
        rintro ⟨rfl, rfl⟩
        exact absurd (hread.symm.trans (p.sound.stackTail_spec p.contains_child).1)
          (Option.some_ne_none b)
    · rintro rfl
      exact hnone _ _ p.target?_plug_self
  · rintro ⟨hnone, hne⟩ a from' hread
    rw [p.target?_plug] at hread
    split at hread
    · exact hne (Option.some.inj hread).symm
    · split at hread
      · exact hnone _ _ hread
      · exact hnone _ _ hread

/-! ## Chains with the stack -/

/-- From its first block to its last, the stack leads on to what was at the outlet. -/
theorem stretch_plug_stack : Stretch (g.plug id outlet child).next (some child)
    (g.chainFrom child) (g.target? id outlet) := by
  have hlast : g.chainFrom child = (g.chainFrom child).dropLast ++ [g.stackTail child] := by
    rcases (p.sound.chain_orbit p.contains_child).exists_getLast with ⟨tail, hget, -, -⟩
    rw [stackTail, hget, Option.getD_some]
    exact (List.dropLast_append_getLast? tail hget).symm
  have hnodup := p.sound.nodup_chainFrom child
  have hstretch : Stretch g.next (some child) (g.chainFrom child) none :=
    traces_iff_stretch.1 (p.sound.chain_orbit p.contains_child)
  rw [hlast, List.nodup_append] at hnodup
  rw [hlast] at hstretch ⊢
  rw [← p.target?_plug_tail]
  refine hstretch.redirect fun b hb => p.next_plug (fun hboth => ?_) ?_
  · exact p.ne_place_of_mem (List.dropLast_subset _ hb) hboth.1.symm
  · exact hnodup.2.2 b hb _ (List.mem_singleton.2 rfl)

/-- What is in another chain is not in the stack. -/
theorem ne_stackTail_of_mem (hne : berth ≠ .loose child) (hmem : b ∈ g.chainAt berth) :
    b ≠ g.stackTail child := by
  rintro rfl
  have hstack := p.stackTail_mem
  rw [← chainAt_loose p.contains_child p.loose] at hstack
  exact hne (p.sound.berth_eq_of_mem hmem hstack)

/-- A chain that starts where it did and passes no changed link is as it was. -/
theorem chainAt_plug_of_headAt (hne : berth ≠ .loose child)
    (hhead : (g.plug id outlet child).headAt berth = g.headAt berth)
    (hplace : ∀ b ∈ g.chainAt berth, ¬(id = b ∧ outlet = .next)) :
    (g.plug id outlet child).chainAt berth = g.chainAt berth := by
  refine (p.sound_plug.traces_chainAt berth).unique (traces_iff_stretch.2 ?_)
  rw [hhead]
  refine (traces_iff_stretch.1 (p.sound.traces_chainAt berth)).congr fun b hb => ?_
  exact p.next_plug (hplace b hb) (p.ne_stackTail_of_mem hne hb)

/-- Beside the slot that the stack is put in and its own berth, chains start where they did. -/
theorem headAt_plug (hne : berth ≠ .loose child) (hplace : ∀ name, outlet = .slot name →
    berth ≠ .slot id name) : (g.plug id outlet child).headAt berth = g.headAt berth := by
  cases berth with
  | slot owner slot =>
    rw [headAt, slotHead, p.target?_plug, if_neg, if_neg (by simp), headAt, slotHead]
    rintro ⟨rfl, houtlet⟩
    exact hplace slot houtlet rfl
  | loose head =>
    have hhead : head ≠ child := fun hsame => hne (congrArg Berth.loose hsame)
    simp only [headAt, p.parent_plug_eq_none_iff, contains, blocks_plug, hhead, ne_eq,
      not_false_eq_true, and_true]
    rfl

/-- The stack has no berth of its own any more. -/
theorem chainAt_plug_loose : (g.plug id outlet child).chainAt (.loose child) = [] :=
  chainAt_loose_eq_nil fun hloose => (p.parent_plug_eq_none_iff.1 hloose).2 rfl

end Pluggable

/-- The berth of the chain that an outlet is in. -/
def landing (g : BlockGraph) (id : BlockId) : Outlet → Berth
  | .slot name => .slot id name
  | .next => g.berthOf id

namespace Pluggable

/-- The outlet is not in the chain of the stack. -/
theorem landing_ne (p : g.Pluggable id outlet child) : g.landing id outlet ≠ .loose child := by
  cases outlet with
  | slot name => exact Berth.noConfusion
  | next =>
    intro hsame
    have hmem := (p.sound.mem_chainAt_iff p.contains_place).2 hsame
    rw [chainAt_loose p.contains_child p.loose] at hmem
    exact p.ne_place_of_mem hmem rfl

/-- In a slot the stack stands before what the slot held. -/
theorem chainAt_plug_slot (p : g.Pluggable id (.slot slot) child) :
    (g.plug id (.slot slot) child).chainAt (.slot id slot) =
      g.chainFrom child ++ g.chainAt (.slot id slot) := by
  refine (p.sound_plug.traces_chainAt _).unique (traces_iff_stretch.2 ?_)
  rw [headAt, slotHead, p.target?_plug_self, stretch_append]
  refine ⟨_, p.stretch_plug_stack, ?_⟩
  refine (traces_iff_stretch.1 (p.sound.traces_chainAt (.slot id slot))).congr fun b hb => ?_
  exact p.next_plug (by simp) (p.ne_stackTail_of_mem Berth.noConfusion hb)

/-- Behind a block the stack stands before what followed the block. -/
theorem chainAt_plug_next (p : g.Pluggable id .next child) :
    ∃ before behind, g.chainAt (g.berthOf id) = before ++ [id] ++ behind ∧
      (g.plug id .next child).chainAt (g.berthOf id) =
        before ++ [id] ++ (g.chainFrom child ++ behind) := by
  have hmem : id ∈ g.chainAt (g.berthOf id) := (p.sound.mem_chainAt_iff p.contains_place).2 rfl
  have hne : g.berthOf id ≠ .loose child := p.landing_ne
  rcases List.append_of_mem hmem with ⟨before, behind, hsplit⟩
  rw [List.append_cons] at hsplit
  refine ⟨before, behind, hsplit, ?_⟩
  refine (p.sound_plug.traces_chainAt _).unique (traces_iff_stretch.2 ?_)
  have hchain := traces_iff_stretch.1 (p.sound.traces_chainAt (g.berthOf id))
  have hnodup := p.sound.nodup_chainAt (g.berthOf id)
  rw [hsplit] at hchain hnodup
  have htail : ∀ b ∈ before ++ [id] ++ behind, b ≠ g.stackTail child := fun b hb =>
    p.ne_stackTail_of_mem hne (by rw [hsplit]; exact hb)
  rcases stretch_append.1 hchain with ⟨middle, hfirst, hrest⟩
  obtain rfl : g.next id = middle := by
    rcases stretch_append.1 hfirst with ⟨_, -, -, hlast⟩
    exact hlast
  rw [p.headAt_plug hne (by simp), stretch_append]
  -- up to the block, then along the stack, then along what followed the block
  rw [List.nodup_append, List.nodup_append] at hnodup
  refine ⟨some child, ?_, stretch_append.2 ⟨g.next id, p.stretch_plug_stack, ?_⟩⟩
  · rw [← p.target?_plug_self]
    refine hfirst.redirect fun b hb => p.next_plug (fun hboth => ?_) ?_
    · exact hnodup.1.2.2 b hb id (List.mem_singleton.2 rfl) hboth.1.symm
    · exact htail b (List.mem_append_left _ (List.mem_append_left _ hb))
  · refine hrest.congr fun b hb => p.next_plug (fun hboth => ?_) ?_
    · exact hnodup.2.2 id (List.mem_append_right _ (List.mem_singleton.2 rfl)) b hb hboth.1
    · exact htail b (List.mem_append_right _ hb)

/-- Beside the chain that the stack is put in and its own berth, all chains are as they were. -/
theorem chainAt_plug_other (p : g.Pluggable id outlet child) (hne : berth ≠ .loose child)
    (hland : berth ≠ g.landing id outlet) :
    (g.plug id outlet child).chainAt berth = g.chainAt berth := by
  refine p.chainAt_plug_of_headAt hne (p.headAt_plug hne ?_) fun b hb hboth => ?_
  · rintro name rfl
    exact hland
  · rcases hboth with ⟨rfl, rfl⟩
    exact hland ((p.sound.mem_chainAt_iff p.contains_place).1 hb).symm

end Pluggable

/-! ## What has come of a block that moved -/

/-- A block has moved, with the blocks that follow it, to a place in the chain at a berth. -/
structure Moved (child : BlockId) (berth : Berth) (before behind : List BlockId)
    (g g' : BlockGraph) : Prop where
  /-- All blocks are there with their fields, and enabled or not as they were. -/
  blocks_eq : g'.blocks = g.blocks
  /-- The id for the next block is the same. -/
  nextId_eq : g'.nextId = g.nextId
  /-- The place parts the chain, without the blocks that move. -/
  place_eq : (g.chainAt berth).filter (· ∉ g.chainFrom child) = before ++ behind
  /-- At the place the chain has the blocks that moved, in their order. -/
  target_eq : g'.chainAt berth = before ++ (g.chainFrom child ++ behind)
  /-- Another chain that the block was in ended with the blocks that moved, and has lost them. -/
  source_eq : ∀ other, other ≠ berth → child ∈ g.chainAt other →
    g.chainAt other = g'.chainAt other ++ g.chainFrom child
  /-- Every other chain is as it was. -/
  other_eq : ∀ other, other ≠ berth → child ∉ g.chainAt other →
    g'.chainAt other = g.chainAt other
  /-- Every block is in the chain of one berth. -/
  one_berth : ∀ id, g'.contains id = true → ∃ home, ∀ other, id ∈ g'.chainAt other ↔ other = home
  /-- No block is in a chain twice. -/
  nodup : ∀ other, (g'.chainAt other).Nodup

/-- A block that is cut off and put at an outlet has moved there. -/
theorem Sound.moved (h : g.Sound) {before behind : List BlockId}
    (p : (g.cut child).Pluggable id outlet child) (hland : (g.cut child).landing id outlet = berth)
    (hplace : (g.cut child).chainAt berth = before ++ behind)
    (htarget : ((g.cut child).plug id outlet child).chainAt berth =
      before ++ ((g.cut child).chainFrom child ++ behind)) :
    Moved child berth before behind g ((g.cut child).plug id outlet child) := by
  have hchild : g.contains child = true := p.contains_child
  have hne : berth ≠ .loose child := hland ▸ p.landing_ne
  have hstack : (g.cut child).chainFrom child = g.chainFrom child :=
    (h.cutOff_cut hchild).following_eq
  have hother : ∀ other, other ≠ berth → other ≠ .loose child →
      ((g.cut child).plug id outlet child).chainAt other = (g.cut child).chainAt other :=
    fun other hberth hloose => p.chainAt_plug_other hloose (hland ▸ hberth)
  refine ⟨blocks_plug _ _ _ _, nextId_plug _ _ _ _, ?_, ?_, fun other hberth hmem => ?_,
    fun other hberth hnot => ?_, fun id hid => ?_, p.sound_plug.nodup_chainAt⟩
  · rw [← h.chainAt_cut hchild hne, hplace]
  · rw [htarget, hstack]
  · by_cases hloose : other = .loose child
    · -- the block was the first of a loose chain, of which nothing is left
      subst hloose
      rw [p.chainAt_plug_loose, List.nil_append, chainAt_loose hchild]
      by_contra hheld
      rw [chainAt_loose_eq_nil hheld] at hmem
      exact List.not_mem_nil hmem
    · rw [hother other hberth hloose]
      exact h.chainAt_cut_of_mem hloose hmem
  · by_cases hloose : other = .loose child
    · subst hloose
      rw [p.chainAt_plug_loose, chainAt_loose_eq_nil]
      intro hfree
      rw [chainAt_loose hchild hfree] at hnot
      exact hnot (h.mem_chainFrom_self hchild)
    · rw [hother other hberth hloose]
      exact h.chainAt_cut_of_not_mem hloose hnot
  · exact ⟨_, fun other => (p.sound_plug.mem_chainAt_iff hid).trans eq_comm⟩

/-- A block that is plugged into a slot stands there first. -/
theorem Sound.moved_attach (h : g.Sound) (hattach : g.attach owner slot child = .ok g') :
    ∃ behind, Moved child (.slot owner slot) [] behind g g' := by
  rcases attach_eq_ok_iff.1 hattach with ⟨hne, -, hfits, houtside, rfl⟩
  have p := h.pluggable_cut hne hfits houtside
  exact ⟨_, h.moved p rfl (List.nil_append _).symm p.chainAt_plug_slot⟩

/-- A block that is put behind another one stands right behind it. -/
theorem Sound.moved_insertAfter (h : g.Sound) (hinsert : g.insertAfter previous child = .ok g') :
    ∃ berth before behind, Moved child berth (before ++ [previous]) behind g g' := by
  rcases insertAfter_eq_ok_iff.1 hinsert with ⟨hne, -, hfits, houtside, rfl⟩
  have p := h.pluggable_cut hne hfits houtside
  rcases p.chainAt_plug_next with ⟨before, behind, hplace, htarget⟩
  exact ⟨_, before, behind, h.moved p rfl hplace htarget⟩

end BlockGraph

/-! ## After any calls -/

/-- Whatever calls came before, a block that is plugged into a slot stands there first, and a block
that is put behind another one stands right behind it, each with the blocks that follow it; the
chain it came from loses exactly these, and all else is as it was. -/
theorem stack_moves (calls : List GraphCall) (place child : BlockId) (slot : String) :
    (∀ g', (afterCalls calls).attach place slot child = .ok g' →
      ∃ behind, Moved child (.slot place slot) [] behind (afterCalls calls) g') ∧
    ∀ g', (afterCalls calls).insertAfter place child = .ok g' →
      ∃ berth before behind,
        Moved child berth (before ++ [place]) behind (afterCalls calls) g' := by
  have hsound : (afterCalls calls).Sound := BlockGraph.sound_new.foldl_after calls
  exact ⟨fun _ hattach => hsound.moved_attach hattach,
    fun _ hinsert => hsound.moved_insertAfter hinsert⟩

/-- A command with three options in its slot, and two loose options one behind the other. -/
def packedOptions : List GraphCall :=
  [.insert (.command "ls") [⟨optionsSlot, .option "ls"⟩] [], .insert (.option "ls") [] [],
    .insert (.option "ls") [] [], .insert (.option "ls") [] [], .insert (.option "ls") [] [],
    .insert (.option "ls") [] [], .attach 1 optionsSlot 2, .insertAfter 2 3, .insertAfter 3 4,
    .insertAfter 5 6]

/-- The last two options of the slot go to its start, and the loose ones behind its first. -/
theorem packedOptions_move :
    (∃ g' behind, (afterCalls packedOptions).attach 1 optionsSlot 3 = .ok g' ∧
      Moved 3 (.slot 1 optionsSlot) [] behind (afterCalls packedOptions) g' ∧
      g'.chainAt (.slot 1 optionsSlot) = [3, 4, 2]) ∧
    ∃ g' berth before behind, (afterCalls packedOptions).insertAfter 2 5 = .ok g' ∧
      Moved 5 berth (before ++ [2]) behind (afterCalls packedOptions) g' ∧
      g'.chainAt (.slot 1 optionsSlot) = [2, 5, 6, 3, 4] := by
  constructor
  · have hrun : ((afterCalls packedOptions).attach 1 optionsSlot 3).map
        (fun g => g.chainAt (.slot 1 optionsSlot)) = .ok [3, 4, 2] := by decide +kernel
    rcases Fault.map_eq_ok_iff.1 hrun with ⟨g', hattach, hchain⟩
    rcases (stack_moves packedOptions 1 3 optionsSlot).1 g' hattach with ⟨behind, hmoved⟩
    exact ⟨g', behind, hattach, hmoved, hchain⟩
  · have hrun : ((afterCalls packedOptions).insertAfter 2 5).map
        (fun g => g.chainAt (.slot 1 optionsSlot)) = .ok [2, 5, 6, 3, 4] := by decide +kernel
    rcases Fault.map_eq_ok_iff.1 hrun with ⟨g', hinsert, hchain⟩
    rcases (stack_moves packedOptions 2 5 optionsSlot).2 g' hinsert with
      ⟨berth, before, behind, hmoved⟩
    exact ⟨g', berth, before, behind, hinsert, hmoved, hchain⟩

end ShellComposer
