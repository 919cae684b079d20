import ShellComposer.Proofs.Detaching

/-!
# Berths of chains

A chain is held in a slot, or it is loose, and is then known by its first block.  Either way it has
a berth, and every block is in the chain of one berth.  An edit of links leaves most of a chain as
it is and leads on to another place where it ends, so chains are compared stretch by stretch.

Main results:

- Definition `Stretch`: the blocks passed on the way from a start to a stop.
- Theorems `stretch_append` and `Stretch.redirect`: stretches put together, and a stretch that leads
  on to another place.
- Inductive type `Berth` and definition `chainAt`: where chains are, and the chain there.
- Theorem `Sound.mem_chainAt_iff`: every block is in the chain of one berth.
- Theorems `Sound.chainAt_cut_of_mem` and `Sound.chainAt_cut`: what a block that is cut off takes
  along.
-/

namespace ShellComposer

namespace BlockGraph

open Relation

/-! ## Stretches -/

section Stretches

variable {step step' : BlockId → Option BlockId} {start stop : Option BlockId} {a : BlockId}
variable {xs ys : List BlockId}

/-- The blocks passed on the way from a start to a stop, which is where the last of them leads. -/
def Stretch (step : BlockId → Option BlockId) :
    Option BlockId → List BlockId → Option BlockId → Prop
  | start, [], stop => start = stop
  | start, a :: rest, stop => start = some a ∧ Stretch step (step a) rest stop

/-- A stretch goes on where another one stops. -/
theorem stretch_append : Stretch step start (xs ++ ys) stop ↔
    ∃ middle, Stretch step start xs middle ∧ Stretch step middle ys stop := by
  induction xs generalizing start with
  | nil => simp [Stretch]
  | cons a rest ih =>
    rw [List.cons_append, Stretch, ih]
    constructor
    · rintro ⟨hstart, middle, hfirst, hsecond⟩
      exact ⟨middle, ⟨hstart, hfirst⟩, hsecond⟩
    · rintro ⟨middle, ⟨hstart, hfirst⟩, hsecond⟩
      exact ⟨hstart, middle, hfirst, hsecond⟩

/-- All that is passed from a start is a stretch that leads no further. -/
theorem traces_iff_stretch : Traces step start xs ↔ Stretch step start xs none := by
  induction xs generalizing start with
  | nil =>
    cases start with
    | none => exact iff_of_true rfl rfl
    | some a =>
      refine iff_of_false (fun horbit => ?_) (Option.some_ne_none a)
      rcases Orbit.exists_cons horbit with ⟨rest, hcons⟩
      exact List.cons_ne_nil _ _ hcons.symm
  | cons a rest ih =>
    rw [Stretch, ← ih]
    cases start with
    | none =>
      refine iff_of_false (List.cons_ne_nil _ _) fun hboth => ?_
      exact absurd hboth.1.symm (Option.some_ne_none a)
    | some b =>
      constructor
      · intro horbit
        cases (show Orbit step b (a :: rest) from horbit) with
        | last hstop => exact ⟨rfl, by rw [hstop]; rfl⟩
        | more hgo honward => exact ⟨rfl, by rw [hgo]; exact honward⟩
      · rintro ⟨hstart, hrest⟩
        obtain rfl : b = a := Option.some.inj hstart
        cases hstep : step b with
        | none =>
          rw [hstep] at hrest
          obtain rfl : rest = [] := hrest
          exact Orbit.last hstep
        | some after =>
          rw [hstep] at hrest
          exact Orbit.more hstep hrest

/-- Where all blocks of a stretch lead as they did, the stretch is the same. -/
theorem Stretch.congr (h : Stretch step start xs stop) (hsame : ∀ a ∈ xs, step' a = step a) :
    Stretch step' start xs stop := by
  induction xs generalizing start with
  | nil => exact h
  | cons a rest ih =>
    refine ⟨h.1, ?_⟩
    rw [hsame a List.mem_cons_self]
    exact ih h.2 fun b hb => hsame b (List.mem_cons_of_mem _ hb)

/-- Where only the last block of a stretch leads somewhere else, so does the stretch. -/
theorem Stretch.redirect (h : Stretch step start (xs ++ [a]) stop)
    (hsame : ∀ b ∈ xs, step' b = step b) : Stretch step' start (xs ++ [a]) (step' a) := by
  rcases stretch_append.1 h with ⟨middle, hfirst, hlast⟩
  exact stretch_append.2 ⟨middle, hfirst.congr hsame, hlast.1, rfl⟩

end Stretches

variable {g : BlockGraph} {id head c owner : BlockId} {slot : String}

/-! ## Berths -/

/-- Where a chain is: in a slot, or loose, and then it is known by its first block. -/
inductive Berth where
  | slot (owner : BlockId) (slot : String)
  | loose (head : BlockId)
deriving DecidableEq

/-- The first block of the chain at a berth. -/
def headAt (g : BlockGraph) : Berth → Option BlockId
  | .slot owner slot => g.slotHead owner slot
  | .loose head => if g.contains head = true ∧ g.parent head = none then some head else none

/-- The chain at a berth, from its first to its last block. -/
def chainAt (g : BlockGraph) (berth : Berth) : List BlockId :=
  g.chain (g.headAt berth)

/-- The berth of the chain that a block is in. -/
def berthOf (g : BlockGraph) (id : BlockId) : Berth :=
  match g.parent (g.chainHead id) with
  | some (owner, .slot slot) => .slot owner slot
  | _ => .loose (g.chainHead id)

variable {berth berth' : Berth}

/-- A loose stack is headed by a block that is there and hangs from nothing. -/
theorem headAt_loose_eq_some_iff : g.headAt (.loose head) = some id ↔
    id = head ∧ g.contains head = true ∧ g.parent head = none := by
  rw [headAt]
  split
  · rename_i hloose
    simp [hloose, eq_comm]
  · rename_i hheld
    simp [hheld]

/-- The chain of a loose stack is the one that its head starts. -/
theorem chainAt_loose (hhead : g.contains head = true) (hloose : g.parent head = none) :
    g.chainAt (.loose head) = g.chainFrom head := by
  rw [chainAt, headAt_loose_eq_some_iff.2 ⟨rfl, hhead, hloose⟩, chain]

/-- A block that hangs somewhere is not the first of a loose chain. -/
theorem chainAt_loose_eq_nil (hheld : g.parent head ≠ none) : g.chainAt (.loose head) = [] := by
  rw [chainAt, headAt, if_neg fun hboth => hheld hboth.2, chain]

/-- The head of a berth is a block of the graph. -/
theorem Sound.contains_of_headAt (h : g.Sound) (hhead : g.headAt berth = some head) :
    g.contains head = true := by
  cases berth with
  | slot owner slot => exact (h.ends_present _ (mem_links_of_target? hhead)).2
  | loose top =>
    rcases headAt_loose_eq_some_iff.1 hhead with ⟨rfl, hthere, -⟩
    exact hthere

/-- The chain at a berth is all that is passed from its first block. -/
theorem Sound.traces_chainAt (h : g.Sound) (berth : Berth) :
    Traces g.next (g.headAt berth) (g.chainAt berth) := by
  unfold chainAt
  cases hhead : g.headAt berth with
  | none => rfl
  | some head => exact h.chain_orbit (h.contains_of_headAt hhead)

/-- The head of a berth follows no other block. -/
theorem Sound.previous_of_headAt (h : g.Sound) (hhead : g.headAt berth = some head) :
    g.previous head = none := by
  cases berth with
  | slot owner slot =>
    rw [previous, h.parent_eq_some_iff.2 (mem_links_of_target? hhead)]
  | loose top =>
    rcases headAt_loose_eq_some_iff.1 hhead with ⟨rfl, -, hloose⟩
    rw [previous, hloose]

/-- A chain has one berth only. -/
theorem Sound.berth_unique (h : g.Sound) (hhead : g.headAt berth = some head)
    (hhead' : g.headAt berth' = some head) : berth = berth' := by
  have hslot : ∀ {owner slot}, g.headAt (.slot owner slot) = some head →
      g.parent head = some (owner, .slot slot) := fun hread =>
    h.parent_eq_some_iff.2 (mem_links_of_target? hread)
  cases berth with
  | slot owner slot =>
    cases berth' with
    | slot owner' slot' =>
      have hsame := (hslot hhead).symm.trans (hslot hhead')
      simp only [Option.some.injEq, Prod.mk.injEq, Outlet.slot.injEq] at hsame
      rw [hsame.1, hsame.2]
    | loose top =>
      rcases headAt_loose_eq_some_iff.1 hhead' with ⟨rfl, -, hloose⟩
      exact absurd ((hslot hhead).symm.trans hloose) (Option.some_ne_none _)
  | loose top =>
    rcases headAt_loose_eq_some_iff.1 hhead with ⟨rfl, -, hloose⟩
    cases berth' with
    | slot owner' slot' =>
      exact absurd ((hslot hhead').symm.trans hloose) (Option.some_ne_none _)
    | loose top' => rw [(headAt_loose_eq_some_iff.1 hhead').1]

/-- The chain that a block is in starts at its berth. -/
theorem Sound.headAt_berthOf (h : g.Sound) (hid : g.contains id = true) :
    g.headAt (g.berthOf id) = some (g.chainHead id) := by
  rcases h.chainHead_spec hid with ⟨hfirst, hpath⟩
  have hthere : g.contains (g.chainHead id) = true := by
    rcases hpath.cases_head with heq | ⟨after, hstep, -⟩
    · rwa [heq]
    · exact (h.ends_present _ (mem_links_of_target? hstep)).1
  rw [berthOf]
  split
  · rename_i owner slot hparent
    exact h.target?_eq_some_iff.2 (mem_links_of_parent hparent)
  · rename_i hother
    refine headAt_loose_eq_some_iff.2 ⟨rfl, hthere, ?_⟩
    cases hparent : g.parent (g.chainHead id) with
    | none => rfl
    | some place =>
      rcases place with ⟨source, _ | _⟩
      · exact absurd hparent (hother _ _)
      · rw [previous, hparent] at hfirst
        exact absurd hfirst (Option.some_ne_none _)

/-- A block in the chain of a berth follows from the head of the berth. -/
theorem Sound.exists_headAt_of_mem (h : g.Sound) (hmem : id ∈ g.chainAt berth) :
    ∃ head, g.headAt berth = some head ∧ g.Follows head id := by
  unfold chainAt at hmem
  cases hhead : g.headAt berth with
  | none => simp [hhead, chain] at hmem
  | some head =>
    rw [hhead, chain, h.mem_chainFrom_iff (h.contains_of_headAt hhead)] at hmem
    exact ⟨head, rfl, hmem⟩

/-- What is in a chain is there. -/
theorem Sound.contains_of_mem_chainAt (h : g.Sound) (hmem : id ∈ g.chainAt berth) :
    g.contains id = true := by
  rcases h.exists_headAt_of_mem hmem with ⟨head, hhead, hpath⟩
  rcases hpath.cases_tail with rfl | ⟨before, -, hstep⟩
  · exact h.contains_of_headAt hhead
  · exact (h.ends_present _ (mem_links_of_target? hstep)).2

/-- Every block is in the chain of one berth. -/
theorem Sound.mem_chainAt_iff (h : g.Sound) (hid : g.contains id = true) :
    id ∈ g.chainAt berth ↔ g.berthOf id = berth := by
  constructor
  · intro hmem
    rcases h.exists_headAt_of_mem hmem with ⟨head, hhead, hpath⟩
    have hfirst := h.chainHead_eq hid (h.previous_of_headAt hhead) hpath
    exact h.berth_unique (hfirst ▸ h.headAt_berthOf hid) hhead
  · rintro rfl
    have hhead := h.headAt_berthOf hid
    rw [chainAt, hhead, chain, h.mem_chainFrom_iff (h.contains_of_headAt hhead)]
    exact (h.chainHead_spec hid).2

/-- A block has one berth only. -/
theorem Sound.berth_eq_of_mem (h : g.Sound) (hmem : id ∈ g.chainAt berth)
    (hmem' : id ∈ g.chainAt berth') : berth = berth' := by
  have hid := h.contains_of_mem_chainAt hmem
  exact ((h.mem_chainAt_iff hid).1 hmem).symm.trans ((h.mem_chainAt_iff hid).1 hmem')

/-- No block is in a chain twice. -/
theorem WellLinked.nodup_chainAt (h : g.WellLinked) (berth : Berth) :
    (g.chainAt berth).Nodup := by
  unfold chainAt
  cases g.headAt berth with
  | none => exact List.nodup_nil
  | some head => exact h.nodup_chainFrom head

/-! ## Parts of chains -/

/-- A chain ends with the chain from any of its blocks. -/
theorem Sound.exists_before_of_mem (h : g.Sound) (hmem : c ∈ g.chainAt berth) :
    ∃ before, c ∉ before ∧ g.chainAt berth = before ++ g.chainFrom c := by
  rcases List.append_of_mem hmem with ⟨before, behind, hsplit⟩
  have htraces := traces_iff_stretch.1 (h.traces_chainAt berth)
  rw [hsplit] at htraces
  rcases stretch_append.1 htraces with ⟨middle, -, hrest⟩
  obtain rfl : middle = some c := hrest.1
  have hchain : Traces g.next (some c) (g.chainFrom c) :=
    h.chain_orbit (h.contains_of_mem_chainAt hmem)
  have hbehind := hchain.unique (traces_iff_stretch.2 hrest)
  have hnodup := h.nodup_chainAt berth
  rw [hsplit, List.nodup_append] at hnodup
  refine ⟨before, fun hbefore => ?_, by rw [hbehind]; exact hsplit⟩
  exact hnodup.2.2 c hbefore c List.mem_cons_self rfl

/-- Blocks that follow a block are in the same chain. -/
theorem Sound.mem_chainAt_of_mem_chainFrom (h : g.Sound) (hc : g.contains c = true)
    (hmem : id ∈ g.chainFrom c) (hid : id ∈ g.chainAt berth) : c ∈ g.chainAt berth := by
  have hself : c ∈ g.chainAt (g.berthOf c) := (h.mem_chainAt_iff hc).2 rfl
  rcases h.exists_before_of_mem hself with ⟨before, -, hsplit⟩
  have hid' : id ∈ g.chainAt (g.berthOf c) := by
    rw [hsplit]
    exact List.mem_append_right _ hmem
  rwa [h.berth_eq_of_mem hid hid']

/-! ## Chains after a cut -/

/-- Cutting off a block changes nothing about whether another one hangs loose. -/
theorem parent_cut_eq_none_iff (hne : head ≠ c) :
    (g.cut c).parent head = none ↔ g.parent head = none := by
  simp only [parent_eq_none_iff, cut, mem_links_dropIncoming]
  constructor
  · rintro hnone link hlink rfl
    exact hnone link ⟨hlink, hne⟩ rfl
  · exact fun hnone link hlink => hnone link hlink.1

/-- The chain at any other berth goes on up to the block that is cut off. -/
theorem Sound.chainAt_cut_eq_takeWhile (h : g.Sound) (hne : berth ≠ .loose c) :
    (g.cut c).chainAt berth = (g.chainAt berth).takeWhile (· ≠ c) := by
  cases berth with
  | slot owner slot => exact h.onward_cut owner (.slot slot)
  | loose head =>
    have hhead : head ≠ c := fun hsame => hne (congrArg Berth.loose hsame)
    have hsame : (g.cut c).headAt (.loose head) = g.headAt (.loose head) := by
      simp only [headAt, parent_cut_eq_none_iff hhead]
      rfl
    unfold chainAt
    rw [hsame, headAt]
    split
    · exact h.chainFrom_cut hhead
    · rfl

/-- A chain that a block is cut off loses the block and those that follow it. -/
theorem Sound.chainAt_cut_of_mem (h : g.Sound) (hne : berth ≠ .loose c)
    (hmem : c ∈ g.chainAt berth) :
    g.chainAt berth = (g.cut c).chainAt berth ++ g.chainFrom c := by
  rcases h.exists_before_of_mem hmem with ⟨before, hnot, hsplit⟩
  have hcons := h.chainFrom_eq_cons (h.contains_of_mem_chainAt hmem)
  have hbefore : (g.cut c).chainAt berth = before := by
    rw [h.chainAt_cut_eq_takeWhile hne, hsplit, hcons, List.takeWhile_append_of_pos,
      List.takeWhile_cons_of_neg (by simp), List.append_nil]
    intro x hx
    simpa using ne_of_mem_of_not_mem hx hnot
  rw [hbefore, hsplit]

/-- The chains that the block is not in stay as they are when it is cut off. -/
theorem Sound.chainAt_cut_of_not_mem (h : g.Sound) (hne : berth ≠ .loose c)
    (hnot : c ∉ g.chainAt berth) : (g.cut c).chainAt berth = g.chainAt berth := by
  rw [h.chainAt_cut_eq_takeWhile hne, takeWhile_ne_eq_self hnot]

/-- At any other berth a chain is left without what the block that is cut off takes along. -/
theorem Sound.chainAt_cut (h : g.Sound) (hc : g.contains c = true) (hne : berth ≠ .loose c) :
    (g.cut c).chainAt berth = (g.chainAt berth).filter (· ∉ g.chainFrom c) := by
  by_cases hmem : c ∈ g.chainAt berth
  · have hsplit := h.chainAt_cut_of_mem hne hmem
    have hnodup := h.nodup_chainAt berth
    rw [hsplit, List.nodup_append] at hnodup
    rw [hsplit, List.filter_append, List.filter_eq_self.2, List.filter_eq_nil_iff.2,
      List.append_nil]
    · intro x hx
      simpa using hx
    · intro x hx
      simpa using fun hx' => hnodup.2.2 x hx x hx' rfl
  · rw [h.chainAt_cut_of_not_mem hne hmem, List.filter_eq_self.2]
    intro x hx
    simpa using fun hx' => hmem (h.mem_chainAt_of_mem_chainFrom hc hx' hx)

end BlockGraph

end ShellComposer
