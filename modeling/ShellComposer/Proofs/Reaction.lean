import ShellComposer.Proofs.Repairing
import ShellComposer.Workspace

/-!
# Where reactions end

A reaction goes through passes that enable and repair.  It ends after a pass that repaired nothing,
or when it has used up its cycles; in both cases it enables and checks once more.  So wherever a
reaction ends, what follows from the graph follows from the graph as it then is.

Main results:

- Theorem `reactWithin_cases`: what one pass of a reaction comes to.
- Theorem `react_exits`: where a reaction ends.
- Theorem `Sound.enabled_refresh_iff`: enabled blocks are those below the script.
- Theorem `Site.get_checkAll`: what checking all blocks writes down.
- Structure `Workspace.Consistent` and theorem `Tended.react`: wherever a reaction ends, everything
  is as the graph says.
-/

namespace ShellComposer

open BlockGraph Relation

/-! ## Enabled blocks -/

namespace BlockGraph

variable {g : BlockGraph} {id : BlockId} {block : Block}

/-- A refresh changes nothing of a block but whether it is enabled. -/
theorem get?_refresh (g : BlockGraph) (id : BlockId) : g.refresh.2.get? id =
    (g.get? id).map fun block => { block with enabled := g.reachable.contains id } := by
  rw [get?, refresh, IdMap.get?_mapValues]
  rfl

/-- A block is enabled when its flag says so. -/
theorem isEnabled_eq (h : g.get? id = some block) : g.isEnabled id = block.enabled := by
  rw [isEnabled, h]

/-- An enabled block is there. -/
theorem exists_block_of_isEnabled (h : g.isEnabled id = true) :
    ∃ block, g.get? id = some block := by
  rw [isEnabled] at h
  split at h
  · rename_i block hblock
    exact ⟨block, hblock⟩
  · exact absurd h Bool.false_ne_true

/-- What is enabled is there. -/
theorem contains_of_isEnabled (h : g.isEnabled id = true) : g.contains id = true :=
  contains_iff.2 (exists_block_of_isEnabled h)

theorem isEnabled_of_absent (h : g.contains id = false) : g.isEnabled id = false := by
  rw [← Bool.not_eq_true]
  exact fun henabled => Bool.false_ne_true (h.symm.trans (contains_of_isEnabled henabled))

/-- After enabling, a block is enabled exactly when the script leads to it. -/
theorem Sound.enabled_refresh_iff (h : g.Sound) (hblock : g.refresh.2.get? id = some block) :
    block.enabled = true ↔ ReflTransGen g.Leads root id := by
  rw [get?_refresh, Option.map_eq_some_iff] at hblock
  rcases hblock with ⟨before, _, rfl⟩
  rw [← h.mem_reachable_iff]
  exact List.contains_iff_mem

end BlockGraph

/-! ## Checked blocks -/

namespace Ledger

variable {ledger : Ledger} {block other : BlockId}

/-- Writing records of a block one by one writes them on top of those that it has. -/
theorem get_foldl_set (ledger : Ledger) (block : BlockId) (violations : List Violation) :
    (violations.foldl (fun ledger violation => ledger.set block violation) ledger).get block =
      violations.foldl (fun records violation => setRecord violation records)
        (ledger.get block) := by
  induction violations generalizing ledger with
  | nil => rfl
  | cons first rest ih => rw [List.foldl_cons, List.foldl_cons, ih, get_set_self]

/-- Of replaced records the last of each id is kept. -/
@[simp] theorem get_replace_self (ledger : Ledger) (block : BlockId)
    (violations : List Violation) :
    (ledger.replace block violations).get block = lastRecords violations := by
  rw [replace, get_sweep, get_foldl_set, get_clear_self, lastRecords]

/-- The records of the other blocks stay. -/
theorem get_replace_ne (ledger : Ledger) (h : other ≠ block) (violations : List Violation) :
    (ledger.replace block violations).get other = ledger.get other := by
  rw [replace, get_sweep, ← get_clear_ne ledger h]
  generalize ledger.clear block = cleared
  induction violations generalizing cleared with
  | nil => rfl
  | cons first rest ih => rw [List.foldl_cons, ih, get_set_ne _ h]

/-- Clearing several blocks takes their records and no others. -/
theorem get_foldl_clear (ledger : Ledger) (doomed : List BlockId) (id : BlockId) :
    (doomed.foldl clear ledger).get id = if id ∈ doomed then [] else ledger.get id := by
  induction doomed generalizing ledger with
  | nil => simp
  | cons first rest ih =>
    rw [List.foldl_cons, ih]
    by_cases hsame : id = first
    · subst hsame
      simp
    · simp [hsame, get_clear_ne ledger hsame]

end Ledger

namespace Site

variable {site : Site} {id other : BlockId}

/-- What checking one block leaves written down about it. -/
def verdict (site : Site) (id : BlockId) : List Violation :=
  if site.graph.isEnabled id then lastRecords (site.check id) else []

/-- Checking a block writes its verdict and leaves the records of the others. -/
theorem get_checkInto (site : Site) (ledger : Ledger) (id other : BlockId) :
    (site.checkInto ledger id).get other =
      if other = id then site.verdict id else ledger.get other := by
  by_cases hsame : other = id
  · subst hsame
    rw [if_pos rfl, checkInto, verdict]
    split
    · rw [Ledger.get_replace_self]
    · rw [Ledger.get_clear_self]
  · rw [if_neg hsame, checkInto]
    split
    · rw [Ledger.get_replace_ne _ hsame]
    · rw [Ledger.get_clear_ne _ hsame]

/-- Checking all blocks writes down the verdict on each of them, and leaves other ids alone. -/
theorem get_checkAll (site : Site) (ledger : Ledger) (id : BlockId) :
    (site.checkAll ledger).get id =
      if site.graph.contains id then site.verdict id else ledger.get id := by
  have hfold : ∀ (ids : List BlockId) (ledger : Ledger), (ids.foldl site.checkInto ledger).get id =
      if id ∈ ids then site.verdict id else ledger.get id := by
    intro ids
    induction ids with
    | nil => simp
    | cons first rest ih =>
      intro ledger
      rw [List.foldl_cons, ih, get_checkInto]
      by_cases hsame : id = first
      · subst hsame
        simp
      · simp [hsame]
  rw [checkAll, hfold]
  simp only [mem_ids_iff]

end Site

/-! ## Passes -/

namespace Workspace

variable {w w' : Workspace} {done : Repaired} {bound left : Nat}

/-- A workspace whose graph has been repaired. -/
def repairedBy (w : Workspace) (done : Repaired) : Workspace :=
  { w with graph := done.graph, notices := w.notices ++ done.notices }

/-- A pass that repaired something leads from one workspace to another. -/
def Pass (w w' : Workspace) : Prop :=
  ∃ done, repairAll w.catalog w.refresh.graph = .ok done ∧ done.removed ≠ 0 ∧
    w.refresh.repairedBy done = w'

/-- There is nothing to repair. -/
def Settled (w : Workspace) : Prop :=
  ∃ done, repairAll w.catalog w.graph = .ok done ∧ done.removed = 0

/-- What one pass of a reaction comes to: nothing was repaired, or something was and no cycle is
left, or something was and the reaction goes on. -/
theorem reactWithin_cases (hsound : w.graph.Sound) (bound left : Nat) :
    (w.refresh.Settled ∧ reactWithin bound left w = ⟨.ok (), w.refresh.revalidate⟩) ∨
    ∃ w', Pass w w' ∧
      ((left = 0 ∧ reactWithin bound left w =
          ⟨.error (.unsettled bound), w'.refresh.revalidate⟩) ∨
        ∃ left', left = left' + 1 ∧ reactWithin bound left w = reactWithin bound left' w') := by
  rcases repairAll_succeeds hsound.refresh w.catalog with ⟨done, taken, hrun, hoff⟩
  have hrun' : repairAll w.refresh.catalog w.refresh.graph = .ok done := hrun
  by_cases hnone : done.removed = 0
  · have hsame : w.refresh.repairedBy done = w.refresh := by
      rw [repairedBy, hoff.graph_eq_of_removed hnone, hoff.silent hnone, List.append_nil]
      rfl
    refine .inl ⟨⟨done, hrun, hnone⟩, ?_⟩
    rw [reactWithin.eq_def]
    simp only [hrun', if_pos hnone]
    exact congrArg (fun w : Workspace => Answer.mk (.ok ()) w.revalidate) hsame
  · refine .inr ⟨w.refresh.repairedBy done, ⟨done, hrun, hnone, rfl⟩, ?_⟩
    cases left with
    | zero =>
      refine .inl ⟨rfl, ?_⟩
      rw [reactWithin.eq_def]
      simp only [hrun', if_neg hnone]
      rfl
    | succ left =>
      refine .inr ⟨left, rfl, ?_⟩
      rw [reactWithin.eq_def]
      simp only [hrun', if_neg hnone]
      rfl

/-- A pass leaves a sound graph. -/
theorem Pass.sound (h : Pass w w') (hsound : w.graph.Sound) : w'.graph.Sound := by
  rcases h with ⟨done, hrun, _, rfl⟩
  exact hsound.refresh.of_repairAll hrun

/-- A pass changes links, enabled flags and notices only. -/
theorem Pass.frame (h : Pass w w') (hsound : w.graph.Sound) :
    w'.catalog = w.catalog ∧ w'.settings = w.settings ∧ w'.meanings = w.meanings ∧
      w'.ledger = w.ledger ∧ w'.graph.blocks = w.graph.refresh.2.blocks := by
  rcases h with ⟨done, hrun, _, rfl⟩
  rcases repairAll_succeeds hsound.refresh w.catalog with ⟨done', taken, hrun', hoff⟩
  obtain rfl : done = done' := Except.ok.inj (hrun.symm.trans hrun')
  exact ⟨rfl, rfl, rfl, rfl, hoff.blocks_eq⟩

/-- A reaction ends where some passes lead: either nothing is left to repair there, or the reaction
has used up its cycles.  There it enables and checks. -/
theorem reactWithin_exits (hsound : w.graph.Sound) (bound left : Nat) :
    ∃ last, ReflTransGen Pass w last ∧
      (reactWithin bound left w).workspace = last.refresh.revalidate ∧
      ((last.refresh.Settled ∧ (reactWithin bound left w).result = .ok ()) ∨
        (reactWithin bound left w).result = .error (.unsettled bound)) := by
  induction left generalizing w with
  | zero =>
    rcases reactWithin_cases hsound bound 0 with ⟨hsettled, hrun⟩ | ⟨w', hpass, hends | hgoes⟩
    · exact ⟨w, .refl, by rw [hrun], .inl ⟨hsettled, by rw [hrun]⟩⟩
    · rcases hends with ⟨_, hrun⟩
      exact ⟨w', .single hpass, by rw [hrun], .inr (by rw [hrun])⟩
    · rcases hgoes with ⟨left', hleft, _⟩
      exact absurd hleft (Nat.succ_ne_zero left').symm
  | succ left ih =>
    rcases reactWithin_cases hsound bound (left + 1) with
      ⟨hsettled, hrun⟩ | ⟨w', hpass, hends | hgoes⟩
    · exact ⟨w, .refl, by rw [hrun], .inl ⟨hsettled, by rw [hrun]⟩⟩
    · exact absurd hends.1 (Nat.succ_ne_zero left)
    · rcases hgoes with ⟨left', hleft, hrun⟩
      obtain rfl : left = left' := Nat.succ.inj hleft
      rcases ih (hpass.sound hsound) with ⟨last, hpath, hends⟩
      refine ⟨last, .head hpass hpath, ?_⟩
      rw [hrun]
      exact hends

/-- A reaction ends where some passes lead, and enables and checks there. -/
theorem react_exits (hsound : w.graph.Sound) :
    ∃ last, ReflTransGen Pass w last ∧ w.react.workspace = last.refresh.revalidate ∧
      ((last.refresh.Settled ∧ w.react.result = .ok ()) ∨
        w.react.result = .error (.unsettled w.cycleBound)) :=
  reactWithin_exits hsound w.cycleBound w.cycleBound

/-- Two workspaces with the same catalog, settings and meanings, and blocks that keep their kinds,
slots and fields. -/
structure SameFrame (w w' : Workspace) : Prop where
  catalog_eq : w'.catalog = w.catalog
  settings_eq : w'.settings = w.settings
  meanings_eq : w'.meanings = w.meanings
  retains : Retains w.graph w'.graph

/-- Frames that stay the same twice in a row stay the same. -/
theorem SameFrame.trans {w'' : Workspace} (h : SameFrame w w') (h' : SameFrame w' w'') :
    SameFrame w w'' :=
  ⟨h'.catalog_eq.trans h.catalog_eq, h'.settings_eq.trans h.settings_eq,
    h'.meanings_eq.trans h.meanings_eq, h.retains.trans h'.retains⟩

/-- A pass keeps the frame. -/
theorem Pass.sameFrame (h : Pass w w') (hsound : w.graph.Sound) : SameFrame w w' := by
  rcases h.frame hsound with ⟨hcatalog, hsettings, hmeanings, -, hblocks⟩
  exact ⟨hcatalog, hsettings, hmeanings,
    (retains_refresh w.graph).trans (retains_of_blocks hblocks)⟩

/-- A reaction leaves the catalog, the settings, the meanings and what every block is. -/
theorem sameFrame_react (hsound : w.graph.Sound) : SameFrame w w.react.workspace := by
  rcases react_exits hsound with ⟨last, hpath, hends, -⟩
  have hlast : last.graph.Sound ∧ SameFrame w last := by
    clear hends
    induction hpath with
    | refl => exact ⟨hsound, rfl, rfl, rfl, .refl _⟩
    | tail _ hpass ih =>
      rcases ih with ⟨hbefore, hsame⟩
      exact ⟨hpass.sound hbefore, hsame.trans (hpass.sameFrame hbefore)⟩
  rw [hends]
  exact hlast.2.trans ⟨rfl, rfl, rfl, retains_refresh last.graph⟩

/-! ## What follows from the graph -/

/-- What follows from the graph of a workspace is as the graph says. -/
structure Consistent (w : Workspace) : Prop where
  /-- The enabled blocks are those whose topmost block is the script. -/
  enabled_iff : ∀ id block, w.graph.get? id = some block →
    (block.enabled = true ↔ w.graph.rootOf id = root)
  /-- An enabled block has the violations that checking it finds, the last of each id. -/
  checked : ∀ id block, w.graph.get? id = some block → block.enabled = true →
    w.violations id = lastRecords (w.site.check id)
  /-- A block that is not enabled has no violations. -/
  disabled_clear : ∀ id block, w.graph.get? id = some block → block.enabled = false →
    w.violations id = []
  /-- What is not a block has no violations. -/
  absent_clear : ∀ id, w.graph.contains id = false → w.violations id = []

/-- So the violations of any id are the verdict on it. -/
theorem Consistent.violations_eq (h : w.Consistent) (id : BlockId) :
    w.violations id = w.site.verdict id := by
  rw [Site.verdict]
  cases hblock : w.graph.get? id with
  | none =>
    have habsent : w.graph.contains id = false := by
      rw [← Bool.not_eq_true, contains_iff]
      simp [hblock]
    rw [h.absent_clear id habsent]
    exact (if_neg (ne_true_of_eq_false (isEnabled_of_absent habsent))).symm
  | some block =>
    have hread : w.site.graph.isEnabled id = block.enabled := isEnabled_eq hblock
    rw [hread]
    cases henabled : block.enabled with
    | true => exact h.checked id block hblock henabled
    | false => exact h.disabled_clear id block hblock henabled

/-- What a reaction starts from: a sound graph, and violations of its blocks only. -/
structure Tended (w : Workspace) : Prop where
  sound : w.graph.Sound
  cleared : ∀ id, w.graph.contains id = false → w.violations id = []

/-- Enabling and disabling adds no blocks and takes none away. -/
theorem contains_refresh (g : BlockGraph) (id : BlockId) :
    g.refresh.2.contains id = g.contains id :=
  contains_congr (shape?_refresh g id)

/-- A pass keeps the workspace tended. -/
theorem Pass.tended (h : Pass w w') (htended : w.Tended) : w'.Tended := by
  refine ⟨h.sound htended.sound, fun id habsent => ?_⟩
  rcases h.frame htended.sound with ⟨-, -, -, hledger, hblocks⟩
  rw [contains, hblocks] at habsent
  rw [violations, hledger]
  exact htended.cleared id ((contains_refresh w.graph id).symm.trans habsent)

/-- After enabling and checking, everything is as the graph says. -/
theorem Tended.settle (h : w.Tended) :
    w.refresh.revalidate.Tended ∧ w.refresh.revalidate.Consistent := by
  have hsound : w.refresh.revalidate.graph.Sound := h.sound.refresh
  have hread : ∀ id, w.refresh.revalidate.violations id =
      if w.refresh.graph.contains id then w.refresh.site.verdict id else w.violations id :=
    fun id => w.refresh.site.get_checkAll w.ledger id
  have habsent : ∀ id, w.refresh.graph.contains id = false →
      w.refresh.revalidate.violations id = [] := by
    intro id hid
    rw [hread, hid]
    exact h.cleared id ((contains_refresh w.graph id).symm.trans hid)
  have hpresent : ∀ id block, w.refresh.graph.get? id = some block →
      w.refresh.revalidate.violations id =
        if block.enabled then lastRecords (w.refresh.site.check id) else [] := by
    intro id block hblock
    rw [hread, if_pos (contains_iff.2 ⟨block, hblock⟩), Site.verdict]
    have henabled : w.refresh.site.graph.isEnabled id = block.enabled := isEnabled_eq hblock
    rw [henabled]
  refine ⟨⟨hsound, habsent⟩, ?_, ?_, ?_, habsent⟩
  · intro id block hblock
    rw [h.sound.enabled_refresh_iff hblock]
    exact (hsound.rootOf_eq_root_iff (contains_iff.2 ⟨block, hblock⟩)).symm
  · intro id block hblock henabled
    rw [hpresent id block hblock, if_pos henabled]
    rfl
  · intro id block hblock hdisabled
    rw [hpresent id block hblock, hdisabled]
    rfl

/-- Wherever a reaction ends, everything is as the graph says. -/
theorem Tended.react (h : w.Tended) : w.react.workspace.Tended ∧ w.react.workspace.Consistent := by
  rcases react_exits h.sound with ⟨last, hpath, hends, -⟩
  have hlast : last.Tended := by
    clear hends
    induction hpath with
    | refl => exact h
    | tail _ hpass ih => exact hpass.tended ih
  rw [hends]
  exact hlast.settle

end Workspace

end ShellComposer
