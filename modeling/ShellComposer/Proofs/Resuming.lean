import ShellComposer.Proofs.Following
import ShellComposer.Proofs.Ledger

/-!
# Reactions that are resumed

A reaction that runs out of cycles enables and checks once more before it answers.  Neither is of any
consequence for the next reaction, which begins by enabling and ends by checking: it goes on with
the very pass that comes next.  So reacting again and again under a bound goes through the passes of
one reaction without a bound and ends with the same workspace, and a reaction that has succeeded
has nothing left to do.

Main results:

- Definition `Alike`: workspaces that differ in what a reaction makes anew only.
- Theorem `Alike.pass`: they go through the same passes.
- Theorem `Alike.settle_eq`: where nothing is left to repair, they become the same.
- Theorem `react_again`: after a change that succeeded a reaction does nothing.
- Theorem `resumed_react`: reactions under a bound resume each other.
-/

namespace ShellComposer

open BlockGraph Relation

/-! ## Enabling twice -/

namespace BlockGraph

/-- Refreshing the flags leaves what is reachable. -/
theorem reachable_refresh (g : BlockGraph) : g.refresh.2.reachable = g.reachable := by
  have hsize : g.refresh.2.size = g.size := List.length_map _
  rw [reachable, hsize]
  rfl

/-- Enabling twice is enabling once. -/
theorem refresh_refresh (g : BlockGraph) : g.refresh.2.refresh.2 = g.refresh.2 := by
  have hblocks : g.refresh.2.refresh.2.blocks = g.refresh.2.blocks := by
    refine IdMap.eq_of_get? fun id => ?_
    have honce := get?_refresh g id
    refine (get?_refresh g.refresh.2 id).trans ?_
    rw [reachable_refresh, honce, Option.map_map]
    exact honce.symm
  exact congrArg (BlockGraph.mk · g.links g.nextId) hblocks

end BlockGraph

namespace Workspace

variable {catalog : Catalog} {settings : Settings} {w w' u u' v v' last : Workspace} {n : Nat}

/-! ## Passes -/

theorem Pass.not_settled (h : Pass w w') : ¬ w.refresh.Settled := by
  rintro ⟨done, hrun, hnone⟩
  rcases h with ⟨done', hrun', hsome, -⟩
  obtain rfl : done = done' := Except.ok.inj (hrun.symm.trans hrun')
  exact hsome hnone

/-- A pass has one outcome. -/
theorem Pass.unique {other : Workspace} (h : Pass w w') (hother : Pass w other) : w' = other := by
  rcases h with ⟨done, hrun, -, rfl⟩
  rcases hother with ⟨done', hrun', -, rfl⟩
  obtain rfl : done = done' := Except.ok.inj (hrun.symm.trans hrun')
  rfl

/-- Passes keep what a reaction starts from, the violations and the settings, and they only add
notices. -/
theorem Passes.kept (h : Passes n w last) (htended : w.Tended) :
    last.Tended ∧ last.ledger = w.ledger ∧ last.settings = w.settings ∧
      w.notices <+: last.notices := by
  induction h with
  | none => exact ⟨htended, rfl, rfl, List.prefix_rfl⟩
  | @more n w w' last first rest ih =>
    rcases first.frame htended.sound with ⟨-, hsettings, -, hledger, -⟩
    have hnotices : w.notices <+: w'.notices := by
      rcases first with ⟨done, -, -, rfl⟩
      exact List.prefix_append _ _
    rcases ih (first.tended htended) with ⟨htended', hledger', hsettings', hnotices'⟩
    exact ⟨htended', hledger'.trans hledger, hsettings'.trans hsettings, hnotices.trans hnotices'⟩

/-- Passes one after the other can be counted. -/
theorem exists_passes (h : ReflTransGen Pass w last) : ∃ n, Passes n w last := by
  induction h using ReflTransGen.head_induction_on with
  | refl => exact ⟨0, .none⟩
  | head first _ ih =>
    rcases ih with ⟨n, hrest⟩
    exact ⟨n + 1, .more first hrest⟩

/-! ## Ledgers of reached workspaces -/

/-- No change leaves an empty list in the ledger. -/
theorem Change.tidy (hchange : Change w w') (h : w.ledger.Tidy) : w'.ledger.Tidy := by
  cases hchange with
  | none => exact h
  | placed _ _ => exact h
  | edited _ _ => exact h
  | removed _ => exact h.foldl_clear _

/-- Nor does a reaction. -/
theorem tidy_react (htended : w.Tended) (h : w.ledger.Tidy) :
    w.react.workspace.ledger.Tidy := by
  rcases react_exits htended.sound with ⟨last, hpath, hends, -⟩
  rcases exists_passes hpath with ⟨n, hpasses⟩
  have hledger := (hpasses.kept htended).2.1
  rw [hends]
  exact Site.tidy_checkAll _ (hledger ▸ h)

/-- No workspace keeps empty lists of violations. -/
theorem Reached.tidy (h : Reached catalog settings w) : w.ledger.Tidy := by
  induction h with
  | new => exact fun _ => (Option.some_ne_none []).symm
  | @changed w mutation hearlier ih =>
    rcases w.answer_cases mutation with ⟨fault, hrun⟩ | ⟨w', ids, hchange, hrun⟩
    · rw [hrun]
      exact ih
    · rw [hrun]
      exact tidy_react (hchange.tended hearlier.valid.tended) (hchange.tidy ih)
  | drained _ ih => exact ih

/-- Enabling and checking leaves the verdict on each id. -/
theorem Tended.get_settle (h : w.Tended) (id : BlockId) :
    w.refresh.revalidate.ledger.get id = w.refresh.site.verdict id := by
  refine (w.refresh.site.get_checkAll w.ledger id).trans ?_
  split
  · rfl
  · rename_i habsent
    rw [Bool.not_eq_true] at habsent
    rw [Site.verdict]
    exact (h.cleared id ((contains_refresh w.graph id).symm.trans habsent)).trans
      (if_neg (ne_true_of_eq_false (isEnabled_of_absent habsent))).symm

/-! ## What a reaction makes anew -/

/-- The workspace with another bound on its reactions. -/
def withCap (w : Workspace) (cap : Option UInt64) : Workspace :=
  { w with settings := { w.settings with maxReactionCycles := cap } }

/-- The workspace after so many reactions, whatever they answered. -/
def reacted (w : Workspace) : Nat → Workspace
  | 0 => w
  | n + 1 => w.react.workspace.reacted n

/-- Two workspaces that differ only in what a reaction makes anew, the enabled flags and the
violations, and in the bound on it. -/
structure Alike (u v : Workspace) : Prop where
  graph_eq : v.refresh.graph = u.refresh.graph
  catalog_eq : v.catalog = u.catalog
  meanings_eq : v.meanings = u.meanings
  notices_eq : v.notices = u.notices
  settings_eq : v.settings = { u.settings with
    maxReactionCycles := v.settings.maxReactionCycles }

namespace Alike

/-- Where one has something to repair, the other has the same. -/
theorem pass (h : Alike u v) (hpass : Pass u u') : ∃ v', Pass v v' ∧ Alike u' v' := by
  rcases hpass with ⟨done, hrun, hsome, rfl⟩
  rw [← h.catalog_eq, ← h.graph_eq] at hrun
  refine ⟨v.refresh.repairedBy done, ⟨done, hrun, hsome, rfl⟩, rfl, h.catalog_eq, h.meanings_eq,
    ?_, h.settings_eq⟩
  exact congrArg (· ++ done.notices) h.notices_eq

theorem settled (h : Alike u v) (hsettled : u.refresh.Settled) : v.refresh.Settled := by
  rcases hsettled with ⟨done, hrun, hnone⟩
  have hcatalog : v.refresh.catalog = u.refresh.catalog := h.catalog_eq
  refine ⟨done, ?_, hnone⟩
  rw [hcatalog, h.graph_eq]
  exact hrun

/-- Enabling and checking once more makes no difference. -/
theorem refresh_revalidate (h : Alike u v) : Alike u v.refresh.revalidate where
  graph_eq := v.graph.refresh_refresh.trans h.graph_eq
  catalog_eq := h.catalog_eq
  meanings_eq := h.meanings_eq
  notices_eq := h.notices_eq
  settings_eq := h.settings_eq

/-- Checks do not look at the bound. -/
theorem verdict_eq (h : Alike u v) (id : BlockId) :
    v.refresh.site.verdict id = u.refresh.site.verdict id := by
  have hsite : v.refresh.site = ⟨u.refresh.graph, u.catalog, u.meanings,
      { u.settings with maxReactionCycles := v.settings.maxReactionCycles }⟩ := by
    rw [← h.graph_eq, ← h.catalog_eq, ← h.meanings_eq, ← h.settings_eq]
    rfl
  rw [hsite]
  rfl

/-- Where both enable and check, they become the same up to the bound. -/
theorem settle_eq (h : Alike u v) (hu : u.Tended) (hv : v.Tended) (hutidy : u.ledger.Tidy)
    (hvtidy : v.ledger.Tidy) :
    v.refresh.revalidate = u.refresh.revalidate.withCap v.settings.maxReactionCycles := by
  have hledger : v.refresh.revalidate.ledger = u.refresh.revalidate.ledger := by
    refine (Site.tidy_checkAll _ hvtidy).eq_of_get (Site.tidy_checkAll _ hutidy) fun id => ?_
    exact (hv.get_settle id).trans ((h.verdict_eq id).trans (hu.get_settle id).symm)
  have hparts : v.refresh.revalidate = ⟨v.catalog, v.settings, v.refresh.graph, v.meanings,
      v.refresh.revalidate.ledger, v.notices⟩ := rfl
  rw [hparts, hledger, h.catalog_eq, h.settings_eq, h.graph_eq, h.meanings_eq, h.notices_eq]
  rfl

end Alike

/-! ## Reactions with nothing to repair -/

/-- A reaction with nothing to repair enables and checks. -/
theorem reactWithin_of_settled (hsound : w.graph.Sound) (hsettled : w.refresh.Settled)
    (bound left : Nat) : reactWithin bound left w = ⟨.ok (), w.refresh.revalidate⟩ := by
  rcases reactWithin_cases hsound bound left with ⟨-, hrun⟩ | ⟨w', hpass, -⟩
  · exact hrun
  · exact absurd hsettled hpass.not_settled

/-- Where a reaction has succeeded, another one changes nothing. -/
theorem react_settled (htended : last.Tended) (htidy : last.ledger.Tidy)
    (hsettled : last.refresh.Settled) :
    last.refresh.revalidate.react = ⟨.ok (), last.refresh.revalidate⟩ := by
  have hsame : Alike last last := ⟨rfl, rfl, rfl, rfl, rfl⟩
  have hagain := hsame.refresh_revalidate
  have hstart := htended.settle.1
  have hrun := reactWithin_of_settled hstart.sound (hagain.settled hsettled)
    last.refresh.revalidate.cycleBound last.refresh.revalidate.cycleBound
  have hsettle := hagain.settle_eq htended hstart htidy (Site.tidy_checkAll _ htidy)
  exact hrun.trans (congrArg (Answer.mk (.ok ())) hsettle)

/-- After a reaction that succeeded another one changes nothing. -/
theorem react_again (htended : w.Tended) (htidy : w.ledger.Tidy) (hok : w.react.result = .ok ()) :
    w.react.workspace.react = ⟨.ok (), w.react.workspace⟩ := by
  rcases react_exits htended.sound with ⟨last, hpath, hends, ⟨hsettled, -⟩ | hcut⟩
  · rcases exists_passes hpath with ⟨n, hpasses⟩
    rcases hpasses.kept htended with ⟨hlast, hledger, -, -⟩
    rw [hends]
    exact react_settled hlast (hledger ▸ htidy) hsettled
  · exact absurd (hok.symm.trans hcut) (by simp)

/-! ## Passes of several reactions -/

/-- When passes lead one workspace to where nothing is left to repair, then from a workspace alike a
reaction gets there too, or it runs out of cycles at a later one of these passes. -/
theorem Alike.reactWithin_cases (h : Alike u v) (hsound : v.graph.Sound)
    (hpasses : Passes n u last) (hsettled : last.refresh.Settled) (bound left : Nat) :
    (∃ k last', Passes k v last' ∧ Alike last last' ∧
      reactWithin bound left v = ⟨.ok (), last'.refresh.revalidate⟩) ∨
    ∃ k m u' v', m < n ∧ Passes m u' last ∧ Passes k v v' ∧ Alike u' v' ∧
      reactWithin bound left v = ⟨.error (.unsettled bound), v'.refresh.revalidate⟩ := by
  induction hpasses generalizing v left with
  | none =>
    exact .inl ⟨0, v, .none, h, reactWithin_of_settled hsound (h.settled hsettled) bound left⟩
  | @more n u u' last first rest ih =>
    rcases h.pass first with ⟨v', hpass, halike⟩
    rcases Workspace.reactWithin_cases hsound bound left with
      ⟨hstop, -⟩ | ⟨next, hnext, ⟨-, hrun⟩ | ⟨left', -, hrun⟩⟩
    · exact absurd hstop hpass.not_settled
    · obtain rfl := hpass.unique hnext
      exact .inr ⟨1, n, u', v', Nat.lt_succ_self n, rest, .more hpass .none, halike, hrun⟩
    · obtain rfl := hpass.unique hnext
      rcases ih halike (hpass.sound hsound) hsettled left' with
        ⟨k, last', hmore, hlast, hrun'⟩ | ⟨k, m, u'', v'', hfewer, hrest, hmore, hlater, hrun'⟩
      · exact .inl ⟨k + 1, last', .more hpass hmore, hlast, hrun.trans hrun'⟩
      · exact .inr ⟨k + 1, m, u'', v'', Nat.lt_succ_of_lt hfewer, hrest, .more hpass hmore, hlater,
          hrun.trans hrun'⟩

/-- Reacting again and again under a bound gets where passes without a bound lead. -/
theorem Alike.resumes {cap : UInt64} (h : Alike u v) (hcap : v.settings.maxReactionCycles = some cap)
    (htended : v.Tended) (htidy : v.ledger.Tidy) (hpasses : Passes n u last)
    (hsettled : last.refresh.Settled) (hlast : last.Tended) (hlasttidy : last.ledger.Tidy) :
    ∃ aborted, (∀ i < aborted, (v.reacted i).react.result = .error (.unsettled cap.toNat)) ∧
      (v.reacted aborted).react = ⟨.ok (), last.refresh.revalidate.withCap (some cap)⟩ := by
  induction n using Nat.strongRecOn generalizing u v with
  | ind n ih =>
    have hbound : v.react = reactWithin cap.toNat cap.toNat v := by
      rw [react, cycleBound, hcap]
    rcases h.reactWithin_cases htended.sound hpasses hsettled cap.toNat cap.toNat with
      ⟨k, last', hmore, halike, hrun⟩ | ⟨k, m, u', v', hfewer, hrest, hmore, halike, hrun⟩
    · rcases hmore.kept htended with ⟨htended', hledger, hsettings, -⟩
      refine ⟨0, fun i hi => absurd hi (Nat.not_lt_zero i), ?_⟩
      rw [reacted, hbound, hrun]
      have hsettle := halike.settle_eq hlast htended' hlasttidy (hledger ▸ htidy)
      rw [hsettings, hcap] at hsettle
      exact congrArg (Answer.mk (.ok ())) hsettle
    · rcases hmore.kept htended with ⟨htended', hledger, hsettings, -⟩
      have htidy' : v'.refresh.revalidate.ledger.Tidy := Site.tidy_checkAll _ (hledger ▸ htidy)
      have hcap' : v'.refresh.revalidate.settings.maxReactionCycles = some cap := by
        rw [← hcap, ← hsettings]
        rfl
      obtain ⟨aborted, herrors, hends⟩ := ih m hfewer halike.refresh_revalidate hcap'
        htended'.settle.1 htidy' hrest
      have hnext : v.react.workspace = v'.refresh.revalidate := by rw [hbound, hrun]
      refine ⟨aborted + 1, fun i hi => ?_, ?_⟩
      · cases i with
        | zero => rw [reacted, hbound, hrun]
        | succ i =>
          rw [reacted, hnext]
          exact herrors i (Nat.lt_of_succ_lt_succ hi)
      · rw [reacted, hnext]
        exact hends

/-- Whatever changes came before, let one copy of the workspace have no bound on reactions and another
one any bound.  One reaction of the first succeeds.  The second reacts again and again, with a fault
each time, until it succeeds; then it is the same as the first, bound apart.  From there on, and
wherever a change has succeeded, reactions succeed and do nothing. -/
theorem resumed_react (hreached : Reached catalog settings w) (cap : UInt64) :
    (∃ whole aborted, (w.withCap none).react = ⟨.ok (), whole⟩ ∧ w.notices <+: whole.notices ∧
      (∀ i < aborted, ((w.withCap (some cap)).reacted i).react.result =
        .error (.unsettled cap.toNat)) ∧
      ((w.withCap (some cap)).reacted aborted).react = ⟨.ok (), whole.withCap (some cap)⟩ ∧
      whole.react = ⟨.ok (), whole⟩ ∧
      (whole.withCap (some cap)).react = ⟨.ok (), whole.withCap (some cap)⟩) ∧
    ∀ mutation ids, (Mutation.answer w mutation).result = .ok ids →
      (mutation.answer w).workspace.react = ⟨.ok (), (mutation.answer w).workspace⟩ := by
  have hvalid := hreached.valid
  have htidy := hreached.tidy
  constructor
  · have hfree : (w.withCap none).Tended := ⟨hvalid.tended.sound, hvalid.tended.cleared⟩
    have hcapped : (w.withCap (some cap)).Tended := ⟨hvalid.tended.sound, hvalid.tended.cleared⟩
    rcases react_settles hfree.sound rfl with ⟨n, last, hpasses, hsettled, hwhole⟩
    rcases hpasses.kept hfree with ⟨hlast, hledger, -, hnotices⟩
    have hlasttidy : last.ledger.Tidy := hledger ▸ htidy
    have halike : Alike (w.withCap none) (w.withCap (some cap)) := ⟨rfl, rfl, rfl, rfl, rfl⟩
    obtain ⟨aborted, herrors, hends⟩ :=
      halike.resumes rfl hcapped htidy hpasses hsettled hlast hlasttidy
    have hbounded : Alike last (last.withCap (some cap)) := ⟨rfl, rfl, rfl, rfl, rfl⟩
    have hlastcapped : (last.withCap (some cap)).Tended := ⟨hlast.sound, hlast.cleared⟩
    exact ⟨_, aborted, hwhole, hnotices, herrors, hends, react_settled hlast hlasttidy hsettled,
      react_settled hlastcapped hlasttidy (hbounded.settled hsettled)⟩
  · intro mutation ids hok
    rcases w.answer_cases mutation with ⟨fault, hrun⟩ | ⟨start, made, hchange, hrun⟩
    · rw [hrun] at hok
      exact absurd hok (by simp)
    · rw [hrun] at hok ⊢
      rcases Fault.map_eq_ok_iff.1 hok with ⟨_, hreact, -⟩
      exact react_again (hchange.tended hvalid.tended) (hchange.tidy htidy) hreact

/-- A command with the same option four times, when a reaction runs out of cycles at its first
repair. -/
def flagged : Workspace :=
  run flaggingCatalog hurried flaggingSteps

/-- The first reaction has taken off one of three options too many; two more take off the others,
and a third one succeeds. -/
theorem flagged_resumed :
    flagged.graph.slotChain 1 optionsSlot = [2, 4, 5] ∧
      ((flagged.withCap (some 0)).reacted 2).graph.slotChain 1 optionsSlot = [2] ∧
      ∃ whole aborted, (flagged.withCap none).react = ⟨.ok (), whole⟩ ∧
        flagged.notices <+: whole.notices ∧
        (∀ i < aborted, ((flagged.withCap (some 0)).reacted i).react.result =
          .error (.unsettled 0)) ∧
        ((flagged.withCap (some 0)).reacted aborted).react =
          ⟨.ok (), whole.withCap (some 0)⟩ := by
  have hreached := reached_run flaggingCatalog hurried flaggingSteps
  obtain ⟨whole, aborted, hwhole, hnotices, herrors, hends, -⟩ := (resumed_react hreached 0).1
  exact ⟨by decide +kernel, by decide +kernel, whole, aborted, hwhole, hnotices, herrors, hends⟩

end Workspace

end ShellComposer
