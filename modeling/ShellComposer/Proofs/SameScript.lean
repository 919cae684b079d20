import ShellComposer.Proofs.Ledger

/-!
# The script as a part of the graph

The enabled blocks are a part of the graph that links neither enter nor leave.  Edits that name
disabled blocks only stay outside of it: they leave the enabled blocks, the links at them and their
order as they are.  And whatever is read off the graph at an enabled block, along chains or upwards,
stays inside.

Main results:

- Structure `BlockGraph.Marked`: the enabled blocks are those that the script leads to.
- Structure `BlockGraph.SameScript`: two graphs with the same enabled blocks and links at them.
- Theorem `SameScript.marked`: the same blocks stay those that the script leads to.
- Theorems `SameScript.setField`, `Marked.insert`, `attach`, `insertAfter`, `detach`, `remove`: edits
  of disabled blocks.
- Theorems `SameScript.slotChain_eq`, `surroundParent_eq`: what is read off at an enabled block.
-/

namespace ShellComposer

namespace BlockGraph

open Relation

variable {g g' g'' : BlockGraph} {a b id child owner previous head : BlockId} {outlet : Outlet}
variable {link : Link} {slot : String}

/-! ## Enabled blocks -/

/-- A sound graph whose enabled blocks are those that the script leads to. -/
structure Marked (g : BlockGraph) : Prop extends g.Sound where
  enabled_iff : ∀ id, g.isEnabled id = true ↔ ReflTransGen g.Leads root id

/-- Whether a link has an enabled block at one of its ends. -/
def atScript (g : BlockGraph) (link : Link) : Bool :=
  g.isEnabled link.source || g.isEnabled link.target

namespace Marked

/-- A link has enabled blocks at both ends or at none. -/
theorem ends_eq (h : g.Marked) (hlink : link ∈ g.links) :
    g.isEnabled link.source = g.isEnabled link.target := by
  rw [Bool.eq_iff_iff, h.enabled_iff, h.enabled_iff]
  constructor
  · exact fun hpath => hpath.tail (leads_of_mem hlink)
  · intro hpath
    rcases hpath.cases_tail with hroot | ⟨before, hpath, hleads⟩
    · exact absurd hroot (h.root_unheld link hlink)
    · rwa [h.leads_unique (leads_of_mem hlink) hleads]

/-- Enabling leaves a graph as it is when its enabled blocks are the right ones. -/
theorem refresh_eq (h : g.Marked) : g.refresh.2 = g := by
  have hblocks : g.refresh.2.blocks = g.blocks := by
    refine IdMap.eq_of_get? fun id => (get?_refresh g id).trans ?_
    cases hblock : g.get? id with
    | none => exact hblock.symm
    | some block =>
      have henabled : g.reachable.contains id = block.enabled := by
        rw [← isEnabled_eq hblock, Bool.eq_iff_iff, h.enabled_iff, ← h.mem_reachable_iff]
        exact List.contains_iff_mem
      rw [Option.map_some, henabled]
      exact hblock.symm
  exact congrArg (BlockGraph.mk · g.links g.nextId) hblocks

end Marked

/-! ## Graphs with the same script -/

/-- The second graph has the same enabled blocks as the first, and the same links at them, in the
same order. -/
structure SameScript (g g' : BlockGraph) : Prop where
  enabled_eq : ∀ id, g'.isEnabled id = g.isEnabled id
  get?_eq : ∀ id, g.isEnabled id = true → g'.get? id = g.get? id
  links_eq : g'.links.filter g.atScript = g.links.filter g.atScript

namespace SameScript

/-- A graph has the same script as itself. -/
theorem refl (g : BlockGraph) : SameScript g g :=
  ⟨fun _ => rfl, fun _ _ => rfl, rfl⟩

theorem atScript_eq (h : SameScript g g') : g'.atScript = g.atScript := by
  funext link
  rw [atScript, h.enabled_eq, h.enabled_eq]
  rfl

/-- Changes outside the script add up to a change outside the script. -/
theorem trans (h : SameScript g g') (h' : SameScript g' g'') : SameScript g g'' := by
  refine ⟨fun id => (h'.enabled_eq id).trans (h.enabled_eq id), fun id hid => ?_, ?_⟩
  · exact (h'.get?_eq id ((h.enabled_eq id).trans hid)).trans (h.get?_eq id hid)
  · have hlinks := h'.links_eq
    rw [h.atScript_eq] at hlinks
    exact hlinks.trans h.links_eq

/-- The links within the script are the same. -/
theorem mem_links_iff (h : SameScript g g') (hend : g.atScript link = true) :
    link ∈ g'.links ↔ link ∈ g.links := by
  have hmem := congrArg (link ∈ ·) h.links_eq
  simpa only [List.mem_filter, hend, and_true, eq_iff_iff] using hmem

/-- In the second graph, too, a link has enabled blocks at both ends or at none. -/
theorem ends_eq (h : SameScript g g') (hmarked : g.Marked) (hlink : link ∈ g'.links) :
    g.isEnabled link.source = g.isEnabled link.target := by
  by_cases hend : g.atScript link = true
  · exact hmarked.ends_eq ((h.mem_links_iff hend).1 hlink)
  · rw [Bool.not_eq_true, atScript, Bool.or_eq_false_iff] at hend
    rw [hend.1, hend.2]

/-- The script leads to the same blocks. -/
theorem marked (h : SameScript g g') (hmarked : g.Marked) (hsound : g'.Sound) : g'.Marked where
  toSound := hsound
  enabled_iff := by
    intro id
    rw [h.enabled_eq]
    constructor
    · intro hid
      rw [hmarked.enabled_iff] at hid
      induction hid with
      | refl => exact .refl
      | @tail before after hpath hleads ih =>
        rcases hleads with ⟨outlet, hlink⟩
        have hend : g.atScript ⟨before, outlet, after⟩ = true := by
          rw [atScript, (hmarked.enabled_iff before).2 hpath, Bool.true_or]
        exact ih.tail ⟨outlet, (h.mem_links_iff hend).2 hlink⟩
    · intro hpath
      induction hpath with
      | refl => exact (hmarked.enabled_iff root).2 .refl
      | tail _ hleads ih =>
        rcases hleads with ⟨outlet, hlink⟩
        exact (h.ends_eq hmarked hlink).symm.trans ih

/-! ## Edits of disabled blocks -/

/-- Links lead from enabled blocks to enabled blocks, and from disabled ones to disabled ones. -/
theorem enabled_of_leads (h : SameScript g g') (hmarked : g.Marked)
    (hpath : ReflTransGen g'.Leads a b) : g.isEnabled a = g.isEnabled b := by
  induction hpath with
  | refl => rfl
  | tail _ hleads ih =>
    rcases hleads with ⟨outlet, hlink⟩
    exact ih.trans (h.ends_eq hmarked hlink)

/-- Writing disabled blocks, and links that are not at an enabled block, leaves the script. -/
theorem write (h : SameScript g g')
    (hblocks : ∀ id, g''.get? id = g'.get? id ∨ g.isEnabled id = false ∧ g''.isEnabled id = false)
    (hlinks : g''.links.filter g.atScript = g'.links.filter g.atScript) : SameScript g g'' where
  enabled_eq := by
    intro id
    rcases hblocks id with hsame | ⟨hold, hnew⟩
    · rw [← h.enabled_eq id, isEnabled, isEnabled, hsame]
    · rw [hold, hnew]
  get?_eq := by
    intro id hid
    rcases hblocks id with hsame | ⟨hold, -⟩
    · exact hsame.trans (h.get?_eq id hid)
    · exact absurd (hid.symm.trans hold) (by simp)
  links_eq := hlinks.trans h.links_eq

/-- A link outside the script may be added. -/
theorem addLink (h : SameScript g g') (hlink : g.atScript link = false) :
    SameScript g (g'.addLink link) :=
  h.write (fun _ => .inl rfl) (List.filter_cons_of_neg (ne_true_of_eq_false hlink))

/-- Links may be taken away where they are not at an enabled block. -/
theorem keepLinks (h : SameScript g g') {p : Link → Bool}
    (hkept : ∀ link ∈ g'.links, g.atScript link = true → p link = true) :
    SameScript g { g' with links := g'.links.filter p } := by
  refine h.write (fun _ => .inl rfl) ?_
  rw [List.filter_filter]
  refine List.filter_congr fun link hlink => ?_
  rw [Bool.and_eq_left_iff_imp]
  exact hkept link hlink

/-- A link at an enabled block neither leaves nor enters a disabled one. -/
theorem ne_of_atScript (h : SameScript g g') (hmarked : g.Marked) (hlink : link ∈ g'.links)
    (hend : g.atScript link = true) (hid : g.isEnabled id = false) :
    link.source ≠ id ∧ link.target ≠ id := by
  have hends := h.ends_eq hmarked hlink
  rw [atScript, hends, Bool.or_self] at hend
  constructor
  · rintro rfl
    rw [hid, hend] at hends
    exact Bool.false_ne_true hends
  · rintro rfl
    exact Bool.false_ne_true (hid.symm.trans hend)

theorem dropIncoming (h : SameScript g g') (hmarked : g.Marked) (hid : g.isEnabled id = false) :
    SameScript g (g'.dropIncoming id) :=
  h.keepLinks fun _ hlink hend => bne_iff_ne.2 (h.ne_of_atScript hmarked hlink hend hid).2

/-- What hangs from a block outside the script may be let go. -/
theorem dropOutlet (h : SameScript g g') (hmarked : g.Marked) (hid : g.isEnabled id = false)
    (outlet : Outlet) : SameScript g (g'.dropOutlet id outlet) := by
  refine h.keepLinks fun link hlink hend => ?_
  rw [beq_false_of_ne (h.ne_of_atScript hmarked hlink hend hid).1]
  rfl

/-- A stack of disabled blocks ends with a disabled block. -/
theorem enabled_stackTail (h : SameScript g g') (hmarked : g.Marked) (id : BlockId) :
    g.isEnabled (g'.stackTail id) = g.isEnabled id := by
  unfold stackTail
  cases hlast : (g'.chainFrom id).getLast? with
  | none => rfl
  | some last =>
    have hfollows : g'.Follows id last := mem_walk (List.mem_of_getLast? hlast)
    exact (h.enabled_of_leads hmarked (leads_of_follows hfollows)).symm

/-- A stack of disabled blocks goes to a disabled block. -/
theorem plug (h : SameScript g g') (hmarked : g.Marked) (hid : g.isEnabled id = false)
    (hchild : g.isEnabled child = false) (outlet : Outlet) :
    SameScript g (g'.plug id outlet child) := by
  have hplaced : SameScript g ((g'.dropOutlet id outlet).addLink ⟨id, outlet, child⟩) :=
    (h.dropOutlet hmarked hid outlet).addLink (Bool.or_eq_false_iff.2 ⟨hid, hchild⟩)
  rw [BlockGraph.plug]
  cases hread : g'.target? id outlet with
  | none => exact hplaced
  | some displaced =>
    have hdisplaced := h.ends_eq hmarked (mem_links_of_target? hread)
    have htail := hplaced.enabled_stackTail hmarked child
    exact hplaced.addLink (Bool.or_eq_false_iff.2
      ⟨htail.trans hchild, hdisplaced.symm.trans hid⟩)

/-- A disabled block leaves its place to the block that follows, and both are disabled, too. -/
theorem unplug (h : SameScript g g') (hmarked : g.Marked) (hid : g.isEnabled id = false) :
    SameScript g (g'.unplug id) := by
  rw [BlockGraph.unplug]
  cases hparent : g'.parent id with
  | none => exact h
  | some place =>
    rcases place with ⟨source, outlet⟩
    have hloose := h.dropIncoming hmarked hid
    have hsource := h.ends_eq hmarked (mem_links_of_parent hparent)
    cases hnext : (g'.dropIncoming id).next id with
    | none => simpa only [hnext] using hloose
    | some after =>
      have hafter := hloose.ends_eq hmarked (mem_links_of_target? hnext)
      simp only [hnext]
      exact (hloose.dropOutlet hmarked hid .next).addLink
        (Bool.or_eq_false_iff.2 ⟨hsource.trans hid, hafter.symm.trans hid⟩)

/-- Blocks outside the script may be deleted. -/
theorem delete (h : SameScript g g') (hmarked : g.Marked) {doomed : List BlockId}
    (hdoomed : ∀ id ∈ doomed, g.isEnabled id = false) : SameScript g (g'.delete doomed) := by
  refine h.write (fun id => ?_) ?_
  · by_cases hgone : id ∈ doomed
    · have hnone : (g'.delete doomed).get? id = none := (get?_delete g' doomed id).trans (if_pos hgone)
      exact .inr ⟨hdoomed id hgone, by rw [isEnabled, hnone]⟩
    · exact .inl ((get?_delete g' doomed id).trans (if_neg hgone))
  · refine (List.filter_filter ..).trans (List.filter_congr fun link hlink => ?_)
    rw [Bool.and_eq_left_iff_imp]
    intro hend
    have hkept : ∀ id ∈ doomed, link.source ≠ id ∧ link.target ≠ id :=
      fun id hgone => h.ne_of_atScript hmarked hlink hend (hdoomed id hgone)
    rw [Bool.and_eq_true, Bool.not_eq_true', Bool.not_eq_true', ← Bool.not_eq_true,
      ← Bool.not_eq_true, List.contains_iff_mem, List.contains_iff_mem]
    exact ⟨fun hgone => (hkept _ hgone).1 rfl, fun hgone => (hkept _ hgone).2 rfl⟩

/-- The fields of a block outside the script may be set. -/
theorem setField {name value : String} (hid : g.isEnabled id = false)
    (hset : g.setField id name value = .ok g') : SameScript g g' := by
  rcases setField_eq_ok hset with ⟨block, hblock, hg'⟩
  refine (refl g).write (fun other => ?_) (by rw [hg'])
  by_cases hsame : other = id
  · have hwritten : g'.get? other = some (block.setField name value) := by
      rw [hg', hsame]
      exact IdMap.get?_insert_self _ _ _
    rw [hsame] at hwritten ⊢
    exact .inr ⟨hid, (isEnabled_eq hwritten).trans ((isEnabled_eq hblock).symm.trans hid)⟩
  · rw [hg']
    exact .inl (IdMap.get?_insert_ne _ hsame _)

end SameScript

namespace Marked

variable (h : g.Marked)

include h

/-- A new block is disabled. -/
theorem insert (kind : BlockKind) (slots : List Slot) (fields : List (String × String)) :
    SameScript g (g.insert kind slots fields).2 := by
  refine (SameScript.refl g).write (fun id => ?_) rfl
  have hget := get?_insert g kind slots fields id
  by_cases hnew : id = g.nextId
  · have hunused : g.isEnabled id = false := isEnabled_of_absent (hnew ▸ h.not_contains_nextId)
    exact .inr ⟨hunused, isEnabled_eq (hget.trans (if_pos hnew))⟩
  · exact .inl (hget.trans (if_neg hnew))

theorem attach (howner : g.isEnabled owner = false) (hchild : g.isEnabled child = false)
    (hattach : g.attach owner slot child = .ok g') : SameScript g g' := by
  rcases attach_eq_ok_iff.1 hattach with ⟨-, -, -, -, rfl⟩
  exact ((SameScript.refl g).dropIncoming h hchild).plug h howner hchild (.slot slot)

theorem insertAfter (hprevious : g.isEnabled previous = false)
    (hchild : g.isEnabled child = false) (hinsert : g.insertAfter previous child = .ok g') :
    SameScript g g' := by
  rcases insertAfter_eq_ok_iff.1 hinsert with ⟨-, -, -, -, rfl⟩
  exact ((SameScript.refl g).dropIncoming h hchild).plug h hprevious hchild .next

/-- A block outside the script may be detached. -/
theorem detach {heal : Bool} (hid : g.isEnabled id = false)
    (hdetach : g.detach id heal = .ok g') : SameScript g g' := by
  rcases detach_eq_ok_iff.1 hdetach with ⟨-, -, rfl⟩
  cases heal with
  | true => exact (SameScript.refl g).unplug h hid
  | false => exact (SameScript.refl g).dropIncoming h hid

/-- Only disabled blocks are deleted with a disabled block. -/
theorem remove {doomed : List BlockId} (hid : g.isEnabled id = false)
    (hremove : g.remove id = .ok (doomed, g')) :
    SameScript g g' ∧ ∀ other ∈ doomed, g.isEnabled other = false := by
  rcases remove_eq_ok_iff.1 hremove with ⟨-, -, rfl, rfl⟩
  have halone := ((SameScript.refl g).unplug h hid).dropOutlet h hid .next
  have hdoomed : ∀ other ∈ ((g.unplug id).dropOutlet id .next).withContents id,
      g.isEnabled other = false := fun other hmem =>
    (halone.enabled_of_leads h (reaches_of_mem_withContents hmem)).symm.trans hid
  exact ⟨halone.delete h hdoomed, hdoomed⟩

end Marked

/-! ## What is read at enabled blocks -/

namespace SameScript

variable (h : SameScript g g') (hmarked : g.Marked) (hsound : g'.Sound)

include h hmarked hsound

/-- From a block of the script, every outlet leads to where it led. -/
theorem target?_eq (hid : g.isEnabled id = true) (outlet : Outlet) :
    g'.target? id outlet = g.target? id outlet := by
  apply Option.ext
  intro target
  rw [hsound.target?_eq_some_iff, hmarked.target?_eq_some_iff]
  exact h.mem_links_iff (by rw [atScript, hid, Bool.true_or])

/-- Chains of enabled blocks are the same. -/
theorem orbit {chain : List BlockId} (horbit : Orbit g.next head chain)
    (hhead : g.isEnabled head = true) : Orbit g'.next head chain := by
  induction horbit with
  | last stop => exact .last ((h.target?_eq hmarked hsound hhead .next).trans stop)
  | more go _ ih =>
    have hnext := (hmarked.ends_eq (mem_links_of_target? go)).symm.trans hhead
    exact .more ((h.target?_eq hmarked hsound hhead .next).trans go) (ih hnext)

/-- A slot of a block of the script holds the same chain. -/
theorem holds {chain : List BlockId} (hholds : g.Holds owner slot chain)
    (howner : g.isEnabled owner = true) : g'.Holds owner slot chain := by
  have hread := h.target?_eq hmarked hsound howner (.slot slot)
  cases hholds with
  | empty nothing => exact .empty (hread.trans nothing)
  | stack first onward =>
    have hfirst := (hmarked.ends_eq (mem_links_of_target? first)).symm.trans howner
    exact .stack (hread.trans first) (h.orbit hmarked hsound onward hfirst)

/-- The slots of enabled blocks hold the same blocks. -/
theorem slotChain_eq (howner : g.isEnabled owner = true) (slot : String) :
    g'.slotChain owner slot = g.slotChain owner slot :=
  (hsound.holds_slotChain owner slot).unique
    (h.holds hmarked hsound (hmarked.holds_slotChain owner slot) howner)

/-- An enabled block is in the same slot. -/
theorem surroundParent_eq (hid : g.isEnabled id = true) :
    g'.surroundParent id = g.surroundParent id := by
  have hid' : g'.isEnabled id = true := (h.enabled_eq id).trans hid
  apply Option.ext
  rintro ⟨owner, slot⟩
  rw [hsound.surroundParent_eq_some_iff (contains_of_isEnabled hid'),
    hmarked.surroundParent_eq_some_iff (contains_of_isEnabled hid)]
  cases howner : g.isEnabled owner with
  | true => rw [h.slotChain_eq hmarked hsound howner]
  | false =>
    -- a disabled block holds disabled blocks only, in either graph
    have hnone : ∀ {g'' : BlockGraph}, SameScript g g'' → g''.Sound →
        id ∉ g''.slotChain owner slot := by
      intro g'' hsame hsound'' hmem
      have hpath := (hsound''.leads_of_mem_slotChain hmem).to_reflTransGen
      have hends := hsame.enabled_of_leads hmarked hpath
      rw [howner, hid] at hends
      exact Bool.false_ne_true hends
    exact iff_of_false (hnone h hsound) (hnone (.refl g) hmarked.toSound)

end SameScript

end BlockGraph

end ShellComposer
