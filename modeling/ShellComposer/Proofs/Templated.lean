import ShellComposer.Proofs.Mutating

/-!
# Blocks keep to their templates

Every block of a workspace was placed from the template of a definition, and nothing that happens
afterwards touches its kind, its slots or its meaning.  So at any time the catalog defines the kind
of every block, and its slots and its meaning are those of the template.

Main results:

- Structure `Workspace.Templated`.
- Structure `Workspace.Valid` and theorem `valid_run`: what holds after any run.
- Inductive relation `Workspace.Reached` and theorem `Reached.valid`: and when notices are read in
  between.
- Theorem `settled_answer`: a change that succeeds leaves nothing to repair.
-/

namespace ShellComposer

open BlockGraph

namespace Workspace

variable {w w' : Workspace} {id : BlockId} {kind : BlockKind} {slots : List Slot}

/-- Every block is as the template of its definition made it, apart from the values of its fields,
only the script stands for the script, and only blocks have a meaning. -/
structure Templated (w : Workspace) : Prop where
  template_eq : ∀ id kind slots, w.graph.shape? id = some (kind, slots) →
    ∃ definition, w.catalog.definition? kind = some definition ∧
      slots = definition.template.slots ∧ w.meanings.get? id = some definition.template.meaning ∧
      ∀ entry ∈ definition.template.fields, (w.graph.field? id entry.1).isSome = true
  root_script : ∃ slots, w.graph.shape? root = some (.script, slots)
  script_root : ∀ id slots, w.graph.shape? id = some (.script, slots) → id = root
  meant_present : ∀ id, w.meanings.contains id = true → w.graph.contains id = true

/-- The shape of a block is its kind and its slots. -/
theorem shape?_eq_some_iff {g : BlockGraph} : g.shape? id = some (kind, slots) ↔
    ∃ block, g.get? id = some block ∧ block.kind = kind ∧ block.slots = slots := by
  rw [shape?, Option.map_eq_some_iff]
  simp only [Prod.mk.injEq]

/-- Templates do not depend on anything but the catalog, the meanings and the shape of blocks. -/
theorem Templated.of_sameFrame (h : w.Templated) (hsame : SameFrame w w') : w'.Templated := by
  rcases hsame with ⟨hcatalog, -, hmeanings, hshape, hfields⟩
  refine ⟨fun id kind slots hid => ?_, ?_, fun id slots hid => ?_, fun id hid => ?_⟩
  · rw [hcatalog, hmeanings]
    obtain ⟨definition, hknown, hslots, hmeant, hkept⟩ :=
      h.template_eq id kind slots ((hshape id).symm.trans hid)
    exact ⟨definition, hknown, hslots, hmeant,
      fun entry hentry => hfields id entry.1 (hkept entry hentry)⟩
  · rw [hshape]
    exact h.root_script
  · exact h.script_root id slots ((hshape id).symm.trans hid)
  · rw [hmeanings] at hid
    rw [contains_congr (hshape id)]
    exact h.meant_present id hid

/-- A block that is placed keeps to its template, and so do the others. -/
theorem Templated.place {definition : Definition} (h : w.Templated) (hsound : w.graph.Sound)
    (hknown : w.catalog.definition? kind = some definition) (hscript : definition ≠ .script) :
    (w.place kind definition.template).2.Templated := by
  have hunmeant : w.meanings.contains w.graph.nextId = false := by
    rw [← Bool.not_eq_true]
    intro hmeant
    exact Bool.false_ne_true (hsound.not_contains_nextId.symm.trans (h.meant_present _ hmeant))
  have hmeanings : (w.place kind definition.template).2.meanings =
      w.meanings.insert w.graph.nextId definition.template.meaning :=
    if_neg (ne_true_of_eq_false hunmeant)
  have hget : ∀ id, (w.place kind definition.template).2.graph.get? id =
      if id = w.graph.nextId
      then some ⟨kind, definition.template.fields, definition.template.slots, false⟩
      else w.graph.get? id := get?_insert w.graph kind _ _
  have hshape : ∀ id, (w.place kind definition.template).2.graph.shape? id =
      if id = w.graph.nextId then some (kind, definition.template.slots)
      else w.graph.shape? id := by
    intro id
    refine (congrArg _ (hget id)).trans ?_
    split <;> rfl
  have hkind : kind ≠ .script := by
    rintro rfl
    exact hscript (Option.some.inj hknown).symm
  refine ⟨fun id kind' slots hid => ?_, ?_, fun id slots hid => ?_, fun id hid => ?_⟩
  · rw [hshape] at hid
    rw [hmeanings]
    split at hid
    · rename_i hnew
      rcases Prod.mk.inj (Option.some.inj hid) with ⟨rfl, rfl⟩
      refine ⟨definition, hknown, rfl, hnew ▸ IdMap.get?_insert_self _ _ _, fun entry hentry => ?_⟩
      rw [field?, hget, if_pos hnew, Option.bind_some]
      exact Block.isSome_field?_iff.2 ⟨entry, hentry, rfl⟩
    · rename_i hold
      rw [IdMap.get?_insert_ne _ hold]
      simp only [field?, hget, if_neg hold]
      exact h.template_eq id kind' slots hid
  · rw [hshape, if_neg (Nat.ne_of_lt (hsound.handed_out root hsound.root_present))]
    exact h.root_script
  · rw [hshape] at hid
    split at hid
    · exact absurd (congrArg Prod.fst (Option.some.inj hid)) hkind
    · exact h.script_root id slots hid
  · rw [contains_iff]
    by_cases hnew : id = w.graph.nextId
    · exact ⟨_, (hget id).trans (if_pos hnew)⟩
    · rw [IdMap.contains, hmeanings, IdMap.get?_insert_ne _ hnew] at hid
      rcases contains_iff.1 (h.meant_present id hid) with ⟨block, hblock⟩
      exact ⟨block, (hget id).trans ((if_neg hnew).trans hblock)⟩

/-- Deleting blocks leaves the others to their templates. -/
theorem Templated.forget {doomed : List BlockId} {g : BlockGraph} (h : w.Templated)
    (hsound : w.graph.Sound) (hremove : w.graph.remove id = .ok (doomed, g)) :
    (w.forget g doomed).Templated := by
  have hget := get?_remove hremove
  have hmeaning : ∀ other, (w.forget g doomed).meanings.get? other =
      if other ∈ doomed then none else w.meanings.get? other :=
    fun other => w.meanings.get?_foldl_erase doomed other
  have hshape : ∀ other shape, g.shape? other = some shape →
      other ∉ doomed ∧ w.graph.shape? other = some shape := by
    intro other shape hother
    rw [shape?, hget] at hother
    split at hother
    · simp at hother
    · rename_i hkept
      exact ⟨hkept, hother⟩
  refine ⟨fun other kind slots hother => ?_, ?_, fun other slots hother => ?_,
    fun other hother => ?_⟩
  · rcases hshape other _ hother with ⟨hkept, hbefore⟩
    rcases h.template_eq other kind slots hbefore with ⟨definition, hknown, hslots, hmeant, hfields⟩
    have hsame : g.get? other = w.graph.get? other := (hget other).trans (if_neg hkept)
    refine ⟨definition, hknown, hslots, by rw [hmeaning, if_neg hkept, hmeant], ?_⟩
    intro entry hentry
    have hfield := hfields entry hentry
    rwa [field?, ← hsame] at hfield
  · rcases contains_iff.1 (hsound.remove hremove).root_present with ⟨block, hblock⟩
    have hroot := hget root
    rw [hblock] at hroot
    split at hroot
    · simp at hroot
    · rcases h.root_script with ⟨slots, hslots⟩
      refine ⟨slots, ?_⟩
      have hsame : g.shape? root = w.graph.shape? root := by rw [shape?, shape?, hblock, hroot]
      exact hsame.trans hslots
  · exact h.script_root other slots (hshape other _ hother).2
  · rw [IdMap.contains, hmeaning] at hother
    split at hother
    · simp at hother
    · rename_i hkept
      rcases contains_iff.1 (h.meant_present other hother) with ⟨block, hblock⟩
      exact contains_iff.2 ⟨block, (hget other).trans ((if_neg hkept).trans hblock)⟩

/-- Every change leaves all blocks made from their templates. -/
theorem Change.templated (hchange : Change w w') (h : w.Templated) (hsound : w.graph.Sound) :
    w'.Templated := by
  cases hchange with
  | none => exact h
  | placed known notScript => exact h.place hsound known notScript
  | edited done kept => exact h.of_sameFrame ⟨rfl, rfl, rfl, kept⟩
  | removed done => exact h.forget hsound done

/-! ## Runs -/

/-- So does every mutation, whatever its answer. -/
theorem templated_answer (htended : w.Tended) (h : w.Templated) (mutation : Mutation) :
    (mutation.answer w).workspace.Templated := by
  rcases w.answer_cases mutation with ⟨fault, hrun⟩ | ⟨w', ids, hchange, hrun⟩
  · rw [hrun]
    exact h
  · rw [hrun]
    exact (hchange.templated h htended.sound).of_sameFrame
      (sameFrame_react (hchange.tended htended).sound)

theorem templated_new (catalog : Catalog) (settings : Settings) :
    (new catalog settings).Templated := by
  have hroot : ∀ id kind slots, (new catalog settings).graph.shape? id = some (kind, slots) →
      id = root ∧ kind = .script ∧ slots = scriptSlots := by
    intro id kind slots hid
    rcases shape?_eq_some_iff.1 hid with ⟨block, hblock, rfl, rfl⟩
    rcases get?_new_eq_some hblock with ⟨rfl, rfl⟩
    exact ⟨rfl, rfl, rfl⟩
  refine ⟨fun id kind slots hid => ?_, ⟨scriptSlots, rfl⟩, fun id slots hid => ?_, fun id hid => ?_⟩
  · rcases hroot id kind slots hid with ⟨rfl, rfl, rfl⟩
    exact ⟨.script, rfl, rfl, rfl, fun entry hentry => absurd hentry List.not_mem_nil⟩
  · exact (hroot id _ slots hid).1
  · by_cases hsame : id = root
    · subst hsame
      rfl
    · have hnone : (new catalog settings).meanings.get? id = none :=
        IdMap.get?_insert_ne .empty hsame _
      rw [IdMap.contains, hnone] at hid
      exact absurd hid (by simp)

/-- What holds of a workspace after any run of changes under a catalog and settings. -/
structure Valid (catalog : Catalog) (settings : Settings) (w : Workspace) : Prop where
  tended : w.Tended
  consistent : w.Consistent
  templated : w.Templated
  catalog_eq : w.catalog = catalog
  settings_eq : w.settings = settings

/-- No change touches the catalog or the settings. -/
theorem Change.setting (hchange : Change w w') :
    w'.catalog = w.catalog ∧ w'.settings = w.settings := by
  cases hchange <;> exact ⟨rfl, rfl⟩

/-- A change keeps all of this, whether it succeeds or fails. -/
theorem Valid.answer {catalog : Catalog} {settings : Settings} (h : Valid catalog settings w)
    (mutation : Mutation) : Valid catalog settings (mutation.answer w).workspace := by
  rcases consistent_answer ⟨h.tended, h.consistent⟩ mutation with ⟨htended', hconsistent'⟩
  have htemplated' := templated_answer h.tended h.templated mutation
  refine ⟨htended', hconsistent', htemplated', ?_, ?_⟩ <;>
    rcases w.answer_cases mutation with ⟨fault, hrun⟩ | ⟨w', ids, hchange, hrun⟩
  · rw [hrun]
    exact h.catalog_eq
  · rw [hrun]
    have hsame := sameFrame_react (hchange.tended h.tended).sound
    exact hsame.catalog_eq.trans (hchange.setting.1.trans h.catalog_eq)
  · rw [hrun]
    exact h.settings_eq
  · rw [hrun]
    have hsame := sameFrame_react (hchange.tended h.tended).sound
    exact hsame.settings_eq.trans (hchange.setting.2.trans h.settings_eq)

/-- The script alone keeps to all of this. -/
theorem valid_new (catalog : Catalog) (settings : Settings) :
    Valid catalog settings (new catalog settings) := by
  rcases consistent_new catalog settings with ⟨htended, hconsistent⟩
  exact ⟨htended, hconsistent, templated_new catalog settings, rfl, rfl⟩

/-- Reading the notices does nothing else. -/
theorem Valid.drainNotices {catalog : Catalog} {settings : Settings}
    (h : Valid catalog settings w) : Valid catalog settings w.drainNotices.2 := by
  rcases h with ⟨⟨hsound, hcleared⟩, ⟨henabled, hchecked, hdisabled, habsent⟩,
    ⟨htemplate, hroot, hscript, hmeant⟩, hcatalog, hsettings⟩
  exact ⟨⟨hsound, hcleared⟩, ⟨henabled, hchecked, hdisabled, habsent⟩,
    ⟨htemplate, hroot, hscript, hmeant⟩, hcatalog, hsettings⟩

/-- After any run the graph is sound, what follows from it is as it says, and every block keeps to
its template. -/
theorem valid_run (catalog : Catalog) (settings : Settings) (mutations : List Mutation) :
    Valid catalog settings (run catalog settings mutations) :=
  run_induction (P := Valid catalog settings) (valid_new catalog settings)
    (fun _ mutation h => h.answer mutation) mutations

/-- The workspaces that changes lead to, whatever each of them answers, when notices may be read in
between. -/
inductive Reached (catalog : Catalog) (settings : Settings) : Workspace → Prop where
  | new : Reached catalog settings (.new catalog settings)
  | changed {w : Workspace} (mutation : Mutation) (earlier : Reached catalog settings w) :
      Reached catalog settings (mutation.answer w).workspace
  | drained {w : Workspace} (earlier : Reached catalog settings w) :
      Reached catalog settings w.drainNotices.2

/-- A run of changes leads there without reading notices. -/
theorem reached_run (catalog : Catalog) (settings : Settings) (mutations : List Mutation) :
    Reached catalog settings (run catalog settings mutations) :=
  run_induction (P := Reached catalog settings) .new (fun _ mutation h => .changed mutation h)
    mutations

theorem Reached.valid {catalog : Catalog} {settings : Settings} (h : Reached catalog settings w) :
    Valid catalog settings w := by
  induction h with
  | new => exact valid_new catalog settings
  | changed mutation _ ih => exact ih.answer mutation
  | drained _ ih => exact ih.drainNotices

/-- After a change that succeeds there is nothing to repair. -/
theorem settled_answer {ids : List BlockId} {mutation : Mutation} (h : w.Tended)
    (hok : (mutation.answer w).result = .ok ids) : (mutation.answer w).workspace.Settled := by
  rcases w.answer_cases mutation with ⟨fault, hrun⟩ | ⟨w', made, hchange, hrun⟩
  · rw [hrun] at hok
    simp at hok
  · rw [hrun] at hok ⊢
    rcases react_exits (hchange.tended h).sound with ⟨last, -, hends, ⟨hsettled, -⟩ | hfailed⟩
    · have hworkspace : (w'.react.map fun _ => made).workspace = last.refresh.revalidate := hends
      rw [hworkspace]
      exact hsettled
    · rw [Answer.map, hfailed] at hok
      simp [Except.map] at hok

end Workspace

end ShellComposer
