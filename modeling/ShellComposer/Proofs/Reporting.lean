import ShellComposer.Proofs.Checking
import ShellComposer.Proofs.Ledger
import ShellComposer.Proofs.Loaded
import ShellComposer.Proofs.Templated

/-!
# What is reported

Three queries read the same ledger: whether the script is blocked, what is reported of its blocks,
and what is recorded at all.  They agree, because only blocks of the script have records and they
have what checking them finds.  A report shows the records of a block by category, and sorting by
category leaves the records of each category in the order in which they are kept.

Main results:

- Theorem `ordered_eq`: the three categories one after the other.
- Theorem `Workspace.Consistent.mem_diagnostics_iff`: the reports, one by one.
- Structure `Workspace.FullyReported` and theorem `fullyReported_of_reached`: what the three queries
  answer after any run of changes.
-/

namespace ShellComposer

/-! ## By category -/

variable {violations : List Violation} {category : ViolationCategory}

/-- The violations of a category, in the order given. -/
def inCategory (category : ViolationCategory) (violations : List Violation) : List Violation :=
  violations.filter fun violation => violation.id.category = category

/-- What is picked for a category belongs to it. -/
theorem category_of_mem_inCategory {violation : Violation}
    (h : violation ∈ inCategory category violations) : violation.id.category = category :=
  of_decide_eq_true (List.mem_filter.1 h).2

theorem inCategory_eq_nil (h : ∀ violation ∈ violations, violation.id.category ≠ category) :
    inCategory category violations = [] := by
  refine List.filter_eq_nil_iff.2 fun violation hmem => ?_
  exact mt of_decide_eq_true (h violation hmem)

theorem inCategory_cons_of_eq {first : Violation} (h : first.id.category = category)
    (rest : List Violation) :
    inCategory category (first :: rest) = first :: inCategory category rest :=
  List.filter_cons_of_pos (decide_eq_true h)

theorem inCategory_cons_of_ne {first : Violation} (h : first.id.category ≠ category)
    (rest : List Violation) : inCategory category (first :: rest) = inCategory category rest :=
  List.filter_cons_of_neg (mt of_decide_eq_true h)

/-- Violations that never go back to an earlier category are the three categories one after the
other. -/
theorem eq_append_inCategory
    (h : violations.Pairwise fun a b => a.id.category.rank ≤ b.id.category.rank) :
    violations = inCategory .missing violations ++ inCategory .sequence violations ++
      inCategory .other violations := by
  induction violations with
  | nil => rfl
  | cons first rest ih =>
    rcases List.pairwise_cons.1 h with ⟨hfirst, hrest⟩
    have hparts := congrArg (first :: ·) (ih hrest)
    -- What ranks below the first violation does not come after it.
    have hnone : ∀ category : ViolationCategory, category.rank < first.id.category.rank →
        inCategory category rest = [] := by
      intro category hrank
      refine inCategory_eq_nil fun violation hmem hsame => ?_
      have hle := hfirst violation hmem
      rw [hsame] at hle
      exact absurd hrank (Nat.not_lt.2 hle)
    cases hcategory : first.id.category with
    | missing =>
      rw [inCategory_cons_of_eq hcategory, inCategory_cons_of_ne (by simp [hcategory]),
        inCategory_cons_of_ne (by simp [hcategory])]
      exact hparts
    | sequence =>
      rw [hcategory] at hnone
      rw [inCategory_cons_of_ne (by simp [hcategory]), inCategory_cons_of_eq hcategory,
        inCategory_cons_of_ne (by simp [hcategory]), hnone .missing (by decide)]
      rwa [hnone .missing (by decide)] at hparts
    | other =>
      rw [hcategory] at hnone
      rw [inCategory_cons_of_ne (by simp [hcategory]), inCategory_cons_of_ne (by simp [hcategory]),
        inCategory_cons_of_eq hcategory, hnone .missing (by decide), hnone .sequence (by decide)]
      rwa [hnone .missing (by decide), hnone .sequence (by decide)] at hparts

/-- Ordering by category loses nothing and adds nothing. -/
theorem ordered_perm (violations : List Violation) : (ordered violations).Perm violations :=
  List.mergeSort_perm _ _

/-- The order of violations is transitive and total, so sorting by it is stable. -/
theorem rank_le_trans (a b c : Violation)
    (hab : decide (a.id.category.rank ≤ b.id.category.rank) = true)
    (hbc : decide (b.id.category.rank ≤ c.id.category.rank) = true) :
    decide (a.id.category.rank ≤ c.id.category.rank) = true :=
  decide_eq_true ((of_decide_eq_true hab).trans (of_decide_eq_true hbc))

/-- Any two violations can be compared by their categories. -/
theorem rank_le_total (a b : Violation) :
    (decide (a.id.category.rank ≤ b.id.category.rank) ||
      decide (b.id.category.rank ≤ a.id.category.rank)) = true := by
  rw [Bool.or_eq_true, decide_eq_true_iff, decide_eq_true_iff]
  exact Nat.le_total _ _

/-- After ordering, no violation stands in front of one whose category comes first. -/
theorem pairwise_ordered (violations : List Violation) :
    (ordered violations).Pairwise fun a b => a.id.category.rank ≤ b.id.category.rank :=
  (List.pairwise_mergeSort rank_le_trans rank_le_total violations).imp of_decide_eq_true

/-- Sorting leaves each category as it is. -/
theorem inCategory_ordered (category : ViolationCategory) (violations : List Violation) :
    inCategory category (ordered violations) = inCategory category violations := by
  have hsorted : (inCategory category violations).Pairwise fun a b =>
      decide (a.id.category.rank ≤ b.id.category.rank) = true := by
    refine List.pairwise_of_forall_mem_list fun a ha b hb => decide_eq_true ?_
    rw [category_of_mem_inCategory ha, category_of_mem_inCategory hb]
  have hsublist : (inCategory category violations).Sublist (ordered violations) :=
    List.sublist_mergeSort rank_le_trans rank_le_total hsorted List.filter_sublist
  have hlength : (inCategory category (ordered violations)).length =
      (inCategory category violations).length := ((ordered_perm violations).filter _).length_eq
  have hfiltered := hsublist.filter fun violation => violation.id.category = category
  rw [inCategory, List.filter_filter] at hfiltered
  simp only [Bool.and_self] at hfiltered
  exact (hfiltered.eq_of_length hlength.symm).symm

/-- Violations are shown by category, each category in the order given. -/
theorem ordered_eq (violations : List Violation) :
    ordered violations = inCategory .missing violations ++ inCategory .sequence violations ++
      inCategory .other violations := by
  have hparts := eq_append_inCategory (pairwise_ordered violations)
  simpa only [inCategory_ordered] using hparts

/-! ## The reports of a workspace -/

namespace Workspace

open BlockGraph Catalog

variable {w : Workspace} {id : BlockId}

/-- A block of the script with something to put right. -/
def Faulty (w : Workspace) (id : BlockId) : Prop :=
  w.graph.isEnabled id = true ∧ w.site.check id ≠ []

/-- The blocks with records are those of the script with something to put right. -/
theorem Consistent.violations_ne_nil_iff (h : w.Consistent) :
    w.violations id ≠ [] ↔ w.Faulty id := by
  rw [h.violations_eq, Site.verdict, Faulty]
  cases henabled : w.graph.isEnabled id with
  | false =>
    have hread : w.site.graph.isEnabled id = false := henabled
    rw [hread]
    exact iff_of_false (not_not_intro rfl) fun hboth => Bool.false_ne_true hboth.1
  | true =>
    have hread : w.site.graph.isEnabled id = true := henabled
    rw [if_pos hread, ne_eq, lastRecords_eq_nil_iff]
    exact (and_iff_right rfl).symm

/-- So they are all that is recorded. -/
theorem Consistent.mem_allViolations_iff (h : w.Consistent) {records : List Violation} :
    (id, records) ∈ w.allViolations ↔ w.Faulty id ∧ records = w.violations id := by
  rw [allViolations, Ledger.mem_listed_iff, ← h.violations_ne_nil_iff]
  constructor
  · rintro ⟨hsome, rfl⟩
    exact ⟨hsome, rfl⟩
  · rintro ⟨hsome, rfl⟩
    exact ⟨hsome, rfl⟩

/-- Nothing that is recorded is left out of the reports. -/
theorem Consistent.filter_allViolations (h : w.Consistent) :
    (w.allViolations.filter fun entry => w.graph.isEnabled entry.1) = w.allViolations :=
  List.filter_eq_self.2 fun _ hentry => (h.mem_allViolations_iff.1 hentry).1.1

/-- The report of a block. -/
def reportOf (w : Workspace) (id : BlockId) : Diagnostic where
  block := id
  subject := subject w.graph w.meanings id
  messages := (ordered (w.violations id)).map Violation.message
  warningText := (warningText (w.violations id)).getD ""

/-- The reports are those of the blocks of the script with something to put right. -/
theorem Consistent.mem_diagnostics_iff (h : w.Consistent) {report : Diagnostic} :
    report ∈ w.diagnostics ↔ ∃ id, w.Faulty id ∧ report = w.reportOf id := by
  have hfilter := h.filter_allViolations
  rw [allViolations] at hfilter
  rw [diagnostics, ShellComposer.diagnostics, hfilter, List.mem_map]
  constructor
  · rintro ⟨⟨id, records⟩, hentry, rfl⟩
    rcases h.mem_allViolations_iff.1 hentry with ⟨hfaulty, rfl⟩
    exact ⟨id, hfaulty, rfl⟩
  · rintro ⟨id, hfaulty, rfl⟩
    exact ⟨(id, w.violations id), h.mem_allViolations_iff.2 ⟨hfaulty, rfl⟩, rfl⟩

/-- Reports are in the order of their blocks. -/
theorem pairwise_diagnostics (w : Workspace) :
    w.diagnostics.Pairwise fun report other => report.block < other.block := by
  rw [diagnostics, ShellComposer.diagnostics, List.pairwise_map]
  exact (w.ledger.records.sorted.filter _).filter _

/-- A consistent workspace is blocked exactly when some block of the script is at fault. -/
theorem Consistent.isBlocked_iff (h : w.Consistent) :
    w.isBlocked = true ↔ ∃ id, w.Faulty id := by
  rw [isBlocked, List.any_eq_true]
  constructor
  · rintro ⟨⟨id, records⟩, hentry, -⟩
    exact ⟨id, (h.mem_allViolations_iff.1 hentry).1⟩
  · rintro ⟨id, hfaulty⟩
    exact ⟨(id, w.violations id), h.mem_allViolations_iff.2 ⟨hfaulty, rfl⟩, hfaulty.1⟩

/-- What the queries about violations answer, and how their answers agree. -/
structure FullyReported (w : Workspace) : Prop where
  /-- The script is blocked exactly when checking finds something about one of its blocks. -/
  blocked_iff_faulty : w.isBlocked = true ↔
    ∃ id, w.graph.isEnabled id = true ∧ w.site.check id ≠ []
  blocked_iff_reported : w.isBlocked = true ↔ w.diagnostics ≠ []
  blocked_iff_recorded : w.isBlocked = true ↔ w.allViolations ≠ []
  /-- A block about which checking finds something has exactly one report. -/
  report_unique : ∀ id, w.graph.isEnabled id = true → w.site.check id ≠ [] →
    ∃! report, report ∈ w.diagnostics ∧ report.block = id
  /-- There are no other reports. -/
  report_faulty : ∀ report ∈ w.diagnostics,
    w.graph.isEnabled report.block = true ∧ w.site.check report.block ≠ []
  increasing : w.diagnostics.Pairwise fun report other => report.block < other.block
  /-- A report shows the messages of all records of its block. -/
  messages_perm : ∀ report ∈ w.diagnostics,
    report.messages.Perm ((w.violations report.block).map Violation.message)
  /-- It shows them by category, and within a category in the order in which they are kept. -/
  messages_eq : ∀ report ∈ w.diagnostics, report.messages =
    (inCategory .missing (w.violations report.block)).map Violation.message ++
      (inCategory .sequence (w.violations report.block)).map Violation.message ++
      (inCategory .other (w.violations report.block)).map Violation.message

theorem Consistent.fullyReported (h : w.Consistent) : w.FullyReported where
  blocked_iff_faulty := h.isBlocked_iff
  blocked_iff_reported := by
    rw [h.isBlocked_iff]
    constructor
    · rintro ⟨id, hfaulty⟩
      exact List.ne_nil_of_mem (h.mem_diagnostics_iff.2 ⟨id, hfaulty, rfl⟩)
    · intro hsome
      rcases List.exists_mem_of_ne_nil _ hsome with ⟨report, hreport⟩
      rcases h.mem_diagnostics_iff.1 hreport with ⟨id, hfaulty, -⟩
      exact ⟨id, hfaulty⟩
  blocked_iff_recorded := by
    rw [h.isBlocked_iff]
    constructor
    · rintro ⟨id, hfaulty⟩
      exact List.ne_nil_of_mem (h.mem_allViolations_iff.2 ⟨hfaulty, rfl⟩)
    · intro hsome
      rcases List.exists_mem_of_ne_nil _ hsome with ⟨⟨id, records⟩, hentry⟩
      exact ⟨id, (h.mem_allViolations_iff.1 hentry).1⟩
  report_unique := by
    intro id henabled hfound
    refine ⟨w.reportOf id, ⟨h.mem_diagnostics_iff.2 ⟨id, ⟨henabled, hfound⟩, rfl⟩, rfl⟩, ?_⟩
    rintro report ⟨hreport, rfl⟩
    rcases h.mem_diagnostics_iff.1 hreport with ⟨id, -, rfl⟩
    rfl
  report_faulty := by
    intro report hreport
    rcases h.mem_diagnostics_iff.1 hreport with ⟨id, hfaulty, rfl⟩
    exact hfaulty
  increasing := w.pairwise_diagnostics
  messages_perm := by
    intro report hreport
    rcases h.mem_diagnostics_iff.1 hreport with ⟨id, -, rfl⟩
    exact (ordered_perm _).map _
  messages_eq := by
    intro report hreport
    rcases h.mem_diagnostics_iff.1 hreport with ⟨id, -, rfl⟩
    rw [reportOf, ordered_eq, List.map_append, List.map_append]

/-- After any run of changes the queries about violations agree, and every report shows all records
of its block by category. -/
theorem fullyReported_of_reached {catalog : Catalog} {settings : Settings}
    (hreached : Reached catalog settings w) : w.FullyReported :=
  hreached.valid.consistent.fullyReported

/-- A small catalog: a command that needs an option it does not have, and an operator. -/
def pipingText : String :=
  "\x7b\"commands\": [\x7b\"shellCommand\": \"ls\", \"optionsMin\": 1\x7d], " ++
    "\"operators\": [\x7b\"id\": \"pipe\", " ++
      "\"slots\": [\x7b\"name\": \"FROM\"\x7d, \x7b\"name\": \"TO\"\x7d]\x7d]\x7d"

/-- The operator. -/
def pipe : OperatorDef where
  id := "pipe"
  label := ""
  description := ""
  color := ""
  slots := [⟨"FROM", none, "command", none, none, none, false, false⟩,
    ⟨"TO", none, "command", none, none, none, false, false⟩]
  slotsWithImplicitData := []

@[inherit_doc pipingText]
def piping : Definitions where
  commands := [⟨none, "ls", "", "", "", "", [], some 1, [], [], none, [], none⟩]
  operators := [pipe]
  controls := []
  categories := []

@[inherit_doc pipingText]
def pipingCatalog : Catalog :=
  .compile Pattern.search piping.normalize

/-- Plug the operator into the script, and two commands into its first slot. -/
def pipingSteps : List Mutation :=
  [.create (.operator "pipe"), .attach root stackSlot 1, .create (.command "ls"),
    .create (.command "ls"), .insertAfter 2 3, .attach 1 "FROM" 2]

/-- The operator has two commands in one slot and none in the other.  The empty slot is reported
first, although the other one is recorded first. -/
theorem fullyReported_piping :
    Catalog.load Pattern.search pipingText = .ok pipingCatalog ∧
      Reached pipingCatalog .standard (run pipingCatalog .standard pipingSteps) ∧
      (run pipingCatalog .standard pipingSteps).FullyReported ∧
      (run pipingCatalog .standard pipingSteps).isBlocked = true ∧
      ((run pipingCatalog .standard pipingSteps).violations 1).map Violation.id =
        [.operatorStackedSlot "FROM", .operatorEmptySlot "TO"] ∧
      ∀ report ∈ (run pipingCatalog .standard pipingSteps).diagnostics, report.block = 1 →
        report.messages = ["The \"TO\" slot is required.", Site.stackedSlot] := by
  have hload : Catalog.load Pattern.search pipingText = .ok pipingCatalog :=
    load_eq_ok (by decide +kernel) (by decide +kernel)
  have hreached := reached_run pipingCatalog .standard pipingSteps
  have hreported := fullyReported_of_reached hreached
  refine ⟨hload, hreached, hreported, by decide +kernel, by decide +kernel, ?_⟩
  intro report hreport hblock
  rw [hreported.messages_eq report hreport, hblock]
  decide +kernel

end Workspace

end ShellComposer
