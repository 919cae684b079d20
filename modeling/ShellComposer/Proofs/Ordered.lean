import ShellComposer.Pattern.Compile
import ShellComposer.Proofs.Matching
import ShellComposer.Proofs.Onward

/-!
# Counted repetitions are in order

A counted repetition is only read when it asks for no more rounds than it allows.  So no expression
of a written pattern has a repetition that can never match, and searching for it finds what the
relation of matching says.

Main results:

- Definition `Syntax.Ordered`: no repetition of a tree asks for more rounds than it allows.
- Inductive `StepRead` and theorem `stepRead_of_parseAlternatives`: what one step of reading does.
- Theorem `ordered_parseAlternatives`: the trees that are read are of this kind.
- Theorem `ordered_exprOfText`: so are the expressions of written patterns.
-/

namespace ShellComposer.Pattern

variable {c d : Cursor}

/-! ## Trees -/

mutual
/-- No repetition asks for more rounds than it allows. -/
def Syntax.Ordered : Syntax → Prop
  | .repetition min max body => (∀ most ∈ max, min ≤ most) ∧ body.Ordered
  | .group _ body => body.Ordered
  | .concat parts => Syntax.AllOrdered parts
  | .alternation branches => Syntax.AllOrdered branches
  | _ => True

/-- The same for several trees. -/
def Syntax.AllOrdered : List Syntax → Prop
  | [] => True
  | part :: rest => part.Ordered ∧ Syntax.AllOrdered rest
end

/-- Several trees are in order when each of them is. -/
theorem allOrdered_iff {parts : List Syntax} :
    Syntax.AllOrdered parts ↔ ∀ part ∈ parts, part.Ordered := by
  induction parts with
  | nil => simp [Syntax.AllOrdered]
  | cons part rest ih => simp [Syntax.AllOrdered, ih]

/-- Parts that are in order make a tree that is. -/
theorem ordered_concatOf {parts : List Syntax} (h : ∀ part ∈ parts, part.Ordered) :
    (concatOf parts).Ordered := by
  rw [concatOf.eq_def]
  split
  · trivial
  · exact h _ List.mem_cons_self
  · rw [Syntax.Ordered, allOrdered_iff]
    simpa using h

/-- Branches that are in order make a tree that is. -/
theorem ordered_alternationOf {branches : List Syntax} (h : ∀ branch ∈ branches, branch.Ordered) :
    (alternationOf branches).Ordered := by
  rw [alternationOf.eq_def]
  split
  · exact h _ List.mem_cons_self
  · rw [Syntax.Ordered, allOrdered_iff]
    simpa using h

/-! ## Expressions -/

mutual
/-- Working in the flags leaves the repetitions as they are. -/
theorem ordered_toExpr (tree : Syntax) (mode : Mode) {expr : Expr} {after : Mode}
    (h : tree.Ordered) (hexpr : tree.toExpr mode = some (expr, after)) : expr.Ordered := by
  cases tree with
  | repetition min max body =>
    rw [Syntax.toExpr] at hexpr
    obtain ⟨⟨inner, last⟩, hinner, hexpr⟩ := Option.bind_eq_some_iff.1 hexpr
    obtain ⟨rfl, -⟩ := Prod.mk.inj (Option.some.inj hexpr)
    exact ⟨h.1, ordered_toExpr body mode h.2 hinner⟩
  | group items body =>
    rw [Syntax.toExpr] at hexpr
    obtain ⟨⟨inner, last⟩, hinner, hexpr⟩ := Option.bind_eq_some_iff.1 hexpr
    obtain ⟨rfl, -⟩ := Prod.mk.inj (Option.some.inj hexpr)
    exact ordered_toExpr body (mode.apply items) h hinner
  | concat parts => exact ordered_concatExpr parts mode h hexpr
  | alternation branches => exact ordered_eitherExpr branches mode h hexpr
  | empty | flags _ | assertion _ =>
    obtain ⟨rfl, -⟩ := Prod.mk.inj (Option.some.inj hexpr)
    trivial
  | literal _ | dot | property _ _ | letter _ _ =>
    obtain ⟨members, -, hexpr⟩ := Option.bind_eq_some_iff.1 hexpr
    obtain ⟨rfl, -⟩ := Prod.mk.inj (Option.some.inj hexpr)
    trivial
  | bracketed negated content =>
    obtain ⟨inside, -, hexpr⟩ := Option.bind_eq_some_iff.1 hexpr
    obtain ⟨members, -, hexpr⟩ := Option.bind_eq_some_iff.1 hexpr
    obtain ⟨rfl, -⟩ := Prod.mk.inj (Option.some.inj hexpr)
    trivial

/-- The same for parts that follow each other. -/
theorem ordered_concatExpr (parts : List Syntax) (mode : Mode) {expr : Expr} {after : Mode}
    (h : Syntax.AllOrdered parts) (hexpr : Syntax.concatExpr mode parts = some (expr, after)) :
    expr.Ordered := by
  match parts, h with
  | [], _ =>
    obtain ⟨rfl, -⟩ := Prod.mk.inj (Option.some.inj hexpr)
    trivial
  | [part], h => exact ordered_toExpr part mode h.1 hexpr
  | part :: next :: rest, h =>
    obtain ⟨⟨first, between⟩, hfirst, hexpr⟩ := Option.bind_eq_some_iff.1 hexpr
    obtain ⟨⟨second, last⟩, hsecond, hexpr⟩ := Option.bind_eq_some_iff.1 hexpr
    obtain ⟨rfl, -⟩ := Prod.mk.inj (Option.some.inj hexpr)
    exact ⟨ordered_toExpr part mode h.1 hfirst,
      ordered_concatExpr (next :: rest) between h.2 hsecond⟩

/-- The same for alternatives. -/
theorem ordered_eitherExpr (branches : List Syntax) (mode : Mode) {expr : Expr} {after : Mode}
    (h : Syntax.AllOrdered branches)
    (hexpr : Syntax.eitherExpr mode branches = some (expr, after)) : expr.Ordered := by
  match branches, h with
  | [], _ =>
    obtain ⟨rfl, -⟩ := Prod.mk.inj (Option.some.inj hexpr)
    trivial
  | [branch], h => exact ordered_toExpr branch mode h.1 hexpr
  | branch :: next :: rest, h =>
    obtain ⟨⟨first, between⟩, hfirst, hexpr⟩ := Option.bind_eq_some_iff.1 hexpr
    obtain ⟨⟨second, last⟩, hsecond, hexpr⟩ := Option.bind_eq_some_iff.1 hexpr
    obtain ⟨rfl, -⟩ := Prod.mk.inj (Option.some.inj hexpr)
    exact ⟨ordered_toExpr branch mode h.1 hfirst,
      ordered_eitherExpr (next :: rest) between h.2 hsecond⟩
end

/-! ## Reading -/

/-- Two bounds that are closed are in order. -/
theorem ordered_closeBounds {least most : Nat} {bounds : Nat × Option Nat}
    (h : closeBounds least most c = some (bounds, d)) : ∀ top ∈ bounds.2, bounds.1 ≤ top := by
  rw [closeBounds] at h
  split at h
  · split at h
    · rename_i hle
      obtain ⟨rfl, -⟩ := Prod.mk.inj (Option.some.inj h)
      intro top htop
      obtain rfl := Option.mem_some_iff.1 htop
      exact hle
    · simp at h
  · simp at h

/-- Bounds with an upper one are in order, or have none above. -/
theorem ordered_upperBound {least : Option Nat} {bounds : Nat × Option Nat}
    (h : upperBound least c = some (bounds, d)) : ∀ most ∈ bounds.2, bounds.1 ≤ most := by
  rw [upperBound.eq_def] at h
  split at h
  · obtain ⟨lower, -, h⟩ := Option.bind_eq_some_iff.1 h
    obtain ⟨rfl, -⟩ := Prod.mk.inj (Option.some.inj h)
    intro most hmost
    simp at hmost
  · obtain ⟨lower, -, h⟩ := Option.bind_eq_some_iff.1 h
    obtain ⟨count, -, h⟩ := Option.bind_eq_some_iff.1 h
    obtain ⟨upper, -, h⟩ := Option.bind_eq_some_iff.1 h
    exact ordered_closeBounds h

/-- The bounds of a repetition ask for no more rounds than they allow. -/
theorem ordered_boundsOf {bounds : Nat × Option Nat} (h : boundsOf c = some (bounds, d)) :
    ∀ most ∈ bounds.2, bounds.1 ≤ most := by
  obtain ⟨⟨least, e⟩, -, h⟩ := Option.bind_eq_some_iff.1 h
  rw [boundsAfter] at h
  split at h
  · exact ordered_upperBound h
  · obtain ⟨lower, hlower, h⟩ := Option.bind_eq_some_iff.1 h
    obtain ⟨upper, hupper, h⟩ := Option.bind_eq_some_iff.1 h
    obtain ⟨rfl, -⟩ := Prod.mk.inj (Option.some.inj h)
    intro most hmost
    obtain rfl := Option.mem_some_iff.1 hmost
    exact (Option.some.inj (hlower.symm.trans hupper)).le
  · simp at h

/-- What is repeated was in order before. -/
theorem ordered_popRepeatable {parts rest : List Syntax} {body : Syntax}
    (h : popRepeatable parts = some (body, rest)) (hparts : ∀ part ∈ parts, part.Ordered) :
    body.Ordered ∧ ∀ part ∈ rest, part.Ordered := by
  rw [popRepeatable.eq_def] at h
  split at h
  · simp at h
  · simp at h
  · simp at h
  · obtain ⟨rfl, rfl⟩ := Prod.mk.inj (Option.some.inj h)
    exact List.forall_mem_cons.1 hparts

/-- A part that has no parts of its own. -/
def Syntax.Simple : Syntax → Prop
  | .repetition _ _ _ => False
  | .group _ _ => False
  | .concat _ => False
  | .alternation _ => False
  | _ => True

/-- What has no parts has no repetition that could be out of order. -/
theorem Syntax.Simple.ordered {part : Syntax} (h : part.Simple) : part.Ordered := by
  cases part with
  | repetition | group | concat | alternation => exact h.elim
  | _ => trivial

theorem simple_toSyntax (part : Primitive) : part.toSyntax.Simple := by
  cases part <;> trivial

/-- What one step of reading does before the others: the reading is done, a branch is closed, a part
is added, or the part read last is repeated. -/
inductive StepRead (n : Nat) (branches parts : List Syntax) (read : Syntax × Cursor) : Prop where
  | done (h : read.1 = alternationOf (concatOf parts :: branches))
  | branch {c : Cursor} (h : parseAlternatives n c (concatOf parts :: branches) [] = some read)
  | simple {c : Cursor} {part : Syntax}
      (h : parseAlternatives n c branches (part :: parts) = some read) (hpart : part.Simple)
  | group {c inner behind : Cursor} {items : List FlagItem} {body : Syntax}
      (hbody : parseAlternatives n inner [] [] = some (body, behind))
      (h : parseAlternatives n c branches (.group items body :: parts) = some read)
  | repeated {c : Cursor} {popped : Syntax × List Syntax} {least : Nat} {most : Option Nat}
      (hpop : popRepeatable parts = some popped) (hbounds : ∀ top ∈ most, least ≤ top)
      (h : parseAlternatives n c branches (.repetition least most popped.1 :: popped.2) =
        some read)

/-- Every step of reading is one of these. -/
theorem stepRead_of_parseAlternatives {n : Nat} {branches parts : List Syntax}
    {read : Syntax × Cursor} (h : parseAlternatives (n + 1) c branches parts = some read) :
    StepRead n branches parts read := by
  rw [parseAlternatives] at h
  generalize c.skip = e at h
  simp only at h
  split at h
  · exact .done (congrArg Prod.fst (Option.some.inj h)).symm
  · exact .done (congrArg Prod.fst (Option.some.inj h)).symm
  · exact .branch h
  · obtain ⟨opening, -, h⟩ := Option.bind_eq_some_iff.1 h
    cases opening with
    | directive items inner => exact .simple h trivial
    | group items inner =>
      obtain ⟨⟨body, behind⟩, hbody, h⟩ := Option.bind_eq_some_iff.1 h
      simp only at h
      split at h
      · exact .group hbody h
      · simp at h
  · obtain ⟨content, -, h⟩ := Option.bind_eq_some_iff.1 h
    exact .simple h trivial
  · obtain ⟨popped, hpop, h⟩ := Option.bind_eq_some_iff.1 h
    exact .repeated hpop (by simp) h
  · obtain ⟨popped, hpop, h⟩ := Option.bind_eq_some_iff.1 h
    exact .repeated hpop (by simp) h
  · obtain ⟨popped, hpop, h⟩ := Option.bind_eq_some_iff.1 h
    exact .repeated hpop (by simp) h
  · obtain ⟨popped, hpop, h⟩ := Option.bind_eq_some_iff.1 h
    rw [parseBounds_bind] at h
    obtain ⟨⟨bounds, f⟩, hbounds, h⟩ := Option.bind_eq_some_iff.1 h
    exact .repeated hpop (ordered_boundsOf hbounds) h
  · obtain ⟨part, -, h⟩ := Option.bind_eq_some_iff.1 h
    exact .simple h (simple_toSyntax part.1)
  · exact .simple h trivial
  · exact .simple h trivial
  · exact .simple h trivial
  · exact .simple h trivial

/-- Whatever is read is in order, if what was read before is. -/
theorem ordered_parseAlternatives {n : Nat} {branches parts : List Syntax} {tree : Syntax}
    (hbranches : ∀ branch ∈ branches, branch.Ordered) (hparts : ∀ part ∈ parts, part.Ordered)
    (h : parseAlternatives n c branches parts = some (tree, d)) : tree.Ordered := by
  induction n generalizing c branches parts tree d with
  | zero => simp [parseAlternatives] at h
  | succ n ih =>
    have hclosed : ∀ branch ∈ concatOf parts :: branches, branch.Ordered :=
      List.forall_mem_cons.2 ⟨ordered_concatOf hparts, hbranches⟩
    have hadded : ∀ {part : Syntax} {rest : List Syntax}, part.Ordered →
        (∀ other ∈ rest, other.Ordered) → ∀ other ∈ part :: rest, other.Ordered :=
      fun hpart hrest => List.forall_mem_cons.2 ⟨hpart, hrest⟩
    cases stepRead_of_parseAlternatives h with
    | done h =>
      obtain rfl : tree = _ := h
      exact ordered_alternationOf hclosed
    | branch h => exact ih hclosed (by simp) h
    | simple h hpart => exact ih hbranches (hadded hpart.ordered hparts) h
    | @group _ _ _ items body hbody h =>
      have hordered : body.Ordered := ih (by simp) (by simp) hbody
      exact ih hbranches (hadded (show (Syntax.group items body).Ordered from hordered) hparts) h
    | @repeated _ popped least most hpop hbounds h =>
      obtain ⟨hbody, hrest⟩ := ordered_popRepeatable hpop hparts
      have hordered : (Syntax.repetition least most popped.1).Ordered := ⟨hbounds, hbody⟩
      exact ih hbranches (hadded hordered hrest) h

/-- The expression of a written pattern is in order. -/
theorem ordered_exprOfText {text : String} {expr : Expr} (h : exprOfText text = some expr) :
    expr.Ordered := by
  obtain ⟨tree, htree, h⟩ := Option.bind_eq_some_iff.1 h
  obtain ⟨⟨found, after⟩, hfound, h⟩ := Option.bind_eq_some_iff.1 h
  simp only at h
  split at h
  · obtain rfl := Option.some.inj h
    obtain ⟨⟨read, d⟩, hread, htree⟩ := Option.bind_eq_some_iff.1 htree
    simp only at htree
    split at htree
    · obtain rfl := Option.some.inj htree
      exact ordered_toExpr read .initial (ordered_parseAlternatives (by simp) (by simp) hread)
        hfound
    · simp at htree
  · simp at h

end ShellComposer.Pattern
