import ShellComposer.Block.Search
import ShellComposer.Proofs.Walk
import Mathlib.Data.List.Nodup

/-!
# What searches find

Where every block is led to from one block only, a search never meets a block that it has found
before: it need not look whether it has, it finds every block once, each after one that leads to it,
and among finitely many blocks it ends.  A search row by row finds the same blocks in the same
order.

Main results:

- Structure `Branches`: what blocks lead to parts into branches.
- Structure `Search.Orderly` and theorem `Orderly.readNext`: what every step of a search keeps.
- Theorem `Branches.ends_rows`: a search ends with what a search row by row finds.
- Theorem `Branches.ends_readNew`: so does a search that looks at what was found before.
- Theorem `Orderly.mem_found_iff`: what a search has found when it ends.
- Definition `InTurn` and theorem `Search.Ends.inTurn`: in which order.
-/

namespace ShellComposer

open BlockGraph Relation

variable {lead : BlockId → List BlockId} {first id a b : BlockId} {ids row xs ys : List BlockId}
variable {s s' : Search} {step : Search → Option Search} {n : Nat}

/-- Every block leads to different blocks, no two lead to the same, and none leads to the first. -/
structure Branches (lead : BlockId → List BlockId) (first : BlockId) : Prop where
  nodup : ∀ a, (lead a).Nodup
  unique : ∀ {a b c}, c ∈ lead a → c ∈ lead b → a = b
  first_free : ∀ a, first ∉ lead a

namespace Search

/-- One search goes on to another in some steps. -/
abbrev GoesOn (step : Search → Option Search) : Search → Search → Prop :=
  ReflTransGen fun s s' => step s = some s'

/-- A search from a block ends with some blocks when no block waits any longer. -/
def Ends (step : Search → Option Search) (first : BlockId) (found : List BlockId) : Prop :=
  GoesOn step (.start first) ⟨found, []⟩

/-- What is true of a search all along. -/
structure Orderly (lead : BlockId → List BlockId) (first : BlockId) (s : Search) : Prop where
  /-- It found the first block first. -/
  head_eq : s.found.head? = some first
  /-- It found no block twice. -/
  nodup : s.found.Nodup
  /-- All but the first are led to from blocks that it has read. -/
  led : ∀ b ∈ s.found, b = first ∨ ∃ a ∈ s.read, b ∈ lead a
  /-- It found all that the blocks which it has read lead to. -/
  closed : ∀ a ∈ s.read, ∀ b ∈ lead a, b ∈ s.found
  /-- The first block leads to all that it found. -/
  reached : ∀ b ∈ s.found, ReflTransGen (fun a b => b ∈ lead a) first b

/-- A search is orderly at the start. -/
theorem orderly_start (lead : BlockId → List BlockId) (first : BlockId) :
    Orderly lead first (.start first) := by
  refine ⟨rfl, List.nodup_singleton first, fun b hb => .inl (List.mem_singleton.1 hb),
    fun a ha => absurd ha List.not_mem_nil, fun b hb => ?_⟩
  rw [List.mem_singleton.1 hb]

/-- A step reads the next block and adds what it leads to at the end. -/
theorem readNext_eq_some_iff : s.readNext lead = some s' ↔
    ∃ id rest, s.waiting = id :: rest ∧ s' = ⟨s.read ++ [id], rest ++ lead id⟩ := by
  unfold readNext
  split <;> rename_i hwaiting <;> simp [hwaiting, eq_comm]

/-- Reading a block finds the blocks it leads to. -/
theorem found_readNext (lead : BlockId → List BlockId) {rest : List BlockId}
    (hwaiting : s.waiting = id :: rest) :
    (⟨s.read ++ [id], rest ++ lead id⟩ : Search).found = s.found ++ lead id := by
  simp [found, hwaiting]

namespace Orderly

/-- What the next block leads to was not found before. -/
theorem not_mem_found {rest : List BlockId} (h : Orderly lead first s) (hlead : Branches lead first)
    (hwaiting : s.waiting = id :: rest) (hb : b ∈ lead id) : b ∉ s.found := by
  intro hfound
  rcases h.led b hfound with rfl | ⟨a, ha, hlead'⟩
  · exact hlead.first_free id hb
  · obtain rfl := hlead.unique hlead' hb
    have hnodup := h.nodup
    rw [found, List.nodup_append, hwaiting] at hnodup
    exact hnodup.2.2 a ha a List.mem_cons_self rfl

/-- Every step keeps a search orderly. -/
theorem readNext (h : Orderly lead first s) (hlead : Branches lead first)
    (hstep : s.readNext lead = some s') : Orderly lead first s' := by
  rcases readNext_eq_some_iff.1 hstep with ⟨id, rest, hwaiting, rfl⟩
  have hfound := found_readNext lead hwaiting
  have hid : id ∈ s.found := by
    rw [found, hwaiting]
    exact List.mem_append_right _ List.mem_cons_self
  constructor
  case head_eq => rw [hfound, List.head?_append, h.head_eq, Option.some_or]
  case nodup =>
    rw [hfound, List.nodup_append]
    refine ⟨h.nodup, hlead.nodup id, fun x hx y hy hsame => ?_⟩
    exact h.not_mem_found hlead hwaiting hy (hsame ▸ hx)
  case led =>
    intro b hb
    rw [hfound, List.mem_append] at hb
    rcases hb with hold | hnew
    · exact (h.led b hold).imp_right fun ⟨a, ha, hb⟩ => ⟨a, List.mem_append_left _ ha, hb⟩
    · exact .inr ⟨id, List.mem_append_right _ (List.mem_singleton.2 rfl), hnew⟩
  case closed =>
    intro a ha b hb
    rw [hfound]
    rcases List.mem_append.1 ha with hold | hnew
    · exact List.mem_append_left _ (h.closed a hold b hb)
    · rw [List.mem_singleton.1 hnew] at hb
      exact List.mem_append_right _ hb
  case reached =>
    intro b hb
    rw [hfound, List.mem_append] at hb
    rcases hb with hold | hnew
    · exact h.reached b hold
    · exact (h.reached id hid).tail hnew

/-- Every step of a search keeps it orderly. -/
theorem goesOn (h : Orderly lead first s) (hlead : Branches lead first)
    (hsteps : GoesOn (Search.readNext lead) s s') : Orderly lead first s' := by
  induction hsteps with
  | refl => exact h
  | tail _ hstep ih => exact ih.readNext hlead hstep

/-- When no block waits any longer, a search has found all that its first block leads to. -/
theorem mem_found_iff (h : Orderly lead first ⟨xs, []⟩) :
    b ∈ xs ↔ ReflTransGen (fun a b => b ∈ lead a) first b := by
  have hfound : (⟨xs, []⟩ : Search).found = xs := List.append_nil xs
  constructor
  · exact fun hb => h.reached b (hfound.symm ▸ hb)
  · intro hpath
    induction hpath with
    | refl =>
      have hhead := h.head_eq
      rw [hfound] at hhead
      exact List.mem_of_head? hhead
    | tail _ hstep ih => exact hfound ▸ h.closed _ ih _ hstep

/-- A search finds no more blocks than there are. -/
theorem length_found_le (h : Orderly lead first s) (hfirst : first ∈ ids)
    (hclosed : ∀ a b, b ∈ lead a → b ∈ ids) : s.read.length + s.waiting.length ≤ ids.length := by
  rw [← List.length_append]
  refine h.nodup.length_le_of_subset fun b hb => ?_
  rcases h.led b hb with rfl | ⟨a, -, hlead⟩
  · exact hfirst
  · exact hclosed a b hlead

/-- A search that looks at what was found before takes the same steps. -/
theorem readNew_eq (h : Orderly lead first s) (hlead : Branches lead first) :
    s.readNew lead = s.readNext lead := by
  have hfold : ∀ (xs : List BlockId) (s : Search), xs.Nodup → (∀ x ∈ xs, x ∉ s.found) →
      xs.foldl discover s = ⟨s.read, s.waiting ++ xs⟩ := by
    intro xs
    induction xs with
    | nil => exact fun s _ _ => by rw [List.append_nil]; rfl
    | cons x rest ih =>
      intro s hnodup hnew
      have ⟨hx, hrest⟩ := List.nodup_cons.1 hnodup
      rw [List.foldl_cons, discover, if_neg (hnew x List.mem_cons_self), ih _ hrest]
      · simp
      · intro y hy hfound
        have hfound' : y ∈ s.found ++ [x] := by simpa [found, or_assoc] using hfound
        rcases List.mem_append.1 hfound' with hold | hsame
        · exact hnew y (List.mem_cons_of_mem _ hy) hold
        · exact hx (List.mem_singleton.1 hsame ▸ hy)
  unfold readNew Search.readNext
  split
  · rfl
  · rename_i id rest hwaiting
    rw [hfold _ _ (hlead.nodup id)]
    intro b hb hfound
    refine h.not_mem_found hlead hwaiting hb ?_
    simpa [found, hwaiting] using hfound

end Orderly

/-- The blocks of a row are read one after the other. -/
theorem goesOn_row (lead : BlockId → List BlockId) (read row more : List BlockId) :
    GoesOn (Search.readNext lead) ⟨read, row ++ more⟩
      ⟨read ++ row, more ++ row.flatMap lead⟩ := by
  induction row generalizing read more with
  | nil => simpa using ReflTransGen.refl
  | cons id rest ih =>
    refine .head (b := ⟨read ++ [id], rest ++ (more ++ lead id)⟩) ?_ ?_
    · exact readNext_eq_some_iff.2 ⟨id, rest ++ more, rfl, by rw [List.append_assoc]⟩
    · simpa using ih (read ++ [id]) (more ++ lead id)

end Search

open Search

namespace Branches

/-- A search among some blocks ends, with what a search row by row finds in as many rows. -/
theorem goesOn_rows (h : Branches lead first) {read : List BlockId}
    (hs : Orderly lead first ⟨read, row⟩) (hfirst : first ∈ ids)
    (hclosed : ∀ a b, b ∈ lead a → b ∈ ids) (hn : ids.length ≤ read.length + n) :
    GoesOn (Search.readNext lead) ⟨read, row⟩ ⟨read ++ rows lead n row, []⟩ := by
  induction n generalizing read row with
  | zero =>
    have hlength := hs.length_found_le hfirst hclosed
    obtain rfl : row = [] := List.eq_nil_of_length_eq_zero (by simp at hlength; omega)
    rw [rows, List.append_nil]
  | succ n ih =>
    rw [rows]
    split
    · rename_i hempty
      rw [List.isEmpty_iff.1 hempty, List.append_nil]
    · rename_i hrow
      have hpos : 0 < row.length := List.length_pos_iff.2 fun hnil => hrow (by rw [hnil]; rfl)
      have hread : GoesOn (Search.readNext lead) ⟨read, row⟩ ⟨read ++ row, row.flatMap lead⟩ := by
        simpa using goesOn_row lead read row []
      rw [← List.append_assoc]
      refine hread.trans (ih (hs.goesOn h hread) ?_)
      rw [List.length_append]
      omega

theorem ends_rows (h : Branches lead first) (hfirst : first ∈ ids)
    (hclosed : ∀ a b, b ∈ lead a → b ∈ ids) (hn : ids.length ≤ n) :
    Ends (Search.readNext lead) first (rows lead n [first]) := by
  have hend := h.goesOn_rows (orderly_start lead first) hfirst hclosed (n := n) (by simpa using hn)
  rwa [List.nil_append] at hend

/-- A search that looks at what was found before ends with the same blocks. -/
theorem ends_readNew (h : Branches lead first) (hends : Ends (Search.readNext lead) first xs) :
    Ends (Search.readNew lead) first xs := by
  have hsteps : ∀ {s s'}, Orderly lead first s → GoesOn (Search.readNext lead) s s' →
      GoesOn (Search.readNew lead) s s' := by
    intro s s' hs hsteps
    induction hsteps with
    | refl => exact .refl
    | tail hbefore hstep ih =>
      exact ih.tail (((hs.goesOn h hbefore).readNew_eq h).trans hstep)
  exact hsteps (orderly_start lead first) hends

/-- A search that has ended has read its blocks in order. -/
theorem orderly_of_ends (h : Branches lead first) (hends : Ends (Search.readNext lead) first xs) :
    Orderly lead first ⟨xs, []⟩ :=
  (orderly_start lead first).goesOn h hends

end Branches

/-! ## In which order -/

/-- Every block of a list is related to one before it, in the list or among some earlier blocks. -/
def InTurn (related : BlockId → BlockId → Prop) : List BlockId → List BlockId → Prop
  | _, [] => True
  | earlier, b :: rest => (∃ a ∈ earlier, related a b) ∧ InTurn related (earlier ++ [b]) rest

namespace InTurn

variable {related related' : BlockId → BlockId → Prop} {earlier earlier' : List BlockId}

theorem append_iff : InTurn related earlier (xs ++ ys) ↔
    InTurn related earlier xs ∧ InTurn related (earlier ++ xs) ys := by
  induction xs generalizing earlier with
  | nil => simp [InTurn]
  | cons b rest ih =>
    rw [List.cons_append, InTurn, InTurn, ih, List.append_assoc, List.singleton_append, and_assoc]

/-- More blocks may come earlier. -/
theorem of_subset (h : InTurn related earlier xs) (hmore : earlier ⊆ earlier') :
    InTurn related earlier' xs := by
  induction xs generalizing earlier earlier' with
  | nil => exact h
  | cons b rest ih =>
    rcases h with ⟨⟨a, ha, hrelated⟩, hrest⟩
    refine ⟨⟨a, hmore ha, hrelated⟩, ih hrest fun c hc => ?_⟩
    exact List.mem_append.2 ((List.mem_append.1 hc).imp_left fun hold => hmore hold)

/-- Lists that may each come next may come one after the other. -/
theorem flatMap {α : Type} {items : List α} {part : α → List BlockId}
    (h : ∀ item ∈ items, InTurn related earlier (part item)) :
    InTurn related earlier (items.flatMap part) := by
  induction items with
  | nil => trivial
  | cons item rest ih =>
    rw [List.flatMap_cons, append_iff]
    refine ⟨h item List.mem_cons_self, ?_⟩
    have hrest := ih fun other hother => h other (List.mem_cons_of_mem _ hother)
    exact hrest.of_subset (List.subset_append_left _ _)

/-- Blocks may be related in another way. -/
theorem imp (h : InTurn related earlier xs)
    (himp : ∀ a ∈ earlier ++ xs, ∀ b, related a b → related' a b) :
    InTurn related' earlier xs := by
  induction xs generalizing earlier with
  | nil => trivial
  | cons b rest ih =>
    rcases h with ⟨⟨a, ha, hrelated⟩, hrest⟩
    refine ⟨⟨a, ha, himp a (List.mem_append_left _ ha) b hrelated⟩, ih hrest fun c hc => ?_⟩
    exact himp c (by simpa using hc)

end InTurn

/-- A search finds its blocks in turn when each block leads to blocks in turn. -/
theorem Search.Ends.inTurn {related : BlockId → BlockId → Prop}
    (hends : Ends (Search.readNext lead) first xs) (hlead : ∀ a, InTurn related [a] (lead a)) :
    ∃ rest, xs = first :: rest ∧ InTurn related [first] rest := by
  have hfound : ∀ {s}, GoesOn (Search.readNext lead) (.start first) s →
      ∃ rest, s.found = first :: rest ∧ InTurn related [first] rest := by
    intro s hsteps
    induction hsteps with
    | refl => exact ⟨[], rfl, trivial⟩
    | @tail s s' _ hstep ih =>
      rcases readNext_eq_some_iff.1 hstep with ⟨id, waiting, hwaiting, rfl⟩
      rcases ih with ⟨rest, hrest, hturn⟩
      refine ⟨rest ++ lead id, by rw [found_readNext lead hwaiting, hrest, List.cons_append], ?_⟩
      refine InTurn.append_iff.2 ⟨hturn, (hlead id).of_subset ?_⟩
      have hid : id ∈ s.found := by
        rw [found, hwaiting]
        exact List.mem_append_right _ List.mem_cons_self
      rw [List.singleton_append, ← hrest]
      exact List.cons_subset.2 ⟨hid, List.nil_subset _⟩
  have hlast := hfound hends
  rwa [show (⟨xs, []⟩ : Search).found = xs from List.append_nil xs] at hlast

end ShellComposer
