import ShellComposer.Pattern.Language
import ShellComposer.Proofs.EnclosedPatterns
import ShellComposer.Proofs.Ordered

/-!
# The language of the engine that searches values

The texts that the reader of patterns reads to their end, and whose parts make sense, are the
patterns of a language.  It obeys the documented laws of groups and of the ends of a text, and the
engine that searches values speaks it.

Main results:

- Definition `readTree`: what is read of a text, and what is left behind it.
- Theorem `readTree_enclose`: how a pattern is read in a group between the ends of a text.
- Theorem `sound_parseAlternatives`: what is read makes sense only if what was read before does.
- Definition `language`: the patterns that are read, and what they match.
- Theorems `lawful_language`, `speaks_search`: its laws, and the engine that speaks it.
-/

namespace ShellComposer.Pattern

/-! ## Trees and expressions between the ends -/

/-- A tree in a group between the start and the end of the text. -/
def Syntax.anchored (tree : Syntax) : Syntax :=
  .concat [.assertion .lineStart, .group [] tree, .assertion .lineEnd]

/-- An expression between the start and the end of the text. -/
def Expr.anchored (expr : Expr) : Expr :=
  .concat (.look .textStart) (.concat expr (.look .textEnd))

/-- The expression of a tree that is a whole pattern. -/
def Syntax.expr? (tree : Syntax) : Option Expr :=
  (tree.toExpr .initial).map Prod.fst

/-- At the start of a pattern the ends of lines are those of the text, and flags that are switched
in the group do not reach behind it. -/
theorem Syntax.expr?_anchored (tree : Syntax) :
    tree.anchored.expr? = tree.expr?.map Expr.anchored := by
  have happly : Mode.initial.apply [] = Mode.initial := rfl
  simp only [expr?, anchored, toExpr, concatExpr, Option.bind_eq_bind, Option.bind_some, happly]
  cases tree.toExpr .initial <;> rfl

/-! ## Reading -/

/-- What is read of a text, and what is left behind it. -/
def readTree (text : List Char) : Option (Syntax × List Char) :=
  (parseAlternatives (2 * text.length + 2) ⟨text, false, []⟩ [] []).map fun read =>
    (read.1, read.2.rest)

/-- The text of a pattern is read to its end, and nests within the limit. -/
theorem parsePattern_eq_some_iff {text : String} {tree : Syntax} :
    parsePattern text = some tree ↔
      readTree text.toList = some (tree, []) ∧ tree.depth ≤ depthLimit := by
  constructor
  · intro h
    obtain ⟨⟨read, c⟩, hread, h⟩ := Option.bind_eq_some_iff.1 h
    simp only at h
    split at h
    · rename_i hwhole
      rw [Bool.and_eq_true, List.isEmpty_iff, decide_eq_true_eq] at hwhole
      obtain rfl := Option.some.inj h
      refine ⟨Option.map_eq_some_iff.2 ⟨_, hread, ?_⟩, hwhole.2⟩
      rw [hwhole.1]
    · simp at h
  · rintro ⟨htree, hdepth⟩
    obtain ⟨⟨read, c⟩, hread, hwhole⟩ := Option.map_eq_some_iff.1 htree
    obtain ⟨rfl, hend⟩ := Prod.mk.inj hwhole
    refine Option.bind_eq_some_iff.2 ⟨(read, c), hread, if_pos ?_⟩
    rw [hend]
    exact decide_eq_true hdepth

/-- A text is a valid pattern when it is read to its end, without nesting too deeply, and when its
parts make sense and are not too large. -/
theorem exprOfText_eq_some_iff {text : String} {expr : Expr} : exprOfText text = some expr ↔
    ∃ tree, parsePattern text = some tree ∧ tree.expr? = some expr ∧
      expr.weight ≤ weightLimit := by
  constructor
  · intro h
    obtain ⟨tree, htree, h⟩ := Option.bind_eq_some_iff.1 h
    obtain ⟨⟨found, after⟩, hfound, h⟩ := Option.bind_eq_some_iff.1 h
    simp only at h
    split at h
    · rename_i hweight
      obtain rfl := Option.some.inj h
      exact ⟨tree, htree, Option.map_eq_some_iff.2 ⟨_, hfound, rfl⟩, hweight⟩
    · simp at h
  · rintro ⟨tree, htree, hexpr, hweight⟩
    obtain ⟨⟨found, after⟩, hfound, rfl⟩ := Option.map_eq_some_iff.1 hexpr
    rw [exprOfText, htree, Option.bind_eq_bind, Option.bind_some, hfound]
    exact if_pos hweight

/-! ## What makes sense -/

/-- The mode behind a tree that is reached in some mode, if the tree makes sense there. -/
def Syntax.modeAfter? (tree : Syntax) (reached : Option Mode) : Option Mode :=
  reached.bind fun mode => (tree.toExpr mode).map Prod.snd

/-- The mode behind several trees, the last one first, if all of them make sense. -/
def modeBehind? (trees : List Syntax) (reached : Option Mode) : Option Mode :=
  trees.foldr Syntax.modeAfter? reached

section Sense

variable {c d : Cursor} {reached : Option Mode} {mode : Mode} {branches parts : List Syntax} {tree : Syntax}

theorem modeBehind?_none (trees : List Syntax) : modeBehind? trees none = none := by
  induction trees with
  | nil => rfl
  | cons tree rest ih => exact congrArg tree.modeAfter? ih

/-- The flags are carried through the parts in turn. -/
theorem modeBehind?_append (after before : List Syntax) :
    modeBehind? (after ++ before) reached = modeBehind? after (modeBehind? before reached) :=
  List.foldr_append

/-- However trees are joined, the mode behind all of them is the one that they lead to in turn. -/
theorem map_snd_join {join : Mode → List Syntax → Option (Expr × Mode)}
    (hnil : ∀ mode, (join mode []).map Prod.snd = some mode)
    (hcons : ∀ mode tree rest, (join mode (tree :: rest)).map Prod.snd =
      (tree.toExpr mode).bind fun read => (join read.2 rest).map Prod.snd)
    (trees : List Syntax) (mode : Mode) :
    (join mode trees).map Prod.snd = modeBehind? trees.reverse (some mode) := by
  induction trees generalizing mode with
  | nil => exact hnil mode
  | cons tree rest ih =>
    have hfirst : modeBehind? [tree] (some mode) = (tree.toExpr mode).map Prod.snd := rfl
    rw [hcons, List.reverse_cons, modeBehind?_append, hfirst]
    cases tree.toExpr mode with
    | none => exact (modeBehind?_none _).symm
    | some read => exact ih read.2

/-- A sequence passes the flags behind its first part on to the rest. -/
theorem map_snd_concatExpr_cons (mode : Mode) (part : Syntax) (rest : List Syntax) :
    (Syntax.concatExpr mode (part :: rest)).map Prod.snd =
      (part.toExpr mode).bind fun read => (Syntax.concatExpr read.2 rest).map Prod.snd := by
  cases rest with
  | nil =>
    rw [Syntax.concatExpr, Option.map_eq_bind]
    rfl
  | cons next rest =>
    change ((part.toExpr mode).bind fun read => (Syntax.concatExpr read.2 (next :: rest)).bind
      fun last => some (read.1.concat last.1, last.2)).map Prod.snd = _
    rw [Option.map_bind]
    refine congrArg _ (funext fun read => ?_)
    rw [Function.comp_apply, Option.map_bind, Option.map_eq_bind]
    rfl

/-- Alternatives pass the flags behind the first one on to the rest. -/
theorem map_snd_eitherExpr_cons (mode : Mode) (branch : Syntax) (rest : List Syntax) :
    (Syntax.eitherExpr mode (branch :: rest)).map Prod.snd =
      (branch.toExpr mode).bind fun read => (Syntax.eitherExpr read.2 rest).map Prod.snd := by
  cases rest with
  | nil =>
    rw [Syntax.eitherExpr, Option.map_eq_bind]
    rfl
  | cons next rest =>
    change ((branch.toExpr mode).bind fun read => (Syntax.eitherExpr read.2 (next :: rest)).bind
      fun last => some (read.1.either last.1, last.2)).map Prod.snd = _
    rw [Option.map_bind]
    refine congrArg _ (funext fun read => ?_)
    rw [Function.comp_apply, Option.map_bind, Option.map_eq_bind]
    rfl

/-- Writing parts as a sequence does not change which flags hold behind them. -/
theorem modeAfter?_concatOf (parts : List Syntax) :
    (concatOf parts).modeAfter? reached = modeBehind? parts reached := by
  cases reached with
  | none => exact (modeBehind?_none parts).symm
  | some mode =>
    rw [concatOf.eq_def]
    split
    · rfl
    · rfl
    · refine (map_snd_join (fun _ => rfl) map_snd_concatExpr_cons _ mode).trans ?_
      rw [List.reverse_reverse]

/-- Nor does writing branches as alternatives. -/
theorem modeAfter?_alternationOf (branches : List Syntax) :
    (alternationOf branches).modeAfter? reached = modeBehind? branches reached := by
  cases reached with
  | none => exact (modeBehind?_none branches).symm
  | some mode =>
    rw [alternationOf.eq_def]
    split
    · rfl
    · refine (map_snd_join (fun _ => rfl) map_snd_eitherExpr_cons _ mode).trans ?_
      rw [List.reverse_reverse]

theorem isSome_of_modeAfter? (h : (tree.modeAfter? reached).isSome = true) :
    reached.isSome = true := by
  cases reached with
  | none => exact h
  | some mode => rfl

/-- A part that is repeated leads to the mode that it leads to once. -/
theorem modeBehind?_popRepeatable {body : Syntax} {rest : List Syntax}
    (h : popRepeatable parts = some (body, rest)) (least : Nat) (most : Option Nat) :
    modeBehind? (.repetition least most body :: rest) reached = modeBehind? parts reached := by
  rw [popRepeatable.eq_def] at h
  split at h
  · simp at h
  · simp at h
  · simp at h
  · obtain ⟨rfl, rfl⟩ := Prod.mk.inj (Option.some.inj h)
    refine congrArg (Option.bind _) (funext fun mode => ?_)
    rw [Syntax.toExpr, Option.bind_eq_bind, Option.map_bind, Option.map_eq_bind]
    rfl

/-- What is read makes sense only if what was read before does. -/
theorem sound_parseAlternatives {n : Nat}
    (hread : parseAlternatives n c branches parts = some (tree, d))
    (h : (tree.modeAfter? reached).isSome = true) :
    (modeBehind? parts (modeBehind? branches reached)).isSome = true := by
  induction n generalizing c branches parts with
  | zero => simp [parseAlternatives] at hread
  | succ n ih =>
    have hclosed : modeBehind? (concatOf parts :: branches) reached =
        modeBehind? parts (modeBehind? branches reached) := modeAfter?_concatOf parts
    cases stepRead_of_parseAlternatives hread with
    | done hdone =>
      obtain rfl : tree = _ := hdone
      rwa [modeAfter?_alternationOf, hclosed] at h
    | branch hread =>
      have hbranches := ih hread
      rwa [hclosed] at hbranches
    | simple hread _ => exact isSome_of_modeAfter? (ih hread)
    | group _ hread => exact isSome_of_modeAfter? (ih hread)
    | repeated hpop _ hread =>
      have hrepeated := ih hread
      rwa [modeBehind?_popRepeatable hpop] at hrepeated

end Sense

/-! ## Reading in a group -/

/-- A text behind the start of a text and the start of a group. -/
def opened (text : List Char) : List Char :=
  '^' :: '(' :: '?' :: ':' :: text

theorem toList_opened (text : String) : ("^(?:" ++ text).toList = opened text.toList := by
  simp [opened]

theorem toList_close (text : String) : (text ++ ")$").toList = text.toList ++ [')', '$'] := by
  simp

section Reading

variable {c d : Cursor} {branches parts : List Syntax} {tree : Syntax} {text : List Char}

/-- Behind an opened group, its content is read first and then what follows the group. -/
theorem parseAlternatives_opened (n : Nat) (text : List Char) :
    parseAlternatives (n + 2) ⟨opened text, false, []⟩ [] [] =
      parseAlternatives n ⟨text, false, []⟩ [] [] >>=
        afterGroup n false [] [.assertion .lineStart] [] := by
  rfl

/-- Once the content is read and only the closing is left, the whole is the anchored content. -/
theorem afterGroup_closed (n : Nat) (names : List String) (blanks : Bool) (tree : Syntax) :
    afterGroup (n + 2) false [] [.assertion .lineStart] [] (tree, ⟨[')', '$'], blanks, names⟩) =
      some (tree.anchored, ⟨[], false, names⟩) := by
  rfl

/-- What is read in front of something that is left does not depend on the number of steps. -/
theorem parseAlternatives_steps {n m : Nat} (hn : 2 * c.rest.length + 1 ≤ n)
    (hm : 2 * c.rest.length + 1 ≤ m) (hrest : d.rest ≠ [])
    (h : parseAlternatives n c branches parts = some (tree, d)) :
    parseAlternatives m c branches parts = some (tree, d) := by
  have hlong := le_refl (2 * (c.extend []).rest.length + 1)
  have hlonger := tied_parseAlternatives (.same c) hn hlong branches parts
  rw [h] at hlonger
  obtain ⟨d', hread, hpaired⟩ := hlonger.paired_of_some (.inl hrest)
  have hagain := tied_parseAlternatives (.same c) hm hlong branches parts
  rw [hread] at hagain
  cases hpaired with
  | same => exact hagain.eq_of_extend
  | past hend _ _ => exact (hrest hend).elim

/-- What is left behind a text that is read to its end does not depend on the number of steps. -/
theorem parseAlternatives_to_end {n m : Nat} (hn : 2 * c.rest.length + 1 ≤ n)
    (hm : 2 * c.rest.length + 1 ≤ m) (hend : d.rest = [])
    (h : parseAlternatives n c branches parts = some (tree, d)) {other : Syntax} {e : Cursor}
    (hother : parseAlternatives m c branches parts = some (other, e)) : e.rest = [] := by
  by_contra hrest
  have hsame := (parseAlternatives_steps hm hn hrest hother).symm.trans h
  obtain ⟨-, rfl⟩ := Prod.mk.inj (Option.some.inj hsame)
  exact hrest hend

theorem paired_close (text : List Char) :
    Paired ['$'] ⟨text, false, []⟩ ⟨text ++ [')', '$'], false, []⟩ :=
  .same ⟨text, false, []⟩

/-- A pattern that is read to its end is read in the same way within the group.  Then either the
end of the group is left, or a comment of the pattern has gone on over it. -/
theorem parseAlternatives_within (h : readTree text = some (tree, [])) :
    ∃ d : Cursor, d.rest = [] ∧
      ((∀ n, 2 * (text ++ [')', '$']).length + 1 ≤ n →
        parseAlternatives n ⟨text ++ [')', '$'], false, []⟩ [] [] =
          some (tree, d.extend ['$'])) ∨
      ∀ n, 2 * (text ++ [')', '$']).length + 1 ≤ n →
        parseAlternatives n ⟨text ++ [')', '$'], false, []⟩ [] [] = some (tree, d)) := by
  obtain ⟨⟨read, d⟩, hread, hwhole⟩ := Option.map_eq_some_iff.1 h
  obtain ⟨rfl, hend⟩ := Prod.mk.inj hwhole
  have hboth : ∀ n, 2 * (text ++ [')', '$']).length + 1 ≤ n →
      parseAlternatives n ⟨text ++ [')', '$'], false, []⟩ [] [] = some (read, d.extend ['$']) ∨
      parseAlternatives n ⟨text ++ [')', '$'], false, []⟩ [] [] = some (read, d) := by
    intro n hn
    have htied := tied_parseAlternatives (paired_close text) (Nat.le_succ _) hn [] []
    rw [hread] at htied
    obtain ⟨d', hread', hpaired⟩ := htied.paired_of_some (.inr (by decide))
    cases hpaired with
    | same => exact .inl hread'
    | past _ _ hline =>
      rw [hline (by decide)] at hread'
      exact .inr hread'
  have hleft : (d.extend ['$']).rest ≠ [] := Cursor.extend_ne_nil
  rcases hboth _ le_rfl with hclosed | hover
  · exact ⟨d, hend, .inl fun n hn => parseAlternatives_steps le_rfl hn hleft hclosed⟩
  · refine ⟨d, hend, .inr fun n hn => (hboth n hn).resolve_left fun hclosed => ?_⟩
    exact hleft (parseAlternatives_to_end le_rfl hn hend hover hclosed)

/-- The text that the start of a group is read in front of, with the steps that are left for it. -/
theorem readTree_opened (text : List Char) : readTree (opened text) =
    (parseAlternatives (2 * text.length + 8) ⟨text, false, []⟩ [] [] >>=
      afterGroup (2 * text.length + 8) false [] [.assertion .lineStart] []).map fun read =>
        (read.1, read.2.rest) := by
  have hsteps : 2 * (opened text).length + 2 = 2 * text.length + 8 + 2 := by
    simp only [opened, List.length_cons]
    omega
  rw [readTree, hsteps, parseAlternatives_opened]

/-- A pattern that is read to its end, and behind which the end of the group is left, is read in the
group as it is. -/
theorem readTree_enclose (h : readTree text = some (tree, []))
    (hclose : readTree (text ++ [')', '$']) ≠ some (tree, [])) :
    readTree (opened (text ++ [')', '$'])) = some (tree.anchored, []) := by
  obtain ⟨d, hend, hread | hread⟩ := parseAlternatives_within h
  · have hclosed : d.extend ['$'] = ⟨[')', '$'], d.ignoreBlanks, d.names⟩ := by
      rw [Cursor.extend, hend]
      rfl
    have hsteps : 2 * (text ++ [')', '$']).length + 8 =
        2 * (text ++ [')', '$']).length + 6 + 2 := rfl
    rw [readTree_opened, hread _ (by omega), hclosed, Option.bind_eq_bind, Option.bind_some,
      hsteps, afterGroup_closed]
    rfl
  · refine (hclose ?_).elim
    rw [readTree, hread _ (by omega), ← hend]
    rfl

/-- A text that is read to its end leaves nothing that closes a group. -/
theorem readTree_opened_of_whole (h : readTree text = some (tree, [])) :
    readTree (opened text) = none := by
  obtain ⟨⟨read, d⟩, hread, hwhole⟩ := Option.map_eq_some_iff.1 h
  obtain ⟨rfl, hend⟩ := Prod.mk.inj hwhole
  rw [readTree_opened, Option.map_eq_none_iff, Option.bind_eq_bind, Option.bind_eq_none_iff]
  rintro ⟨other, e⟩ hother
  have hnothing : e.rest = [] :=
    parseAlternatives_to_end (Nat.le_succ _) (by simp only; omega) hend hread hother
  rw [afterGroup, hnothing]

/-- What stands in a group that is read to its closing parenthesis is read to its end by itself. -/
theorem readTree_inside {n : Nat} {behind : List Char} (hn : 2 * text.length + 1 ≤ n)
    (hclose : d.rest = ')' :: behind)
    (h : parseAlternatives n ⟨text, false, []⟩ [] [] = some (tree, d)) :
    ∃ inside, text = inside ++ ')' :: behind ∧ readTree inside = some (tree, []) := by
  obtain ⟨inside, hinside⟩ := onward_parseAlternatives_here n _ [] [] tree d h
  rw [hclose] at hinside
  obtain rfl : inside ++ ')' :: behind = text := hinside
  refine ⟨inside, rfl, ?_⟩
  have hextended : (d.goto []).extend behind = d := by
    rw [Cursor.extend, Cursor.goto, Cursor.goto, List.nil_append, ← hclose]
  have hpaired : Paired behind ⟨inside, false, []⟩ ⟨inside ++ ')' :: behind, false, []⟩ :=
    .same ⟨inside, false, []⟩
  have htied := tied_parseAlternatives hpaired (Nat.le_succ (2 * inside.length + 1)) hn [] []
  rw [h, ← hextended] at htied
  rw [readTree, htied.eq_of_extend]
  rfl

end Reading

/-! ## The language -/

/-- The patterns that are read to their end and make sense, and what they match. -/
def language : Language where
  Tree := Expr
  parse text := (readTree text.toList).bind fun read =>
    if read.2 = [] then read.1.expr? else none
  start := .look .textStart
  finish := .look .textEnd
  group expr := expr
  sequence first second := .concat first second
  Matches expr value i j := Matches value.toList.toArray expr i j
  Fits text := ∀ tree, readTree text.toList = some (tree, []) →
    tree.depth ≤ depthLimit ∧ ∀ expr, tree.expr? = some expr → expr.weight ≤ weightLimit

/-- A text is a pattern when it is read to its end and what is read makes sense. -/
theorem parse_eq_some_iff {text : String} {expr : Expr} : language.parse text = some expr ↔
    ∃ tree, readTree text.toList = some (tree, []) ∧ tree.expr? = some expr := by
  constructor
  · intro h
    obtain ⟨⟨tree, left⟩, hread, h⟩ := Option.bind_eq_some_iff.1 h
    simp only at h
    split at h
    · rename_i hend
      obtain rfl := hend
      exact ⟨tree, hread, h⟩
    · simp at h
  · rintro ⟨tree, hread, hexpr⟩
    exact Option.bind_eq_some_iff.2 ⟨(tree, []), hread, (if_pos rfl).trans hexpr⟩

/-- A pattern behind which the end of a group is left stands between the ends as it is. -/
theorem parse_enclosed {text : String} {expr : Expr} (h : language.parse text = some expr)
    (hclose : language.parse (text ++ ")$") = none) :
    language.parse ("^(?:" ++ text ++ ")$") = some expr.anchored := by
  obtain ⟨tree, hread, hexpr⟩ := parse_eq_some_iff.1 h
  refine parse_eq_some_iff.2 ⟨tree.anchored, ?_, ?_⟩
  · rw [String.append_assoc, toList_opened, toList_close]
    refine readTree_enclose hread fun hover => ?_
    rw [← toList_close] at hover
    exact Option.some_ne_none expr ((parse_eq_some_iff.2 ⟨tree, hover, hexpr⟩).symm.trans hclose)
  · rw [Syntax.expr?_anchored, hexpr]
    rfl

/-- A text that is a pattern closes no group in front of it. -/
theorem parse_unclosed {text : String} (h : (language.parse text).isSome = true) :
    language.parse ("^(?:" ++ text) = none := by
  obtain ⟨expr, hexpr⟩ := Option.isSome_iff_exists.1 h
  obtain ⟨tree, hread, -⟩ := parse_eq_some_iff.1 hexpr
  refine Option.eq_none_iff_forall_ne_some.2 fun found hfound => ?_
  obtain ⟨whole, hwhole, -⟩ := parse_eq_some_iff.1 hfound
  rw [toList_opened, readTree_opened_of_whole hread] at hwhole
  simp at hwhole

/-- A group at the start of a pattern makes sense only if the pattern in it does. -/
theorem isSome_expr?_of_group {body : Syntax}
    (h : (modeBehind? [.group [] body, .assertion .lineStart] (some .initial)).isSome = true) :
    body.expr?.isSome = true := by
  obtain ⟨mode, hmode⟩ := Option.isSome_iff_exists.1 h
  obtain ⟨whole, hwhole, -⟩ := Option.map_eq_some_iff.1 hmode
  rw [Syntax.toExpr] at hwhole
  obtain ⟨read, hread, -⟩ := Option.bind_eq_some_iff.1 hwhole
  exact Option.isSome_iff_exists.2 ⟨read.1, Option.map_eq_some_iff.2 ⟨read, hread, rfl⟩⟩

/-- What stands in a group at the start of a pattern is a pattern. -/
theorem parse_closed {text : String} (h : (language.parse ("^(?:" ++ text)).isSome = true) :
    ∃ inside behind, text = inside ++ ")" ++ behind ∧
      (language.parse inside).isSome = true := by
  obtain ⟨whole, hwhole⟩ := Option.isSome_iff_exists.1 h
  obtain ⟨tree, hread, hexpr⟩ := parse_eq_some_iff.1 hwhole
  rw [toList_opened, readTree_opened] at hread
  obtain ⟨⟨found, e⟩, hfound, hsame⟩ := Option.map_eq_some_iff.1 hread
  obtain ⟨rfl, -⟩ := Prod.mk.inj hsame
  obtain ⟨⟨body, d⟩, hbody, hafter⟩ := Option.bind_eq_some_iff.1 hfound
  rw [afterGroup] at hafter
  split at hafter
  · rename_i behind hclose
    obtain ⟨inside, hinside, hwhole⟩ := readTree_inside (by omega) hclose hbody
    refine ⟨String.ofList inside, String.ofList behind, ?_, ?_⟩
    · rw [← String.toList_inj, hinside]
      simp
    · have hsense : (found.modeAfter? (some .initial)).isSome = true := by
        obtain ⟨read, hread, -⟩ := Option.map_eq_some_iff.1 hexpr
        exact Option.isSome_iff_exists.2 ⟨read.2, congrArg (Option.map Prod.snd) hread⟩
      have hbody := isSome_expr?_of_group (sound_parseAlternatives hafter hsense)
      obtain ⟨expr, hexpr⟩ := Option.isSome_iff_exists.1 hbody
      refine Option.isSome_iff_exists.2 ⟨expr, parse_eq_some_iff.2 ⟨body, ?_, hexpr⟩⟩
      rwa [String.toList_ofList]
  · simp at hafter

/-- A condition on a position is met without passing over anything. -/
theorem matches_look_iff {text : Array Char} {look : Look} {i j : Nat} :
    Matches text (.look look) i j ↔ i = j ∧ i ≤ text.size ∧ look.holdsAt text i = true := by
  constructor
  · rintro (_ | _ | ⟨inside, holds⟩)
    exact ⟨rfl, inside, holds⟩
  · rintro ⟨rfl, inside, holds⟩
    exact .look inside holds

/-- The texts that are read obey the laws of groups and of the ends of a text. -/
theorem lawful_language : language.Lawful where
  start_iff value i j := by
    refine (matches_look_iff : Matches value.toList.toArray (.look .textStart) i j ↔ _).trans ?_
    simp only [Look.holdsAt, beq_iff_eq]
    omega
  finish_iff value i j := by
    refine (matches_look_iff : Matches value.toList.toArray (.look .textEnd) i j ↔ _).trans ?_
    simp only [Look.holdsAt, beq_iff_eq, List.size_toArray, String.length_toList]
    omega
  group_iff expr value i j := Iff.rfl
  sequence_iff first second value i k := by
    constructor
    · rintro (_ | _ | _ | ⟨left, right⟩)
      exact ⟨_, left, right⟩
    · rintro ⟨j, left, right⟩
      exact .concat left right
  enclosed text expr := parse_enclosed
  unclosed text := parse_unclosed
  closed text := parse_closed

/-- The engine that searches values compiles the texts that are patterns and fit. -/
theorem exprOfText_eq_some_iff_parse {text : String} {expr : Expr} :
    exprOfText text = some expr ↔ language.parse text = some expr ∧ language.Fits text := by
  rw [exprOfText_eq_some_iff]
  constructor
  · rintro ⟨tree, htree, hexpr, hweight⟩
    obtain ⟨hread, hdepth⟩ := parsePattern_eq_some_iff.1 htree
    refine ⟨parse_eq_some_iff.2 ⟨tree, hread, hexpr⟩, fun other hother => ?_⟩
    obtain ⟨rfl, -⟩ := Prod.mk.inj (Option.some.inj (hread.symm.trans hother))
    refine ⟨hdepth, fun found hfound => ?_⟩
    obtain rfl := Option.some.inj (hexpr.symm.trans hfound)
    exact hweight
  · rintro ⟨hparse, hfits⟩
    obtain ⟨tree, hread, hexpr⟩ := parse_eq_some_iff.1 hparse
    obtain ⟨hdepth, hweight⟩ := hfits tree hread
    exact ⟨tree, parsePattern_eq_some_iff.2 ⟨hread, hdepth⟩, hexpr, hweight expr hexpr⟩

/-- The engine that searches values speaks this language. -/
theorem speaks_search : Speaks search language where
  isSome_iff text := by
    rw [search, Option.isSome_map, Option.isSome_iff_exists, Option.isSome_iff_exists]
    constructor
    · rintro ⟨expr, hexpr⟩
      obtain ⟨hparse, hfits⟩ := exprOfText_eq_some_iff_parse.1 hexpr
      exact ⟨⟨expr, hparse⟩, hfits⟩
    · rintro ⟨⟨expr, hparse⟩, hfits⟩
      exact ⟨expr, exprOfText_eq_some_iff_parse.2 ⟨hparse, hfits⟩⟩
  accepts_iff text matcher expr hmatcher hparse value := by
    obtain ⟨found, hfound, rfl⟩ := Option.map_eq_some_iff.1 hmatcher
    obtain ⟨hagain, -⟩ := exprOfText_eq_some_iff_parse.1 hfound
    obtain rfl := Option.some.inj (hparse.symm.trans hagain)
    exact Expr.occursIn_iff (ordered_exprOfText hfound)

end ShellComposer.Pattern
