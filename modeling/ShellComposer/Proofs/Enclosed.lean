import ShellComposer.Proofs.Onward

/-!
# Patterns inside a group

A pattern can be read by itself or with a closing parenthesis behind it.  As long as its own text
lasts, both readings do the same.  Then the one ends, and the other stops at the parenthesis; or else
the other has gone past it, where a comment, a class or an escape was still open.

Main results:

- Relation `Paired`: places that two such readings have come to.
- Relation `Tied`: what a reader gives in both of them.
- Theorem `Paired.tied`, and `Tied.bind` and its like: how readers are put together.
- Theorem `tied_parseEscape`: escapes are read in the same way.
-/

namespace ShellComposer.Pattern

variable {α β γ : Type} {after : List Char} {c c' d d' : Cursor} {rest : List Char}

/-! ## Two readings -/

/-- The same place in a text that goes on with a closing parenthesis. -/
def Cursor.extend (after : List Char) (c : Cursor) : Cursor :=
  c.goto (c.rest ++ ')' :: after)

theorem Cursor.extend_injective (h : c.extend after = d.extend after) : c = d := by
  obtain ⟨rest, blanks, names⟩ := c
  obtain ⟨rest', blanks', names'⟩ := d
  simpa [Cursor.extend, Cursor.goto] using h

theorem Cursor.extend_rest : (c.extend after).rest = c.rest ++ ')' :: after := rfl

section Heads

variable {first second : Char}

/-- At the end of the pattern the longer text has the parenthesis. -/
theorem Cursor.extend_nil (hrest : c.rest = []) : (c.extend after).rest = ')' :: after :=
  congrArg (· ++ ')' :: after) hrest

/-- In front of its end the longer text goes on like the pattern. -/
theorem Cursor.extend_cons (hrest : c.rest = first :: rest) :
    (c.extend after).rest = first :: (rest ++ ')' :: after) :=
  congrArg (· ++ ')' :: after) hrest

/-- A text with the parenthesis behind it starts with nothing else that it did not start with. -/
theorem append_ne (after : List Char) (hclose : first ≠ ')')
    (h : ∀ tail, rest = first :: tail → False) (tail : List Char) :
    rest ++ ')' :: after = first :: tail → False := by
  intro heq
  cases rest with
  | nil => exact hclose (List.cons.inj heq).1.symm
  | cons head more =>
    obtain ⟨rfl, -⟩ := List.cons.inj heq
    exact h more rfl

/-- Nor does it start with two other characters that it did not start with. -/
theorem append_ne_pair (after : List Char) (hclose : first ≠ ')' ∧ second ≠ ')')
    (h : ∀ tail, rest = first :: second :: tail → False) (tail : List Char) :
    rest ++ ')' :: after = first :: second :: tail → False := by
  intro heq
  cases rest with
  | nil => exact hclose.1 (List.cons.inj heq).1.symm
  | cons head more =>
    obtain ⟨rfl, hmore⟩ := List.cons.inj heq
    exact append_ne after hclose.2 (fun tail htail => h tail (congrArg _ htail)) tail hmore

/-- The same for what is left to read. -/
theorem Cursor.extend_ne (after : List Char) (hclose : first ≠ ')')
    (h : ∀ tail, c.rest = first :: tail → False) (tail : List Char) :
    (c.extend after).rest = first :: tail → False :=
  append_ne after hclose h tail

/-- The same for two characters. -/
theorem Cursor.extend_ne_pair (after : List Char) (hclose : first ≠ ')' ∧ second ≠ ')')
    (h : ∀ tail, c.rest = first :: second :: tail → False) (tail : List Char) :
    (c.extend after).rest = first :: second :: tail → False :=
  append_ne_pair after hclose h tail

theorem Cursor.extend_ne_nil : (c.extend after).rest = [] → False := by
  simp [extend_rest]

theorem Cursor.extend_pos (after : List Char) (c : Cursor) :
    0 < (c.extend after).rest.length :=
  List.length_pos_iff.2 extend_ne_nil

end Heads

/-- Places that two readings have come to.  Either both have the same left to read of the pattern,
or one is at its end and the other is past the parenthesis.  A comment goes on until a line ends, so
without line ends behind it nothing is left there either. -/
inductive Paired (after : List Char) : Cursor → Cursor → Prop where
  | same (c : Cursor) : Paired after c (c.extend after)
  | past {c c' : Cursor} (hend : c.rest = []) (hpast : c'.rest <:+ after)
      (hline : '\n' ∉ after → c' = c) : Paired after c c'

/-- What a reader gives in two readings.  Either it gives the same, or the reading of the longer
text goes past the parenthesis where the other one fails. -/
inductive Tied (after : List Char) :
    Option (α × Cursor) → Option (α × Cursor) → Prop where
  | both (x : α) {c c' : Cursor} (h : Paired after c c') :
      Tied after (some (x, c)) (some (x, c'))
  | past {result result' : Option (α × Cursor)}
      (hend : ∀ x c, result = some (x, c) → c.rest = [] ∧ '\n' ∈ after)
      (hpast : ∀ x c, result' = some (x, c) → c.rest <:+ after) : Tied after result result'

namespace Tied

theorem none : Tied after (none : Option (α × Cursor)) Option.none :=
  .past (by simp) (by simp)

/-- A reader that fails at the end of the pattern, and otherwise goes past the parenthesis. -/
theorem gone {result' : Option (α × Cursor)}
    (hpast : ∀ x c, result' = some (x, c) → c.rest <:+ after) :
    Tied after Option.none result' :=
  .past (by simp) hpast

/-- Where one reader fails, the other goes past the parenthesis. -/
theorem of_none {result' : Option (α × Cursor)} (h : Tied after Option.none result') :
    ∀ x c, result' = some (x, c) → c.rest <:+ after := by
  generalize hresult : Option.none = result at h
  cases h with
  | both x _ => simp at hresult
  | past _ hpast => exact hpast

/-- A reader that leaves something of the pattern stops at the same place of the longer text; one
that leaves nothing stops in front of the parenthesis, or else at the end of a comment over it. -/
theorem paired_of_some {x : α} {result' : Option (α × Cursor)}
    (h : Tied after (some (x, c)) result') (hmore : c.rest ≠ [] ∨ '\n' ∉ after) :
    ∃ c', result' = some (x, c') ∧ Paired after c c' := by
  generalize hresult : some (x, c) = result at h
  cases h with
  | both y h =>
    obtain ⟨rfl, rfl⟩ := Prod.mk.inj (Option.some.inj hresult)
    exact ⟨_, rfl, h⟩
  | past hend _ =>
    obtain ⟨hnil, hbreak⟩ := hend x c hresult.symm
    rcases hmore with hmore | hmore
    · exact (hmore hnil).elim
    · exact (hmore hbreak).elim

/-- Where the reading of the longer text stops in the pattern, the other one stops as well. -/
theorem eq_of_extend {x : α} {result : Option (α × Cursor)}
    (h : Tied after result (some (x, c.extend after))) : result = some (x, c) := by
  have hwithin : ¬(c.extend after).rest <:+ after := by
    intro hsuffix
    have hlength := hsuffix.length_le
    rw [Cursor.extend_rest, List.length_append, List.length_cons] at hlength
    omega
  generalize hresult : some (x, c.extend after) = result' at h
  cases h with
  | both y h =>
    obtain ⟨rfl, hcursor⟩ := Prod.mk.inj (Option.some.inj hresult)
    cases h with
    | same => rw [Cursor.extend_injective hcursor]
    | past _ hpast _ =>
      rw [← hcursor] at hpast
      exact (hwithin hpast).elim
  | past _ hpast => exact (hwithin (hpast x _ hresult.symm)).elim

/-- A reader that starts where one reading is past the parenthesis. -/
theorem of_past {result result' : Option (α × Cursor)} (hend : c.rest = [])
    (hpast : c'.rest <:+ after) (hline : '\n' ∉ after → c' = c) (honward : Onward c result)
    (honward' : Onward c' result') (hsame : c' = c → result' = result) :
    Tied after result result' := by
  have hleft : ∀ x d, result = some (x, d) → d.rest = [] := by
    intro x d hd
    have hsuffix := honward x d hd
    rwa [hend, List.suffix_nil] at hsuffix
  by_cases hbreak : '\n' ∈ after
  · exact .past (fun x d hd => ⟨hleft x d hd, hbreak⟩)
      fun x d hd => (honward' x d hd).trans hpast
  · rw [hsame (hline hbreak)]
    cases hresult : result with
    | none => exact .none
    | some read =>
      refine .both read.1 (.past (hleft read.1 read.2 hresult) ?_ fun _ => rfl)
      rw [hleft read.1 read.2 hresult]
      exact List.nil_suffix

/-- Readers are tied one after the other, if what comes second only goes on from there. -/
theorem bind {result result' : Option (α × Cursor)}
    {next next' : α × Cursor → Option (β × Cursor)} (h : Tied after result result')
    (hnext : ∀ x d d', result = some (x, d) → result' = some (x, d') → Paired after d d' →
      Tied after (next (x, d)) (next' (x, d')))
    (honward : ∀ x d, Onward d (next (x, d))) (honward' : ∀ x d, Onward d (next' (x, d))) :
    Tied after (result >>= next) (result' >>= next') := by
  cases h with
  | both x hpaired => exact hnext x _ _ rfl rfl hpaired
  | past hend hpast =>
    refine .past ?_ ?_
    · intro y e he
      obtain ⟨⟨x, d⟩, hd, hy⟩ := Option.bind_eq_some_iff.1 he
      obtain ⟨hnil, hbreak⟩ := hend x d hd
      have hsuffix := honward x d y e hy
      rw [hnil, List.suffix_nil] at hsuffix
      exact ⟨hsuffix, hbreak⟩
    · intro y e he
      obtain ⟨⟨x, d⟩, hd, hy⟩ := Option.bind_eq_some_iff.1 he
      exact (honward' x d y e hy).trans (hpast x d hd)

/-- A reader whose result is changed afterwards. -/
theorem map {result result' : Option (α × Cursor)} (h : Tied after result result') (f : α → β) :
    Tied after (result.map fun read => (f read.1, read.2))
      (result'.map fun read => (f read.1, read.2)) := by
  rw [Option.map_eq_bind, Option.map_eq_bind]
  exact h.bind (fun x d d' _ _ hpaired => .both (f x) hpaired) (fun x d => .some List.suffix_rfl)
    fun x d => .some List.suffix_rfl

/-- A choice that reads nothing. -/
theorem choose {choice : Option γ} {next next' : γ → Option (β × Cursor)}
    (hnext : ∀ x, Tied after (next x) (next' x)) :
    Tied after (choice >>= next) (choice >>= next') := by
  cases choice with
  | none => exact .none
  | some x => exact hnext x

end Tied

/-- A reader that goes on in the pattern in both readings, or past the parenthesis in one. -/
theorem Paired.tied {read : Cursor → Option (α × Cursor)} (h : Paired after c c')
    (honward : ∀ c, Onward c (read c))
    (hsame : ∀ c, Tied after (read c) (read (c.extend after))) : Tied after (read c) (read c') := by
  cases h with
  | same => exact hsame c
  | past hend hpast hline =>
    exact .of_past hend hpast hline (honward c) (honward c') (by rintro rfl; rfl)

/-! ## Blanks and comments -/

/-- Where blanks are passed over in front of the parenthesis, a comment may reach over it. -/
theorem skipFrom_append (after : List Char) (inComment : Bool) (rest : List Char) :
    skipFrom inComment (rest ++ ')' :: after) = skipFrom inComment rest ++ ')' :: after ∨
      (skipFrom inComment rest = [] ∧ skipFrom inComment (rest ++ ')' :: after) <:+ after ∧
        ('\n' ∉ after → skipFrom inComment (rest ++ ')' :: after) = [])) := by
  induction rest generalizing inComment with
  | nil =>
    cases inComment with
    | false => exact .inl (by simp [skipFrom, Text.isBlank])
    | true =>
      refine .inr ⟨rfl, ?_, ?_⟩
      · exact skipFrom_suffix true after
      · intro hbreak
        have hcomment : ∀ text : List Char, '\n' ∉ text → skipFrom true text = [] := by
          intro text
          induction text with
          | nil => intro _; rfl
          | cons first rest ih =>
            intro hfirst
            rw [List.mem_cons, not_or] at hfirst
            have hne : (first != '\n') = true := bne_iff_ne.2 (Ne.symm hfirst.1)
            rw [skipFrom, if_pos rfl, hne]
            exact ih hfirst.2
        exact hcomment after hbreak
  | cons first rest ih =>
    rw [List.cons_append, skipFrom, skipFrom]
    split
    · exact ih _
    · split
      · exact ih _
      · split
        · exact ih _
        · exact .inl rfl

/-- Both readings pass over blanks and comments. -/
theorem Paired.skip (h : Paired after c c') : Paired after c.skip c'.skip := by
  cases h with
  | same =>
    rw [Cursor.skip, Cursor.skip]
    have hflag : (c.extend after).ignoreBlanks = c.ignoreBlanks := rfl
    rw [hflag]
    split
    · rw [Cursor.extend_rest]
      rcases skipFrom_append after false c.rest with hsame | ⟨hend, hpast, hline⟩
      · rw [hsame]
        exact .same (c.goto (skipFrom false c.rest))
      · refine .past hend hpast fun hbreak => ?_
        rw [hline hbreak, hend]
        rfl
    · exact .same c
  | past hend hpast hline =>
    refine .past ?_ (c'.skip_suffix.trans hpast) fun hbreak => by rw [hline hbreak]
    have hsuffix := c.skip_suffix
    rwa [hend, List.suffix_nil] at hsuffix

/-- Both readings go on behind the same characters. -/
theorem paired_skipTo (after : List Char) (c : Cursor) (rest : List Char) :
    Paired after (c.skipTo rest) ((c.extend after).skipTo (rest ++ ')' :: after)) :=
  Paired.skip (.same (c.goto rest))

/-- Both readings go on behind what they have passed over. -/
theorem paired_goto (after : List Char) (c : Cursor) (rest : List Char) :
    Paired after (c.goto rest) ((c.extend after).goto (rest ++ ')' :: after)) :=
  .same (c.goto rest)

/-! ## Escapes -/

/-- A number of hexadecimal digits is read in the same way. -/
theorem tied_parseHexDigits (h : Paired after c c') (value count : Nat) :
    Tied after (parseHexDigits c value count) (parseHexDigits c' value count) := by
  induction count generalizing c c' value with
  | zero => exact .both value h
  | succ count ih =>
    refine h.tied (fun c => onward_parseHexDigits c value (count + 1)) fun c => ?_
    rw [parseHexDigits, parseHexDigits]
    split
    · rename_i hrest
      rw [Cursor.extend_nil hrest]
      exact .none
    · rename_i first rest hrest
      rw [Cursor.extend_cons hrest]
      exact .choose fun digit => ih (paired_skipTo after c rest) _

/-- Behind a character both readings have less left. -/
theorem skipTo_shorter {first : Char} (after : List Char) (hrest : c.rest = first :: rest) :
    (c.skipTo rest).rest.length < c.rest.length ∧
      ((c.extend after).skipTo (rest ++ ')' :: after)).rest.length <
        (c.extend after).rest.length := by
  have hlength := (c.skipTo_suffix rest).length_le
  have hlength' := ((c.extend after).skipTo_suffix (rest ++ ')' :: after)).length_le
  rw [Cursor.extend_cons hrest, hrest, List.length_cons, List.length_cons]
  omega

/-- Hexadecimal digits in braces are read in the same way. -/
theorem tied_parseHexBrace {n m : Nat} (h : Paired after c c') (hn : c.rest.length < n)
    (hm : c'.rest.length < m) (value : Option Nat) :
    Tied after (parseHexBrace c value n) (parseHexBrace c' value m) := by
  induction n generalizing m c c' value with
  | zero => omega
  | succ n ih =>
    obtain ⟨m, rfl⟩ : ∃ k, m = k + 1 := ⟨m - 1, by omega⟩
    cases h with
    | past hend hpast hline =>
      refine .of_past hend hpast hline (onward_parseHexBrace _ _ _) (onward_parseHexBrace _ _ _) ?_
      rintro rfl
      simp [parseHexBrace, hend]
    | same =>
      have hnext : ∀ {first : Char} {rest : List Char} (value : Option Nat),
          c.rest = first :: rest → Tied after (parseHexBrace (c.skipTo rest) value n)
            (parseHexBrace ((c.extend after).skipTo (rest ++ ')' :: after)) value m) := by
        intro first rest value hrest
        obtain ⟨hlt, hlt'⟩ := skipTo_shorter after hrest
        exact ih (paired_skipTo after c rest) (by omega) (by omega) value
      rw [parseHexBrace, parseHexBrace]
      split
      · rename_i hrest
        rw [Cursor.extend_nil hrest]
        exact .none
      · rename_i rest hrest
        rw [Cursor.extend_cons hrest]
        exact .choose fun value => .both value (paired_skipTo after c rest)
      · rename_i first rest hne hrest
        simp only [Cursor.extend_cons hrest]
        exact .choose fun digit => hnext _ hrest

/-- Characters given by their code are read in the same way. -/
theorem tied_parseHex (h : Paired after c c') (digits : Nat) :
    Tied after (parseHex c (digits + 1)) (parseHex c' (digits + 1)) := by
  have hskip := h.skip
  have honward := onward_parseHex c (digits + 1)
  have honward' := onward_parseHex c' (digits + 1)
  have hchar : ∀ (code : Nat) (raw : Bool) {d d' : Cursor}, Paired after d d' → Tied after
      (scalar? code >>= fun char => some (Primitive.literal ⟨char, raw⟩, d))
      (scalar? code >>= fun char => some (Primitive.literal ⟨char, raw⟩, d')) :=
    fun code raw _ _ hd => .choose fun char => .both _ hd
  have hon : ∀ (code : Nat) (raw : Bool) (d : Cursor), Onward d
      (scalar? code >>= fun char => some (Primitive.literal ⟨char, raw⟩, d)) :=
    fun code raw d => .choose fun char _ => .some List.suffix_rfl
  rw [parseHex] at honward honward' ⊢
  rw [parseHex]
  generalize c.skip = d at hskip honward ⊢
  generalize c'.skip = d' at hskip honward' ⊢
  cases hskip with
  | past hend hpast hline =>
    exact .of_past hend hpast hline honward honward' (by rintro rfl; rfl)
  | same =>
    simp only
    split
    · rename_i hrest
      have hfails : parseHexDigits (d.extend after) 0 (digits + 1) = none := by
        rw [parseHexDigits, Cursor.extend_nil hrest]
        rfl
      simp only [Cursor.extend_nil hrest, hfails]
      exact .none
    · rename_i rest hrest
      simp only [Cursor.extend_cons hrest]
      refine .bind (tied_parseHexBrace (paired_skipTo after d rest) ?_ ?_ none) ?_ ?_ ?_
      · exact Nat.lt_succ_self _
      · exact Nat.lt_succ_self _
      · exact fun code e e' _ _ hpaired => hchar code _ hpaired
      · exact fun code e => hon code _ e
      · exact fun code e => hon code _ e
    · rename_i hnil hbrace
      have hnil' : (d.extend after).rest = [] → False := Cursor.extend_ne_nil
      have hbrace' := Cursor.extend_ne after (by decide) hbrace
      simp only
      refine .bind (tied_parseHexDigits (.same d) 0 (digits + 1)) ?_ ?_ ?_
      · exact fun code e e' _ _ hpaired => hchar code _ hpaired
      · exact fun code e => hon code _ e
      · exact fun code e => hon code _ e

/-- Names of properties in braces are read in the same way. -/
theorem tied_parsePropertyName {n m : Nat} (h : Paired after c c') (hn : c.rest.length < n)
    (hm : c'.rest.length < m) (name : List Char) :
    Tied after (parsePropertyName c name n) (parsePropertyName c' name m) := by
  induction n generalizing m c c' name with
  | zero => omega
  | succ n ih =>
    obtain ⟨m, rfl⟩ : ∃ k, m = k + 1 := ⟨m - 1, by omega⟩
    cases h with
    | past hend hpast hline =>
      refine .of_past hend hpast hline (onward_parsePropertyName _ _ _)
        (onward_parsePropertyName _ _ _) ?_
      rintro rfl
      simp [parsePropertyName, hend]
    | same =>
      rw [parsePropertyName, parsePropertyName]
      split
      · rename_i hrest
        rw [Cursor.extend_nil hrest]
        refine .gone fun x d hd => ?_
        exact (onward_parsePropertyName _ _ _ x d hd).trans (Cursor.skipTo_suffix _ after)
      · rename_i rest hrest
        simp only [Cursor.extend_cons hrest]
        exact .both _ (paired_goto after c rest)
      · rename_i first rest hne hrest
        obtain ⟨hlt, hlt'⟩ := skipTo_shorter after hrest
        simp only [Cursor.extend_cons hrest]
        exact ih (paired_skipTo after c rest) (by omega) (by omega) _

/-- Classes given by a property are read in the same way. -/
theorem tied_parseProperty (h : Paired after c c') (negated : Bool) :
    Tied after (parseProperty c negated) (parseProperty c' negated) := by
  have hskip := h.skip
  have honward := onward_parseProperty c negated
  have honward' := onward_parseProperty c' negated
  rw [parseProperty] at honward honward' ⊢
  rw [parseProperty]
  generalize c.skip = d at hskip honward ⊢
  generalize c'.skip = d' at hskip honward' ⊢
  cases hskip with
  | past hend hpast hline =>
    exact .of_past hend hpast hline honward honward' (by rintro rfl; rfl)
  | same =>
    simp only
    split
    · rename_i hrest
      rw [Cursor.extend_nil hrest]
      refine .gone fun x e he => ?_
      obtain ⟨-, rfl⟩ := Prod.mk.inj (Option.some.inj he)
      exact Cursor.skipTo_suffix _ after
    · rename_i rest hrest
      simp only [Cursor.extend_cons hrest]
      refine .bind (tied_parsePropertyName (paired_skipTo after d rest) ?_ ?_ []) ?_ ?_ ?_
      · exact Nat.lt_succ_self _
      · exact Nat.lt_succ_self _
      · exact fun name e e' _ _ hpaired => .both _ hpaired
      · exact fun name e => .some List.suffix_rfl
      · exact fun name e => .some List.suffix_rfl
    · rename_i hrest
      simp only [Cursor.extend_cons hrest]
      exact .none
    · rename_i first rest _ _ hrest
      simp only [Cursor.extend_cons hrest]
      exact .both _ (paired_skipTo after d rest)

/-- Reading the name of an edge goes onward. -/
theorem onward_parseEdgeName (c : Cursor) (name : List Char) (n : Nat) :
    Onward c (some (parseEdgeName c name n)) :=
  .some (parseEdgeName_suffix c name n)

/-- Names of edges are read in the same way. -/
theorem tied_parseEdgeName {n m : Nat} (h : Paired after c c') (hn : c.rest.length < n)
    (hm : c'.rest.length < m) (name : List Char) :
    Tied after (some (parseEdgeName c name n)) (some (parseEdgeName c' name m)) := by
  induction n generalizing m c c' name with
  | zero => omega
  | succ n ih =>
    obtain ⟨m, rfl⟩ : ∃ k, m = k + 1 := ⟨m - 1, by omega⟩
    cases h with
    | past hend hpast hline =>
      refine .of_past hend hpast hline (onward_parseEdgeName _ _ _) (onward_parseEdgeName _ _ _) ?_
      rintro rfl
      simp [parseEdgeName, hend]
    | same =>
      rw [parseEdgeName, parseEdgeName]
      split
      · rename_i hrest
        rw [Cursor.extend_nil hrest]
        exact .both _ (.same c)
      · rename_i first rest hrest
        rw [Cursor.extend_cons hrest]
        obtain ⟨hlt, hlt'⟩ := skipTo_shorter after hrest
        simp only
        split
        · exact ih (paired_skipTo after c rest) (by omega) (by omega) _
        · exact .both _ (.same c)

/-- The kind of word boundary whose name has been read, up to the closing brace. -/
def closeEdge (read : List Char × Cursor) : Option (WordEdge × Cursor) :=
  match read.2.rest with
  | '\x7d' :: rest => do
    return (← edgeNames.lookup (String.ofList read.1), read.2.goto rest)
  | _ => none

/-- The kind of word boundary in braces, or none where these hold something else. -/
def edgeWithin (c inner : Cursor) : Option (WordEdge × Cursor) :=
  match inner.rest with
  | [] => none
  | first :: _ =>
    if isEdgeChar first then closeEdge (parseEdgeName inner [] (inner.rest.length + 1))
    else some (.boundary, c)

/-- Behind a brace the name of an edge may stand. -/
theorem parseWordEdge_brace (hrest : c.rest = '\x7b' :: rest) :
    parseWordEdge c = edgeWithin c (c.skipTo rest) := by
  rw [parseWordEdge, hrest]
  rfl

/-- Closing the brace behind a name goes onward. -/
theorem onward_closeEdge (read : List Char × Cursor) : Onward read.2 (closeEdge read) := by
  rw [closeEdge]
  split
  · rename_i hrest
    exact .choose fun edge _ => .some (Cursor.goto_suffix_of_cons hrest)
  · exact .none

/-- The brace behind a name is closed in the same way. -/
theorem tied_closeEdge {name : List Char} (h : Paired after d d') :
    Tied after (closeEdge (name, d)) (closeEdge (name, d')) := by
  refine h.tied (fun d => onward_closeEdge (name, d)) fun d => ?_
  rw [closeEdge, closeEdge]
  split
  · rename_i rest hrest
    simp only [Cursor.extend_cons hrest]
    exact .choose fun edge => .both edge (paired_goto after d rest)
  · rename_i hbrace
    have hbrace' := Cursor.extend_ne after (by decide) hbrace
    simp only
    exact .none

/-- A place in front of a brace that nothing but blanks and comments of the pattern follow.  There
the escape for word boundaries fails at the end of the pattern, but takes the parenthesis for the
start of a counted repetition; the latter fails when it is read. -/
def Dangling (c : Cursor) : Prop :=
  ∃ rest, c.rest = '\x7b' :: rest ∧ (c.skipTo rest).rest = []

/-- An edge in braces is read in the same way, unless the pattern ends within them: there the longer
text is read as a boundary with a repetition behind it. -/
theorem tied_edgeWithin {inner inner' : Cursor} (h : Paired after inner inner') (c : Cursor) :
    Tied after (edgeWithin c inner) (edgeWithin (c.extend after) inner') ∨
      (inner.rest = [] ∧ edgeWithin c inner = none ∧
        edgeWithin (c.extend after) inner' = some (.boundary, c.extend after)) := by
  rw [edgeWithin, edgeWithin]
  cases h with
  | past hend hpast hline =>
    rw [hend]
    cases hrest : inner'.rest with
    | nil => exact .inl .none
    | cons first rest =>
      dsimp only
      split
      · refine .inl (.gone fun edge d hd => ?_)
        exact (onward_closeEdge _ edge d hd).trans ((parseEdgeName_suffix _ _ _).trans hpast)
      · exact .inr ⟨rfl, rfl, rfl⟩
  | same =>
    rw [Cursor.extend_rest]
    cases hrest : inner.rest with
    | nil => exact .inr ⟨rfl, rfl, rfl⟩
    | cons first rest =>
      simp only [List.cons_append]
      split
      · refine .inl ?_
        have hname : Tied after _ _ := tied_parseEdgeName (.same inner) (Nat.lt_succ_self _)
          (Nat.lt_succ_self _) []
        rw [Cursor.extend_rest, hrest, List.cons_append] at hname
        have hclose : Tied after (_ >>= closeEdge) (_ >>= closeEdge) :=
          hname.bind (fun name d d' _ _ hpaired => tied_closeEdge hpaired)
            (fun name d => onward_closeEdge (name, d)) fun name d => onward_closeEdge (name, d)
        exact hclose
      · exact .inl (.both _ (.same c))

/-- Edges of words are read in the same way, unless the brace is left dangling. -/
theorem tied_parseWordEdge (h : Paired after c c') :
    Tied after (parseWordEdge c) (parseWordEdge c') ∨
      (Dangling c ∧ parseWordEdge c = none ∧ c' = c.extend after ∧
        parseWordEdge c' = some (.boundary, c')) := by
  cases h with
  | past hend hpast hline =>
    exact .inl (.of_past hend hpast hline (onward_parseWordEdge c) (onward_parseWordEdge c')
      (by rintro rfl; rfl))
  | same =>
    by_cases hbrace : ∃ rest, c.rest = '\x7b' :: rest
    · obtain ⟨rest, hrest⟩ := hbrace
      have hrest' : (c.extend after).rest = '\x7b' :: (rest ++ ')' :: after) := by
        rw [Cursor.extend_rest, hrest, List.cons_append]
      rw [parseWordEdge_brace hrest, parseWordEdge_brace hrest']
      rcases tied_edgeWithin (paired_skipTo after c rest) c with htied | ⟨hend, hnone, hsome⟩
      · exact .inl htied
      · exact .inr ⟨⟨rest, hrest, hend⟩, hnone, rfl, hsome⟩
    · have hplain : ∀ d : Cursor, (∀ rest, d.rest ≠ '\x7b' :: rest) →
          parseWordEdge d = some (.boundary, d) := by
        intro d hd
        rw [parseWordEdge]
        split
        · rename_i rest hrest
          exact absurd hrest (hd rest)
        · rfl
      have hc : ∀ rest, c.rest ≠ '\x7b' :: rest := fun rest hrest => hbrace ⟨rest, hrest⟩
      rw [hplain c hc, hplain (c.extend after) (Cursor.extend_ne after (by decide) hc)]
      exact .inl (.both _ (.same c))

/-- An escape is read in the same way, unless it is a word boundary in front of a dangling brace. -/
theorem tied_parseEscape (h : Paired after c c') :
    Tied after (parseEscape c) (parseEscape c') ∨
      (parseEscape c = none ∧ ∃ d, Dangling d ∧
        parseEscape c' = some (.assertion (.word .boundary), d.extend after)) := by
  cases h with
  | past hend hpast hline =>
    exact .inl (.of_past hend hpast hline (onward_parseEscape c) (onward_parseEscape c')
      (by rintro rfl; rfl))
  | same =>
    rw [parseEscape, parseEscape, Cursor.extend_rest]
    cases hrest : c.rest with
    | nil =>
      refine .inl (.gone fun x d hd => ?_)
      obtain ⟨-, rfl⟩ := Prod.mk.inj (Option.some.inj hd)
      exact List.suffix_rfl
    | cons first rest =>
      have hgoto := paired_goto after c rest
      simp only [List.cons_append]
      split
      · exact .inl (.both _ hgoto)
      · split
        all_goals first
          | exact .inl (.both _ hgoto)
          | exact .inl .none
          | exact .inl (tied_parseHex hgoto _)
          | exact .inl (tied_parseProperty hgoto _)
          | skip
        rcases tied_parseWordEdge hgoto with htied | ⟨hdangling, hnone, hext, hsome⟩
        · exact .inl (htied.map fun edge => Primitive.assertion (.word edge))
        · rw [hext] at hsome
          exact .inr ⟨by rw [hnone]; rfl, _, hdangling, by rw [hext, hsome]; rfl⟩

end ShellComposer.Pattern
