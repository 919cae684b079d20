import ShellComposer.Proofs.Building
import ShellComposer.Proofs.SearchLanguage

/-!
# Rules tied to both ends of a text

The pattern of a rule about a sequence is compiled in a group between the start and the end of the
text, by any engine that obeys the documented laws of its patterns.  A pattern that is valid by
itself then matches just the texts that it matches from their first to their last character, unless
it is refused because it ends in a comment, which goes on over the end of the group, or because
there is no room for it.  A text that is no pattern by itself is refused, unless a parenthesis in it
may close the group early.

Main results:

- Inductive `Refused`: why a valid pattern is refused between the ends.
- Theorem `wholeSequence_eq_none_iff`: which patterns are refused there.
- Theorem `wholeSequence_accepts_iff`: what the others accept.
- Theorem `build_anchors`: which rules are reported, and what the compiled ones accept.
-/

namespace ShellComposer

open Pattern

namespace Catalog

variable {engine : Engine} {definitions : Definitions} {language : Language}

/-! ## Patterns between the ends -/

/-- Why a pattern that is valid by itself is refused between the ends: it ends in a comment, which
goes on over the end of the group, or there is no room for it. -/
inductive Refused (language : Language) (pattern : String) : Prop where
  | commented (h : (language.parse (pattern ++ ")$")).isSome = true)
  | crowded (h : ¬language.Fits (wholeSequence pattern))

section Ends

variable {pattern : String}

/-- A parenthesis of a pattern with the end of a group behind it is one of the pattern, or else the
one that closes the group. -/
theorem inside_of_close {inside behind : String}
    (h : pattern ++ ")$" = inside ++ ")" ++ behind) :
    inside = pattern ∨ ∃ more, pattern = inside ++ ")" ++ more := by
  have hlist : pattern.toList ++ [')', '$'] = inside.toList ++ ')' :: behind.toList := by
    simpa using congrArg String.toList h
  rcases List.append_eq_append_iff.1 hlist with ⟨tail, hinside, htail⟩ | ⟨more, hmore, hclose⟩
  · -- behind the pattern there is one parenthesis only, and nothing in front of it
    obtain rfl : tail = [] := by
      cases tail with
      | nil => rfl
      | cons first rest =>
        have hrest := (List.cons.inj htail).2
        have hmem : ')' ∈ ['$'] := hrest ▸ List.mem_append_right rest List.mem_cons_self
        simp at hmem
    exact .inl (String.toList_inj.1 (by simpa using hinside))
  · cases more with
    | nil => exact .inl (String.toList_inj.1 (by simpa using hmore.symm))
    | cons first more =>
      obtain rfl := (List.cons.inj hclose).1
      refine .inr ⟨String.ofList more, String.toList_inj.1 ?_⟩
      simp [hmore]

/-- A text that can be read between the ends is a pattern by itself, behind which the end of the
group is left, unless a parenthesis in it closes the group early. -/
theorem parse_of_wholeSequence (hlawful : language.Lawful) (hstray : ¬language.Stray pattern)
    (h : (language.parse (wholeSequence pattern)).isSome = true) :
    (language.parse pattern).isSome = true ∧ language.parse (pattern ++ ")$") = none := by
  rw [wholeSequence, String.append_assoc] at h
  constructor
  · by_contra hinvalid
    obtain ⟨inside, behind, hparts, hinside⟩ := hlawful.closed _ h
    rcases inside_of_close hparts with rfl | ⟨more, hmore⟩
    · exact hinvalid hinside
    · exact hstray ⟨Option.not_isSome_iff_eq_none.1 hinvalid, inside, more, hmore, hinside⟩
  · refine Option.not_isSome_iff_eq_none.1 fun hover => ?_
    rw [hlawful.unclosed _ hover] at h
    exact Bool.false_ne_true h

/-- A pattern without a stray parenthesis is refused between the ends when it is not valid by
itself, ends in a comment, or does not fit. -/
theorem wholeSequence_eq_none_iff (hlawful : language.Lawful) (hspeaks : Speaks engine language)
    (hstray : ¬language.Stray pattern) : engine (wholeSequence pattern) = none ↔
      language.parse pattern = none ∨ Refused language pattern := by
  rw [← Option.not_isSome_iff_eq_none, hspeaks.isSome_iff, ← Option.not_isSome_iff_eq_none]
  constructor
  · intro hnone
    by_contra hneither
    obtain ⟨hvalid, haccepted⟩ := not_or.1 hneither
    obtain ⟨tree, htree⟩ := Option.isSome_iff_exists.1 (not_not.1 hvalid)
    have hclose : language.parse (pattern ++ ")$") = none :=
      Option.not_isSome_iff_eq_none.1 fun hover => haccepted (.commented hover)
    refine hnone ⟨?_, by_contra fun hcrowded => haccepted (.crowded hcrowded)⟩
    rw [wholeSequence, hlawful.enclosed pattern tree htree hclose]
    rfl
  · rintro hrefused ⟨hread, hfits⟩
    obtain ⟨hvalid, hclose⟩ := parse_of_wholeSequence hlawful hstray hread
    rcases hrefused with hinvalid | hover | hcrowded
    · exact hinvalid hvalid
    · rw [hclose] at hover
      exact Bool.false_ne_true hover
    · exact hcrowded hfits

/-- Between the ends a pattern occurs in the texts that it matches as a whole. -/
theorem matches_enclosed_iff (hlawful : language.Lawful) (tree : language.Tree) (text : String) :
    (∃ i j, language.Matches (language.sequence language.start
      (language.sequence (language.group tree) language.finish)) text i j) ↔
    language.Matches tree text 0 text.length := by
  simp only [hlawful.sequence_iff, hlawful.start_iff, hlawful.finish_iff, hlawful.group_iff]
  constructor
  · rintro ⟨_, _, _, ⟨rfl, rfl⟩, _, hmatches, rfl, rfl⟩
    exact hmatches
  · intro hmatches
    exact ⟨0, text.length, 0, ⟨rfl, rfl⟩, text.length, hmatches, rfl, rfl⟩

/-- What is compiled of a pattern between the ends accepts the texts that the pattern matches from
their first to their last character. -/
theorem wholeSequence_accepts_iff (hlawful : language.Lawful) (hspeaks : Speaks engine language)
    (hstray : ¬language.Stray pattern) {matcher : Matcher}
    (h : engine (wholeSequence pattern) = some matcher) : ∃ tree,
      language.parse pattern = some tree ∧
      ∀ text, matcher text = true ↔ language.Matches tree text 0 text.length := by
  have hsome := (hspeaks.isSome_iff _).1 (Option.isSome_iff_exists.2 ⟨matcher, h⟩)
  obtain ⟨hvalid, hclose⟩ := parse_of_wholeSequence hlawful hstray hsome.1
  obtain ⟨tree, htree⟩ := Option.isSome_iff_exists.1 hvalid
  have hwhole := hlawful.enclosed pattern tree htree hclose
  refine ⟨tree, htree, fun text => ?_⟩
  exact (hspeaks.accepts_iff _ matcher _ h hwhole text).trans
    (matches_enclosed_iff hlawful tree text)

end Ends

/-! ## Rules of catalogs -/

/-- Building reports a fault at a place of the definitions. -/
def ReportedAt (engine : Engine) (definitions : Definitions) (spot : Spot) (fault : Fault) : Prop :=
  ∃ faults entries, build engine definitions = .error faults ∧
    Itemized engine definitions.normalize faults entries ∧ (spot, fault) ∈ entries

/-- Every fault is reported at its place. -/
theorem reportedAt_iff {spot : Spot} {fault : Fault} : ReportedAt engine definitions spot fault ↔
    FaultAt engine definitions.normalize spot fault := by
  constructor
  · rintro ⟨faults, entries, -, hitemized, hmem⟩
    exact (hitemized.mem_iff spot fault).1 hmem
  · intro hfault
    have hmem := mem_locatedFaults.2 hfault
    rcases build_cases engine definitions with ⟨hbuildable, -⟩ | ⟨-, hbuild⟩
    · have hnone := defects_eq_nil_iff.2 hbuildable
      rw [← map_snd_locatedFaults, List.map_eq_nil_iff] at hnone
      simp [hnone] at hmem
    · exact ⟨_, _, hbuild, itemized_defects, hmem⟩

section Rules

variable {c r : Nat} {command : CommandDef} {rule : SyntaxRule}

/-- A rule about sequences has a fault when its pattern is refused between the ends. -/
theorem faultAt_sequenceRule_iff (hcommand : definitions.commands[c]? = some command)
    (hrule : command.operandSyntaxRules[r]? = some rule) :
    FaultAt engine definitions (.sequenceRule c r)
      (.invalidSyntaxRule rule.regexPattern command.id) ↔
    engine (wholeSequence rule.regexPattern) = none := by
  constructor
  · generalize hfault : Fault.invalidSyntaxRule rule.regexPattern command.id = fault
    intro hat
    cases hat with
    | sequenceRule hcommand' hrule' hinvalid =>
      obtain rfl := Option.some.inj (hcommand.symm.trans hcommand')
      obtain rfl := Option.some.inj (hrule.symm.trans hrule')
      exact hinvalid
  · exact .sequenceRule hcommand hrule

/-- A rule about sequences whose pattern has no stray parenthesis is reported when the pattern is
not valid by itself or is refused between the ends.  In a catalog that is built, such a rule accepts
the texts that its pattern matches from their first to their last character. -/
theorem build_anchors (hlawful : language.Lawful) (hspeaks : Speaks engine language)
    (hcommand : definitions.normalize.commands[c]? = some command)
    (hrule : command.operandSyntaxRules[r]? = some rule)
    (hstray : ¬language.Stray rule.regexPattern) :
    (ReportedAt engine definitions (.sequenceRule c r)
        (.invalidSyntaxRule rule.regexPattern command.id) ↔
      language.parse rule.regexPattern = none ∨ Refused language rule.regexPattern) ∧
    ∀ catalog, build engine definitions = .ok catalog → ∃ compiled tree,
      (catalog.sequenceRulesOf command.id)[r]? = some compiled ∧
      language.parse rule.regexPattern = some tree ∧
      ∀ text, compiled.accepts text = true ↔ language.Matches tree text 0 text.length := by
  constructor
  · rw [reportedAt_iff, faultAt_sequenceRule_iff hcommand hrule]
    exact wholeSequence_eq_none_iff hlawful hspeaks hstray
  · intro catalog hbuild
    rcases build_cases engine definitions with ⟨hbuildable, hcatalog⟩ | ⟨-, hfaults⟩
    · obtain rfl := Except.ok.inj (hcatalog.symm.trans hbuild)
      have hrules := (answers_compile hbuildable).sequence_rules command
        (List.mem_of_getElem? hcommand)
      have hposition := congrArg (fun rules => rules[r]?) hrules
      simp only [List.getElem?_map, hrule, Option.map_some] at hposition
      obtain ⟨compiled, hcompiled, hsame⟩ := Option.map_eq_some_iff.1 hposition.symm
      obtain ⟨accepts, haccepts, rfl⟩ := Option.map_eq_some_iff.1 hsame.symm
      obtain ⟨tree, htree, hiff⟩ := wholeSequence_accepts_iff hlawful hspeaks hstray haccepts
      exact ⟨_, tree, hcompiled, htree, hiff⟩
    · simp [hfaults] at hbuild

end Rules

/-! ### A command with one rule -/

/-- A command with one rule about the sequence of its operands. -/
def ruledCommand (pattern : String) : CommandDef :=
  { (default : CommandDef) with
    givenId := some "ls"
    shellCommand := "ls"
    operandSyntaxRules := [⟨pattern, none⟩] }

/-- The definitions with this command only. -/
def ruledDefinitions (pattern : String) : Definitions :=
  ⟨[ruledCommand pattern], [], [], []⟩

/-- The rule of this command with two alternatives, one of which starts the other, is kept and
accepts the texts that the two match as a whole. -/
theorem alternatives_anchored : ∃ catalog,
    build search (ruledDefinitions "a|ab") = .ok catalog ∧
    (ReportedAt search (ruledDefinitions "a|ab") (.sequenceRule 0 0)
        (.invalidSyntaxRule "a|ab" "ls") ↔
      Pattern.language.parse "a|ab" = none ∨ Refused Pattern.language "a|ab") ∧
    ∃ compiled expr, (catalog.sequenceRulesOf "ls")[0]? = some compiled ∧
      Pattern.language.parse "a|ab" = some expr ∧
      ∀ text, compiled.accepts text = true ↔ Pattern.language.Matches expr text 0 text.length := by
  have hdefects : defects search (ruledDefinitions "a|ab").normalize = [] := by decide +kernel
  have hbuild : build search (ruledDefinitions "a|ab") =
      .ok (compile search (ruledDefinitions "a|ab").normalize) := by
    rw [build, hdefects]
  have hcommand : (ruledDefinitions "a|ab").normalize.commands[0]? =
      some (ruledCommand "a|ab") := rfl
  have hrule : (ruledCommand "a|ab").operandSyntaxRules[0]? = some ⟨"a|ab", none⟩ := rfl
  have hvalid : (Pattern.language.parse "a|ab").isSome = true := by decide +kernel
  have hstray : ¬Pattern.language.Stray "a|ab" := by
    rintro ⟨hinvalid, -⟩
    rw [hinvalid] at hvalid
    exact Bool.false_ne_true hvalid
  have hanchors := build_anchors lawful_language speaks_search hcommand hrule hstray
  exact ⟨_, hbuild, hanchors.1, hanchors.2 _ hbuild⟩

/-- Loading a rule and the validity of its pattern by itself do not go together.  A pattern with a
stray parenthesis is not valid, but is loaded, and then accepts what is tied to one end of the text
only.  A pattern that ends in a comment is valid, but is reported. -/
theorem stray_loaded_comment_reported :
    (search "a)|(b" = none ∧ ∃ catalog,
      build search (ruledDefinitions "a)|(b") = .ok catalog ∧
      (catalog.sequenceRulesOf "ls").map (fun rule => rule.accepts "a?") = [true]) ∧
    (search "(?x)a # note").isSome = true ∧
      ReportedAt search (ruledDefinitions "(?x)a # note") (.sequenceRule 0 0)
        (.invalidSyntaxRule "(?x)a # note" "ls") := by
  have hdefects : defects search (ruledDefinitions "a)|(b").normalize = [] := by decide +kernel
  have hbuild : build search (ruledDefinitions "a)|(b") =
      .ok (compile search (ruledDefinitions "a)|(b").normalize) := by
    rw [build, hdefects]
  have hinvalid : (search "a)|(b").isNone = true := by decide +kernel
  have hrefused : (search (wholeSequence "(?x)a # note")).isNone = true := by decide +kernel
  have hcommand : (ruledDefinitions "(?x)a # note").normalize.commands[0]? =
      some (ruledCommand "(?x)a # note") := rfl
  have hrule : (ruledCommand "(?x)a # note").operandSyntaxRules[0]? =
      some ⟨"(?x)a # note", none⟩ := rfl
  have haccepts : ((compile search (ruledDefinitions "a)|(b").normalize).sequenceRulesOf "ls").map
      (fun rule => rule.accepts "a?") = [true] := by
    decide +kernel
  have hvalid : (search "(?x)a # note").isSome = true := by decide +kernel
  refine ⟨⟨Option.isNone_iff_eq_none.1 hinvalid, _, hbuild, haccepts⟩, hvalid, ?_⟩
  exact reportedAt_iff.2 ((faultAt_sequenceRule_iff hcommand hrule).2
    (Option.isNone_iff_eq_none.1 hrefused))

end Catalog

end ShellComposer
