import TreeBundle.Proofs.Pattern.Matching
import TreeBundle.Proofs.Pattern.Wrap
import TreeBundle.Rules.RuleSet

/-!
# What the patterns of a rule set match

A pattern that is a regular expression by itself matches a name exactly if it matches all of it. A
pattern is compiled as part of a longer text, though, and that text may be well formed where the
pattern is not: where the pattern closes the group around it.
-/
namespace TreeBundle
set_option autoImplicit false

namespace Pattern

/-! ## The program of an anchored expression -/

def anchoredProgram (body : Program) : Program :=
  .sequence (.look .textStart) (.sequence body (.sequence (.look .textEnd) .empty))

/-- The flags of a pattern do not reach the end of the text. -/
theorem meaning?_anchoredExpression {body : Expression} {program : Program} {after : Flags}
    (known : meaning? .initial (anchoredExpression body) = some (program, after)) :
    ∃ alone inner, meaning? .initial body = some (alone, inner) ∧
      program = anchoredProgram alone := by
  have unchanged : Flags.initial.apply [] = Flags.initial := rfl
  simp only [anchoredExpression, meaning?, sequenceOf?, unchanged] at known
  cases inside : meaning? .initial body with
  | none => simp [inside] at known
  | some found =>
    simp only [inside, Option.map_some] at known
    cases known
    exact ⟨found.1, found.2, rfl, rfl⟩

theorem footprint_le_anchoredProgram (body : Program) :
    footprint body ≤ footprint (anchoredProgram body) := by
  simp only [anchoredProgram, footprint]
  omega

theorem toRanges_single (code : Nat) : (CharClass.single code).toRanges = [(code, code)] := by
  simp [CharClass.single, CharClass.toRanges, CharClass.normalizeRanges, Sorting.sort,
    Sorting.place, CharClass.joinTouching]

/-- A single character takes one state for each byte that spells it. -/
theorem classFootprint_single (code : Nat) :
    classFootprint (.single code) = (byteSequences 64 code code).flatten.length * stateSize := by
  simp [classFootprint, toRanges_single, CharClass.countCodes]

theorem program?_eq_ok_iff {text : List Char} {program : Program} :
    program? text = .ok program ↔
      ∃ expression after, parse? text = some expression ∧
        meaning? .initial expression = some (program, after) ∧
        footprint program ≤ sizeLimit := by
  unfold program?
  constructor
  · intro result
    cases read : (parse? text).bind (meaning? .initial) with
    | none => simp [read] at result
    | some found =>
      obtain ⟨expression, parsed, known⟩ := Option.bind_eq_some_iff.1 read
      simp only [read] at result
      split at result
      · cases result
      · next small =>
        cases result
        exact ⟨expression, found.2, parsed, known, Nat.not_lt.1 small⟩
  · rintro ⟨expression, after, parsed, known, small⟩
    have read : (parse? text).bind (meaning? .initial) = some (program, after) := by
      rw [parsed, Option.bind_some, known]
    simp only [read]
    exact if_neg (Nat.not_lt.2 small)

/-- A compiled pattern closes too much, or it has a program of its own that is anchored. -/
theorem compile_cases {pattern : String} {program : Program}
    (compiled : compile pattern = .ok program) :
    Draft.empty.Overcloses pattern.toList ∨
      ∃ alone, program? pattern.toList = .ok alone ∧ program = anchoredProgram alone := by
  obtain ⟨expression, after, parsed, known, small⟩ := program?_eq_ok_iff.1 compiled
  rcases parse?_wrap parsed with overcloses | ⟨body, alone_parsed, rfl⟩
  · exact Or.inl overcloses
  · obtain ⟨alone, inner, alone_known, rfl⟩ := meaning?_anchoredExpression known
    have fits := Nat.le_trans (footprint_le_anchoredProgram alone) small
    exact Or.inr ⟨alone, program?_eq_ok_iff.2 ⟨body, inner, alone_parsed, alone_known, fits⟩, rfl⟩

/-! ## Matches -/

theorem spans_anchoredProgram {subject : Subject} {body : Program} {i j : Nat} :
    Spans subject.reader (anchoredProgram body) i j ↔
      i = 0 ∧ j = subject.chars.size ∧ Spans subject.reader body i j := by
  have start : ∀ k, subject.reader.look .textStart k = true ↔ k = 0 := by
    intro k
    simp [Subject.reader, Subject.look]
  have stop : ∀ k, subject.reader.look .textEnd k = true ↔ k = subject.chars.size := by
    intro k
    simp [Subject.reader, Subject.look]
  unfold anchoredProgram
  simp only [Spans.sequence_iff, Spans.look_iff, Spans.empty_iff, start, stop]
  constructor
  · rintro ⟨_, ⟨first, rfl⟩, k, spans, _, ⟨last, rfl⟩, rfl⟩
    exact ⟨first, last, spans⟩
  · rintro ⟨first, last, spans⟩
    exact ⟨i, ⟨first, rfl⟩, j, spans, j, ⟨last, rfl⟩, rfl⟩

/-- The spans of a text that a program matches. -/
def Matches (program : Program) (name : String) (i j : Nat) : Prop :=
  Spans (Subject.ofString name).reader program i j

theorem isMatch_anchoredProgram (body : Program) (name : String) :
    isMatch (anchoredProgram body) name = true ↔ Matches body name 0 name.toList.length := by
  unfold isMatch Matches
  rw [isFound_iff]
  have size : (Subject.ofString name).chars.size = name.toList.length := by
    simp [Subject.ofString]
  simp only [spans_anchoredProgram, size]
  constructor
  · rintro ⟨i, j, -, rfl, rfl, spans⟩
    exact spans
  · intro spans
    exact ⟨0, _, Nat.zero_le _, rfl, rfl, spans⟩

/-- Whether a pattern contributes a match of a name. -/
def Contributes (pattern name : String) : Prop :=
  ∃ program, compile pattern = .ok program ∧ isMatch program name = true

theorem contributes_iff {pattern : String} {program : Program} (name : String)
    (compiled : compile pattern = .ok program) :
    Contributes pattern name ↔ isMatch program name = true := by
  constructor
  · rintro ⟨other, same, found⟩
    rw [compiled] at same
    cases same
    exact found
  · intro found
    exact ⟨program, compiled, found⟩

/-- Where it compiles, a pattern is a regular expression by itself iff it does not close too much,
and then it contributes the names that it matches from end to end. -/
theorem alone_iff {pattern : String} {program : Program}
    (compiled : compile pattern = .ok program) :
    ((∃ alone, program? pattern.toList = .ok alone) ↔
      ¬ Draft.empty.Overcloses pattern.toList) ∧
    ∀ alone, program? pattern.toList = .ok alone → ∀ name,
      Contributes pattern name ↔ Matches alone name 0 name.toList.length := by
  have closes_nothing : ∀ alone, program? pattern.toList = .ok alone →
      ¬ Draft.empty.Overcloses pattern.toList := by
    intro alone known
    obtain ⟨expression, after, parsed, -⟩ := program?_eq_ok_iff.1 known
    exact not_overcloses_of_parse? parsed
  rcases compile_cases compiled with overcloses | ⟨alone, known, rfl⟩
  · have no_program : ∀ alone, program? pattern.toList ≠ .ok alone := fun alone known =>
      closes_nothing alone known overcloses
    refine ⟨⟨?_, fun closes_none => absurd overcloses closes_none⟩, ?_⟩
    · rintro ⟨alone, known⟩
      exact absurd known (no_program alone)
    · intro alone known
      exact absurd known (no_program alone)
  · refine ⟨⟨fun _ => closes_nothing alone known, fun _ => ⟨alone, known⟩⟩, ?_⟩
    intro other same name
    rw [known] at same
    cases same
    rw [contributes_iff name compiled, isMatch_anchoredProgram]

end Pattern

namespace RuleSet

theorem mapM_ok {α β ε : Type} {f : α → Except ε β} {items : List α} {results : List β}
    (all : items.mapM f = .ok results) :
    (∀ item ∈ items, ∃ result ∈ results, f item = .ok result) ∧
      ∀ result ∈ results, ∃ item ∈ items, f item = .ok result := by
  induction items generalizing results with
  | nil =>
    cases all
    exact ⟨by simp, by simp⟩
  | cons item items ih =>
    rw [List.mapM_cons] at all
    cases first : f item with
    | error problem =>
      rw [first] at all
      cases all
    | ok result =>
      cases others : items.mapM f with
      | error problem =>
        rw [first, others] at all
        cases all
      | ok more =>
        rw [first, others] at all
        cases all
        obtain ⟨forth, back⟩ := ih others
        constructor
        · intro other member
          rcases List.mem_cons.1 member with rfl | member
          · exact ⟨result, List.mem_cons_self, first⟩
          · obtain ⟨found, found_member, known⟩ := forth other member
            exact ⟨found, List.mem_cons_of_mem _ found_member, known⟩
        · intro other member
          rcases List.mem_cons.1 member with rfl | member
          · exact ⟨item, List.mem_cons_self, first⟩
          · obtain ⟨found, found_member, known⟩ := back other member
            exact ⟨found, List.mem_cons_of_mem _ found_member, known⟩

theorem compilePattern_ok {table : Table} {pattern : String} {program : Pattern.Program}
    (compiled : compilePattern table pattern = .ok program) :
    Pattern.compile pattern = .ok program := by
  unfold compilePattern at compiled
  cases result : Pattern.compile pattern with
  | error problem =>
    rw [result] at compiled
    cases compiled
  | ok other =>
    rw [result] at compiled
    cases compiled
    rfl

/-- What a table of patterns compiles to. -/
theorem compiled_table {table : Table} {patterns : List String} {programs : List Pattern.Program}
    (compiled : patterns.mapM (compilePattern table) = .ok programs) :
    (∀ pattern ∈ patterns, ∃ program, Pattern.compile pattern = .ok program) ∧
      ∀ name, (programs.any fun program => Pattern.isMatch program name) = true ↔
        ∃ pattern ∈ patterns, Pattern.Contributes pattern name := by
  obtain ⟨forth, back⟩ := mapM_ok compiled
  constructor
  · intro pattern member
    obtain ⟨program, -, known⟩ := forth pattern member
    exact ⟨program, compilePattern_ok known⟩
  · intro name
    rw [List.any_eq_true]
    constructor
    · rintro ⟨program, member, found⟩
      obtain ⟨pattern, pattern_member, known⟩ := back program member
      exact ⟨pattern, pattern_member, program, compilePattern_ok known, found⟩
    · rintro ⟨pattern, member, contributes⟩
      obtain ⟨program, program_member, known⟩ := forth pattern member
      exact ⟨program, program_member,
        (Pattern.contributes_iff name (compilePattern_ok known)).1 contributes⟩

theorem patterns_of_compile {tables : RuleTables} {rules : RuleSet}
    (compiled : compile tables = .ok rules) :
    tables.includeRegexes.mapM (compilePattern .includeRegexes) = .ok rules.includePatterns ∧
      tables.excludeRegexes.mapM (compilePattern .excludeRegexes) = .ok rules.excludePatterns := by
  unfold compile at compiled
  cases included : tables.includeRegexes.mapM (compilePattern .includeRegexes) with
  | error problem =>
    rw [included] at compiled
    cases compiled
  | ok includePatterns =>
    cases excluded : tables.excludeRegexes.mapM (compilePattern .excludeRegexes) with
    | error problem =>
      rw [included, excluded] at compiled
      cases compiled
    | ok excludePatterns =>
      rw [included, excluded] at compiled
      cases compiled
      exact ⟨rfl, rfl⟩

/-- In tables that compile, a pattern is a regular expression by itself iff it closes no group that
it did not open. If it is one, it contributes a name iff it matches the name from end to end; and a
name matches the patterns of a table iff one of them contributes it. -/
theorem patterns_match_whole_iff {tables : RuleTables} {rules : RuleSet}
    (compiled : compile tables = .ok rules) :
    (∀ pattern ∈ tables.includeRegexes ++ tables.excludeRegexes,
      ((∃ alone, Pattern.program? pattern.toList = .ok alone) ↔
        ¬ Pattern.Draft.empty.Overcloses pattern.toList) ∧
      ∀ alone, Pattern.program? pattern.toList = .ok alone → ∀ name,
        Pattern.Contributes pattern name ↔
          Pattern.Matches alone name 0 name.toList.length) ∧
    (∀ name, rules.matchesIncludePattern name = true ↔
      ∃ pattern ∈ tables.includeRegexes, Pattern.Contributes pattern name) ∧
    ∀ name, rules.matchesExcludePattern name = true ↔
      ∃ pattern ∈ tables.excludeRegexes, Pattern.Contributes pattern name := by
  obtain ⟨included, excluded⟩ := patterns_of_compile compiled
  obtain ⟨include_compiles, includes⟩ := compiled_table included
  obtain ⟨exclude_compiles, excludes⟩ := compiled_table excluded
  refine ⟨?_, includes, excludes⟩
  intro pattern member
  rcases List.mem_append.1 member with member | member
  · obtain ⟨program, known⟩ := include_compiles pattern member
    exact Pattern.alone_iff known
  · obtain ⟨program, known⟩ := exclude_compiles pattern member
    exact Pattern.alone_iff known

/-- Tables that admit nothing but what a pattern matches. -/
def onlyPattern (pattern : String) : RuleTables where
  includeExtensions := .empty
  excludeExtensions := .empty
  includeFilenames := .empty
  excludeFilenames := .empty
  includeRegexes := [pattern]
  excludeRegexes := []
  includeShebang := false
  excludeDirs := .empty
  alwaysIncludeFiles := []

/-- The rules for one compiled pattern. -/
def onlyProgram (program : Pattern.Program) : RuleSet where
  includeExtensions := []
  excludeExtensions := []
  includeFilenames := []
  excludeFilenames := []
  includePatterns := [program]
  excludePatterns := []
  includeShebang := false
  excludeDirs := []
  alwaysIncludeFiles := []

theorem compile_onlyPattern {pattern : String} {program : Pattern.Program}
    (compiled : Pattern.compile pattern = .ok program) :
    compile (onlyPattern pattern) = .ok (onlyProgram program) := by
  have table : (onlyPattern pattern).includeRegexes.mapM (compilePattern .includeRegexes) =
      .ok [program] := by
    simp only [onlyPattern, List.mapM_cons, List.mapM_nil, compilePattern, compiled]
    rfl
  unfold compile
  rw [table]
  rfl

/-- One of two letters. -/
def letterChoice : Pattern.Program :=
  .either (.single (.single 97)) (.single (.single 98))

theorem footprint_letterChoice :
    Pattern.footprint (Pattern.anchoredProgram letterChoice) ≤ Pattern.sizeLimit := by
  have a : Pattern.byteSequences 64 97 97 = [[(97, 97)]] := rfl
  have b : Pattern.byteSequences 64 98 98 = [[(98, 98)]] := rfl
  simp [Pattern.anchoredProgram, letterChoice, Pattern.footprint, Pattern.classFootprint_single,
    a, b, Pattern.stateSize, Pattern.alternativeSize, Pattern.sizeLimit]

theorem patterns_match_whole_iff_letterChoice :
    compile (onlyPattern "a|b") = .ok (onlyProgram (Pattern.anchoredProgram letterChoice)) ∧
    Pattern.program? "a|b".toList = .ok letterChoice ∧
    ∀ name, (onlyProgram (Pattern.anchoredProgram letterChoice)).matchesIncludePattern name = true ↔
      Pattern.Matches letterChoice name 0 name.toList.length := by
  have alone : Pattern.program? "a|b".toList = .ok letterChoice :=
    Pattern.program?_eq_ok_iff.2 ⟨_, _, rfl, rfl,
      Nat.le_trans (Pattern.footprint_le_anchoredProgram letterChoice) footprint_letterChoice⟩
  have compiled : Pattern.compile "a|b" = .ok (Pattern.anchoredProgram letterChoice) :=
    Pattern.program?_eq_ok_iff.2 ⟨_, _, rfl, rfl, footprint_letterChoice⟩
  have rules := compile_onlyPattern compiled
  obtain ⟨patterns, includes, -⟩ := patterns_match_whole_iff rules
  refine ⟨rules, alone, fun name => ?_⟩
  have contributes := (patterns "a|b" List.mem_cons_self).2 letterChoice alone name
  rw [includes name, ← contributes]
  constructor
  · rintro ⟨pattern, member, found⟩
    rwa [List.mem_singleton.1 member] at found
  · intro found
    exact ⟨"a|b", List.mem_cons_self, found⟩

/-- What becomes of a choice that closes the group around it: each of its sides is anchored at one
end only. -/
def brokenChoice : Pattern.Program :=
  .either (.sequence (.look .textStart) (.sequence (.single (.single 97)) .empty))
    (.sequence (.single (.single 98)) (.sequence (.look .textEnd) .empty))

/-- A pattern that is malformed by itself compiles, and matches a name by its first letter. -/
theorem malformed_pattern_matches_start :
    compile (onlyPattern "a)|(?:b") = .ok (onlyProgram brokenChoice) ∧
    Pattern.program? "a)|(?:b".toList = .error .malformed ∧
    (onlyProgram brokenChoice).matchesIncludePattern "axyz" = true := by
  have a : Pattern.byteSequences 64 97 97 = [[(97, 97)]] := rfl
  have b : Pattern.byteSequences 64 98 98 = [[(98, 98)]] := rfl
  have small : Pattern.footprint brokenChoice ≤ Pattern.sizeLimit := by
    simp [brokenChoice, Pattern.footprint, Pattern.classFootprint_single, a, b,
      Pattern.stateSize, Pattern.alternativeSize, Pattern.sizeLimit]
  have compiled : Pattern.compile "a)|(?:b" = .ok brokenChoice :=
    Pattern.program?_eq_ok_iff.2 ⟨_, _, rfl, rfl, small⟩
  exact ⟨compile_onlyPattern compiled, rfl, by decide⟩

end RuleSet
end TreeBundle
