import Mathlib.Data.List.Basic
import TreeBundle.Decide.Classify
import TreeBundle.Decide.Prune
import TreeBundle.Proofs.Rules.Patterns
import TreeBundle.Proofs.Rules.RuleSet

/-!
# Stricter rules

Tables are stricter than others if they exclude whatever these exclude and include nothing that
these do not include. What they compile to rejects more files by any rule and admits fewer by any
other, so that it admits fewer files.
-/
namespace TreeBundle
set_option autoImplicit false

/-- Tables with more exclusions and fewer inclusions. -/
structure RuleTables.Stricter (strict loose : RuleTables) : Prop where
  excludeFilenames : loose.excludeFilenames.toList ⊆ strict.excludeFilenames.toList
  excludeExtensions : loose.excludeExtensions.toList ⊆ strict.excludeExtensions.toList
  excludeRegexes : loose.excludeRegexes ⊆ strict.excludeRegexes
  excludeDirs : loose.excludeDirs.toList ⊆ strict.excludeDirs.toList
  includeFilenames : strict.includeFilenames.toList ⊆ loose.includeFilenames.toList
  includeExtensions : strict.includeExtensions.toList ⊆ loose.includeExtensions.toList
  includeRegexes : strict.includeRegexes ⊆ loose.includeRegexes
  includeShebang : strict.includeShebang = true → loose.includeShebang = true
  alwaysIncludeFiles : strict.alwaysIncludeFiles ⊆ loose.alwaysIncludeFiles

namespace RuleSet

/-! ## Rejecting and admitting rules -/

/-- The rules that reject a file. -/
def rejecting : List RuleKind :=
  [.excludeFilename, .excludeExtension, .excludeRegex]

/-- The rules that admit a file. -/
def admitting : List RuleKind :=
  [.includeFilename, .includeExtension, .includeRegex, .shebang]

theorem fileRules_eq : fileRules = rejecting ++ admitting :=
  rfl

variable {rules strict loose : RuleSet} {files : FileSystem} {name : String} {dir : NativePath}

/-- A file is admitted if no rejecting rule and some admitting rule applies to it. -/
theorem admits_iff :
    rules.admits files name dir = true ↔
      (∀ kind ∈ rejecting, rules.applies files name dir kind = false) ∧
        ∃ kind ∈ admitting, rules.applies files name dir kind = true := by
  have rejected : ∀ kind ∈ rejecting, kind.verdict.isAdmitted = false := by decide
  have admitted : ∀ kind ∈ admitting, kind.verdict.isAdmitted = true := by decide
  rw [admits, decide, fileRules_eq, List.find?_append]
  cases first : rejecting.find? (rules.applies files name dir) with
  | some kind =>
    have member := List.mem_of_find?_eq_some first
    have applies := List.find?_some first
    have verdict : ((Option.some kind).getD .byDefault).verdict.isAdmitted = false :=
      rejected kind member
    rw [Option.some_or, Decision.byRule, verdict]
    simp only [Bool.false_eq_true, false_iff, not_and]
    intro none_rejects
    rw [none_rejects kind member] at applies
    cases applies
  | none =>
    have none_rejects : ∀ kind ∈ rejecting, rules.applies files name dir kind = false :=
      fun kind member => Bool.not_eq_true _ ▸ List.find?_eq_none.1 first kind member
    rw [Option.none_or]
    cases second : admitting.find? (rules.applies files name dir) with
    | some kind =>
      have member := List.mem_of_find?_eq_some second
      have verdict : ((Option.some kind).getD .byDefault).verdict.isAdmitted = true :=
        admitted kind member
      rw [Decision.byRule, verdict]
      exact ⟨fun _ => ⟨none_rejects, kind, member, List.find?_some second⟩, fun _ => rfl⟩
    | none =>
      have none_admits := List.find?_eq_none.1 second
      refine ⟨fun by_default => absurd by_default (by decide), ?_⟩
      rintro ⟨-, kind, member, applies⟩
      exact absurd applies (none_admits kind member)

/-! ## Comparing rules -/

/-- Rules that reject more and admit less by each rule. -/
structure Stricter (strict loose : RuleSet) : Prop where
  rejects : ∀ kind ∈ rejecting, ∀ files name dir,
    loose.applies files name dir kind = true → strict.applies files name dir kind = true
  admits : ∀ kind ∈ admitting, ∀ files name dir,
    strict.applies files name dir kind = true → loose.applies files name dir kind = true
  isExcludedDir : ∀ rel, loose.isExcludedDir rel = true → strict.isExcludedDir rel = true
  alwaysIncludeFiles : strict.alwaysIncludeFiles ⊆ loose.alwaysIncludeFiles

/-- Stricter rules admit fewer files. -/
theorem Stricter.admits_le (stricter : Stricter strict loose)
    (admitted : strict.admits files name dir = true) : loose.admits files name dir = true := by
  obtain ⟨none_rejects, kind, member, applies⟩ := admits_iff.1 admitted
  refine admits_iff.2 ⟨fun other inside => ?_, kind, member,
    stricter.admits kind member files name dir applies⟩
  rw [Bool.eq_false_iff]
  intro rejected
  have also_rejected := stricter.rejects other inside files name dir rejected
  rw [none_rejects other inside] at also_rejected
  cases also_rejected

theorem Stricter.not_excluded (stricter : Stricter strict loose) {rel : String}
    (not_excluded : strict.isExcludedDir rel = false) : loose.isExcludedDir rel = false := by
  rw [Bool.eq_false_iff]
  intro excluded
  rw [stricter.isExcludedDir rel excluded] at not_excluded
  cases not_excluded

/-- With stricter rules fewer directories have their files looked at, and fewer subdirectories are
kept. -/
theorem Stricter.prune (stricter : Stricter strict loose) (rel : String) (subdirs : List String) :
    ((strict.prune rel subdirs).processCurrent = true →
        (loose.prune rel subdirs).processCurrent = true) ∧
      (strict.prune rel subdirs).kept.Sublist (loose.prune rel subdirs).kept := by
  rw [RuleSet.prune, RuleSet.prune]
  cases strictly : strict.isExcludedDir (RelPath.normalize rel) with
  | true => exact ⟨fun processed => Bool.noConfusion processed, List.nil_sublist _⟩
  | false =>
    rw [stricter.not_excluded strictly]
    refine ⟨fun _ => rfl, List.monotone_filter_right _ fun name kept => ?_⟩
    rw [keepsChild, Bool.not_eq_true'] at kept ⊢
    exact stricter.not_excluded kept

/-! ## Compiling stricter tables -/

theorem contains_of_subset {smaller larger : List String} (subset : smaller ⊆ larger)
    {text : String} (inside : smaller.contains text = true) : larger.contains text = true :=
  List.contains_iff_mem.2 (subset (List.contains_iff_mem.1 inside))

variable {tables strict_tables loose_tables : RuleTables}

theorem matches_of_subset {table : Table} {smaller larger : List String}
    {programs more_programs : List Pattern.Program} (subset : smaller ⊆ larger)
    (compiled : smaller.mapM (compilePattern table) = .ok programs)
    (also_compiled : larger.mapM (compilePattern table) = .ok more_programs)
    (found : (programs.any fun program => Pattern.isMatch program name) = true) :
    (more_programs.any fun program => Pattern.isMatch program name) = true := by
  obtain ⟨pattern, member, contributes⟩ := ((compiled_table compiled).2 name).1 found
  exact ((compiled_table also_compiled).2 name).2 ⟨pattern, subset member, contributes⟩

/-- Stricter tables compile to stricter rules. -/
theorem stricter_of_compile (compiled : compile strict_tables = .ok strict)
    (also_compiled : compile loose_tables = .ok loose)
    (stricter : strict_tables.Stricter loose_tables) : Stricter strict loose := by
  obtain ⟨strict_includes, strict_excludes⟩ := patterns_of_compile compiled
  obtain ⟨loose_includes, loose_excludes⟩ := patterns_of_compile also_compiled
  have strict_eq := eq_of_compile compiled
  have loose_eq := eq_of_compile also_compiled
  constructor
  · have names : loose.excludeFilenames ⊆ strict.excludeFilenames := by
      rw [strict_eq, loose_eq]
      exact stricter.excludeFilenames
    have extensions : loose.excludeExtensions ⊆ strict.excludeExtensions := by
      rw [strict_eq, loose_eq]
      exact List.map_subset _ stricter.excludeExtensions
    intro kind member files name dir applies
    simp only [rejecting, List.mem_cons, List.not_mem_nil, or_false] at member
    rcases member with rfl | rfl | rfl
    · exact contains_of_subset names applies
    · exact contains_of_subset extensions applies
    · exact matches_of_subset stricter.excludeRegexes loose_excludes strict_excludes applies
  · have names : strict.includeFilenames ⊆ loose.includeFilenames := by
      rw [strict_eq, loose_eq]
      exact stricter.includeFilenames
    have extensions : strict.includeExtensions ⊆ loose.includeExtensions := by
      rw [strict_eq, loose_eq]
      exact List.map_subset _ stricter.includeExtensions
    have shebang : strict.includeShebang = true → loose.includeShebang = true := by
      rw [strict_eq, loose_eq]
      exact stricter.includeShebang
    intro kind member files name dir applies
    simp only [admitting, List.mem_cons, List.not_mem_nil, or_false] at member
    rcases member with rfl | rfl | rfl | rfl
    · exact contains_of_subset names applies
    · simp only [RuleSet.applies, Bool.and_eq_true] at applies ⊢
      exact ⟨applies.1, contains_of_subset extensions applies.2⟩
    · exact matches_of_subset stricter.includeRegexes strict_includes loose_includes applies
    · simp only [RuleSet.applies, hasShebang, Bool.and_eq_true] at applies ⊢
      exact ⟨⟨shebang applies.1.1, applies.1.2⟩, applies.2⟩
  · have dirs : loose.excludeDirs ⊆ strict.excludeDirs := by
      rw [strict_eq, loose_eq]
      intro rel member
      rw [mem_firstOccurrences_iff] at member ⊢
      exact List.map_subset _ stricter.excludeDirs member
    exact fun rel excluded => contains_of_subset dirs excluded
  · intro rel member
    rw [alwaysIncludeFiles_of_compile compiled, mem_firstOccurrences_iff] at member
    rw [alwaysIncludeFiles_of_compile also_compiled, mem_firstOccurrences_iff]
    exact List.map_subset _ stricter.alwaysIncludeFiles member

end RuleSet
end TreeBundle
