import Mathlib.Data.List.Sort
import TreeBundle.Proofs.Rules.Patterns
import TreeBundle.Proofs.Rules.RuleSet

/-!
# What tables compile to

Compiling fails at the first pattern that does not compile, those that include before those that
exclude. Where it succeeds, nothing but the normal forms of paths is left: files that are always
included occur once each, where the first of their spellings stands, and a directory is excluded as
its normal form is that of an entry. So tables whose entries have the same normal forms compile to
rules that cannot be told apart.
-/
namespace TreeBundle
set_option autoImplicit false

namespace RuleSet

/-! ## The first failure -/

section Traversal

variable {α β ε : Type} {f : α → Except ε β} {items : List α}

/-- A traversal fails at the first item that fails. -/
theorem mapM_eq_error_iff {problem : ε} :
    items.mapM f = .error problem ↔
      ∃ front item back, items = front ++ item :: back ∧
        (∀ other ∈ front, ∃ result, f other = .ok result) ∧ f item = .error problem := by
  induction items with
  | nil => simp [pure, Except.pure]
  | cons first items ih =>
    rw [List.mapM_cons]
    cases read : f first with
    | error cause =>
      constructor
      · intro failed
        obtain rfl : cause = problem := Except.error.inj failed
        exact ⟨[], first, items, rfl, by simp, read⟩
      · rintro ⟨front, item, back, split, passed, failed⟩
        cases front with
        | nil =>
          obtain ⟨rfl, -⟩ := List.cons.inj split
          obtain rfl := Except.error.inj (read.symm.trans failed)
          rfl
        | cons other front =>
          obtain ⟨rfl, -⟩ := List.cons.inj split
          obtain ⟨result, passes⟩ := passed first List.mem_cons_self
          cases read.symm.trans passes
    | ok result =>
      have rest : (Except.ok result >>= fun found => do
          return found :: (← items.mapM f)) = .error problem ↔ items.mapM f = .error problem := by
        cases items.mapM f <;> simp [bind, Except.bind, pure, Except.pure]
      rw [rest, ih]
      constructor
      · rintro ⟨front, item, back, rfl, passed, failed⟩
        refine ⟨first :: front, item, back, rfl, ?_, failed⟩
        exact List.forall_mem_cons.2 ⟨⟨result, read⟩, passed⟩
      · rintro ⟨front, item, back, split, passed, failed⟩
        cases front with
        | nil =>
          obtain ⟨rfl, -⟩ := List.cons.inj split
          cases read.symm.trans failed
        | cons other front =>
          obtain ⟨rfl, rfl⟩ := List.cons.inj split
          exact ⟨front, item, back, rfl, fun other member =>
            passed other (List.mem_cons_of_mem _ member), failed⟩

end Traversal

theorem compilePattern_eq_error_iff {table : Table} {pattern : String} {problem : BadPattern} :
    compilePattern table pattern = .error problem ↔
      (problem.table, problem.pattern) = (table, pattern) ∧
        Pattern.compile pattern = .error problem.cause := by
  unfold compilePattern
  cases result : Pattern.compile pattern with
  | error cause =>
    obtain ⟨other_table, other_pattern, other_cause⟩ := problem
    simp only [Except.mapError, Except.error.injEq, BadPattern.mk.injEq, Prod.mk.injEq]
    constructor
    · rintro ⟨rfl, rfl, rfl⟩
      exact ⟨⟨rfl, rfl⟩, rfl⟩
    · rintro ⟨⟨rfl, rfl⟩, rfl⟩
      exact ⟨rfl, rfl, rfl⟩
  | ok program => simp [Except.mapError]

theorem exists_compilePattern_iff {table : Table} {pattern : String} :
    (∃ program, compilePattern table pattern = .ok program) ↔
      ∃ program, Pattern.compile pattern = .ok program := by
  unfold compilePattern
  cases Pattern.compile pattern <;> simp [Except.mapError]

end RuleSet

/-- The patterns of both tables, in the order in which they are compiled. -/
def RuleTables.patterns (tables : RuleTables) : List (Table × String) :=
  tables.includeRegexes.map (Prod.mk .includeRegexes) ++
    tables.excludeRegexes.map (Prod.mk .excludeRegexes)

namespace RuleSet

variable {tables : RuleTables}

/-- Compiling tables fails as compiling their patterns one after another does. -/
theorem compile_eq_error_iff_mapM {problem : BadPattern} :
    compile tables = .error problem ↔
      tables.patterns.mapM (fun entry => compilePattern entry.1 entry.2) = .error problem := by
  have included : (tables.includeRegexes.map (Prod.mk .includeRegexes)).mapM
      (fun entry : Table × String => compilePattern entry.1 entry.2) =
        tables.includeRegexes.mapM (compilePattern .includeRegexes) := List.mapM_map
  have excluded : (tables.excludeRegexes.map (Prod.mk .excludeRegexes)).mapM
      (fun entry : Table × String => compilePattern entry.1 entry.2) =
        tables.excludeRegexes.mapM (compilePattern .excludeRegexes) := List.mapM_map
  rw [RuleTables.patterns, List.mapM_append, included, excluded, compile]
  cases tables.includeRegexes.mapM (compilePattern .includeRegexes) with
  | error cause => simp [bind, Except.bind]
  | ok programs =>
    cases tables.excludeRegexes.mapM (compilePattern .excludeRegexes) with
    | error cause => simp [bind, Except.bind]
    | ok others => simp [bind, Except.bind, pure, Except.pure]

/-- Compiling fails at the first pattern that does not compile, and says which one that is. -/
theorem compile_eq_error_iff {problem : BadPattern} :
    compile tables = .error problem ↔
      ∃ front back, tables.patterns = front ++ (problem.table, problem.pattern) :: back ∧
        (∀ entry ∈ front, ∃ program, Pattern.compile entry.2 = .ok program) ∧
        Pattern.compile problem.pattern = .error problem.cause := by
  rw [compile_eq_error_iff_mapM, mapM_eq_error_iff]
  constructor
  · rintro ⟨front, entry, back, split, passed, failed⟩
    obtain ⟨same, cause⟩ := compilePattern_eq_error_iff.1 failed
    refine ⟨front, back, ?_, ?_, ?_⟩
    · rw [same]
      exact split
    · exact fun other member => exists_compilePattern_iff.1 (passed other member)
    · rw [(Prod.mk.inj same).2]
      exact cause
  · rintro ⟨front, back, split, passed, failed⟩
    refine ⟨front, _, back, split, ?_, compilePattern_eq_error_iff.2 ⟨rfl, failed⟩⟩
    exact fun other member => exists_compilePattern_iff.2 (passed other member)

theorem exists_program_of_compile {rules : RuleSet} (compiled : compile tables = .ok rules) :
    ∀ entry ∈ tables.patterns, ∃ program, Pattern.compile entry.2 = .ok program := by
  obtain ⟨included, excluded⟩ := patterns_of_compile compiled
  unfold RuleTables.patterns
  simp only [List.forall_mem_append, List.forall_mem_map]
  exact ⟨(compiled_table included).1, (compiled_table excluded).1⟩

theorem exists_error_iff :
    (∃ problem, compile tables = .error problem) ↔
      ∃ entry ∈ tables.patterns, ∃ cause, Pattern.compile entry.2 = .error cause := by
  constructor
  · rintro ⟨problem, failed⟩
    obtain ⟨front, back, split, -, cause⟩ := compile_eq_error_iff.1 failed
    refine ⟨(problem.table, problem.pattern), ?_, problem.cause, cause⟩
    rw [split]
    exact List.mem_append_right _ List.mem_cons_self
  · rintro ⟨entry, member, cause, failed⟩
    cases compiled : compile tables with
    | error problem => exact ⟨problem, rfl⟩
    | ok rules =>
      obtain ⟨program, known⟩ := exists_program_of_compile compiled entry member
      rw [known] at failed
      cases failed

/-! ## First occurrences -/

/-- Whether a text occurs before another one in a list. -/
def OccursBefore (items : List String) (left right : String) : Prop :=
  items.idxOf left < items.idxOf right

instance (items : List String) : Std.Irrefl (OccursBefore items) :=
  ⟨fun _ => Nat.lt_irrefl _⟩

instance (items : List String) : Std.Antisymm (OccursBefore items) :=
  ⟨fun _ _ before after => absurd (Nat.lt_trans before after) (Nat.lt_irrefl _)⟩

/-- What a list starts with occurs before an item that comes after it. -/
theorem occursBefore_append {front back : List String} {first item : String}
    (inside : first ∈ front) (absent : item ∉ front) :
    OccursBefore (front ++ item :: back) first item := by
  have first_index : (front ++ item :: back).idxOf first = front.idxOf first :=
    List.idxOf_append_of_mem inside
  have item_index : (front ++ item :: back).idxOf item = front.length := by
    rw [List.idxOf_append_of_notMem absent, List.idxOf_cons_self, Nat.add_zero]
  rw [OccursBefore, first_index, item_index]
  exact List.idxOf_lt_length_of_mem inside

/-- What is kept comes in the order in which it first occurs. -/
theorem pairwise_foldl_firstOccurrences {done kept left : List String}
    (same : ∀ item, item ∈ kept ↔ item ∈ done)
    (ordered : kept.Pairwise (OccursBefore (done ++ left))) :
    (left.foldl (fun kept item => if kept.contains item then kept else kept ++ [item])
      kept).Pairwise (OccursBefore (done ++ left)) := by
  induction left generalizing done kept with
  | nil => exact ordered
  | cons item left ih =>
    have moved : done ++ item :: left = done ++ [item] ++ left := by simp
    rw [moved] at ordered ⊢
    rw [List.foldl_cons]
    apply ih
    · intro other
      split
      · next present =>
        rw [List.contains_iff_mem] at present
        rw [List.mem_append, List.mem_singleton, ← same]
        exact ⟨Or.inl, fun inside => inside.elim id fun equal => equal ▸ present⟩
      · rw [List.mem_append, List.mem_append, same]
    · split
      · exact ordered
      · next absent =>
        rw [List.contains_iff_mem, same] at absent
        refine List.pairwise_append.2 ⟨ordered, List.pairwise_singleton _ _, ?_⟩
        intro first member last last_member
        rw [List.mem_singleton.1 last_member, ← moved]
        exact occursBefore_append ((same first).1 member) absent

theorem pairwise_firstOccurrences (items : List String) :
    (firstOccurrences items).Pairwise (OccursBefore items) :=
  @pairwise_foldl_firstOccurrences [] [] items (by simp) List.Pairwise.nil

/-- Lists in which the same texts occur first in the same order have the same first occurrences. -/
theorem firstOccurrences_congr {items others : List String}
    (same : ∀ item, item ∈ others ↔ item ∈ items)
    (order : ∀ left ∈ items, ∀ right ∈ items,
      OccursBefore others left right ↔ OccursBefore items left right) :
    firstOccurrences others = firstOccurrences items := by
  have sorted : (firstOccurrences others).Pairwise (OccursBefore items) := by
    refine (pairwise_firstOccurrences others).imp_of_mem ?_
    intro left right left_member right_member before
    exact (order left ((same left).1 (mem_of_mem_firstOccurrences left_member))
      right ((same right).1 (mem_of_mem_firstOccurrences right_member))).1 before
  refine sorted.eq_of_mem_iff (pairwise_firstOccurrences items) fun item => ?_
  rw [mem_firstOccurrences_iff, mem_firstOccurrences_iff, same]

/-! ## Compiled tables -/

section Compiled

variable {rules : RuleSet} (compiled : compile tables = .ok rules)

include compiled

theorem mem_alwaysIncludeFiles_iff {rel : String} :
    rel ∈ rules.alwaysIncludeFiles ↔
      ∃ entry ∈ tables.alwaysIncludeFiles, RelPath.normalize entry = rel := by
  rw [alwaysIncludeFiles_of_compile compiled, mem_firstOccurrences_iff, List.mem_map]

theorem excludeDirs_of_compile :
    rules.excludeDirs =
      firstOccurrences (tables.excludeDirs.toList.map RelPath.normalize) :=
  congrArg RuleSet.excludeDirs (eq_of_compile compiled)

theorem isAlwaysIncluded_normalize_iff (path : String) :
    rules.isAlwaysIncluded (RelPath.normalize path) = true ↔
      ∃ entry ∈ tables.alwaysIncludeFiles, RelPath.normalize entry = RelPath.normalize path := by
  rw [isAlwaysIncluded, List.contains_iff_mem, mem_alwaysIncludeFiles_iff compiled]

theorem isExcludedDir_normalize_iff (path : String) :
    rules.isExcludedDir (RelPath.normalize path) = true ↔
      ∃ entry ∈ tables.excludeDirs.toList, RelPath.normalize entry = RelPath.normalize path := by
  rw [isExcludedDir, List.contains_iff_mem, excludeDirs_of_compile compiled,
    mem_firstOccurrences_iff, List.mem_map]

end Compiled

end RuleSet

/-! ## Other spellings -/

/-- Tables that differ at most in how their paths are spelled: the directories have the same normal
forms, and so have the files, which first occur in the same order. -/
structure RuleTables.Respelled (tables other : RuleTables) : Prop where
  rest : other = { tables with
    excludeDirs := other.excludeDirs, alwaysIncludeFiles := other.alwaysIncludeFiles }
  dirs : ∀ rel, rel ∈ other.excludeDirs.toList.map RelPath.normalize ↔
    rel ∈ tables.excludeDirs.toList.map RelPath.normalize
  files : ∀ rel, rel ∈ other.alwaysIncludeFiles.map RelPath.normalize ↔
    rel ∈ tables.alwaysIncludeFiles.map RelPath.normalize
  order : ∀ left ∈ tables.alwaysIncludeFiles.map RelPath.normalize,
    ∀ right ∈ tables.alwaysIncludeFiles.map RelPath.normalize,
      RuleSet.OccursBefore (other.alwaysIncludeFiles.map RelPath.normalize) left right ↔
        RuleSet.OccursBefore (tables.alwaysIncludeFiles.map RelPath.normalize) left right

namespace RuleSet

/-- Rules that differ at most in the order in which they list excluded directories. -/
structure Interchangeable (rules other : RuleSet) : Prop where
  rest : other = { rules with excludeDirs := other.excludeDirs }
  dirs : other.excludeDirs.Perm rules.excludeDirs

variable {tables other : RuleTables} {rules : RuleSet}

theorem patterns_of_respelled (respelled : tables.Respelled other) :
    other.patterns = tables.patterns := by
  rw [respelled.rest]
  rfl

theorem compile_eq_error_iff_respelled (respelled : tables.Respelled other)
    {problem : BadPattern} : compile other = .error problem ↔ compile tables = .error problem := by
  rw [compile_eq_error_iff_mapM, patterns_of_respelled respelled, ← compile_eq_error_iff_mapM]

/-- Other spellings of the paths compile to rules that cannot be told apart. -/
theorem exists_interchangeable (respelled : tables.Respelled other)
    (compiled : compile tables = .ok rules) :
    ∃ other_rules, compile other = .ok other_rules ∧ rules.Interchangeable other_rules := by
  have same_files : firstOccurrences (other.alwaysIncludeFiles.map RelPath.normalize) =
      rules.alwaysIncludeFiles := by
    rw [alwaysIncludeFiles_of_compile compiled]
    exact firstOccurrences_congr respelled.files respelled.order
  have same_dirs : (firstOccurrences (other.excludeDirs.toList.map RelPath.normalize)).Perm
      rules.excludeDirs := by
    rw [excludeDirs_of_compile compiled,
      List.perm_ext_iff_of_nodup (nodup_firstOccurrences _) (nodup_firstOccurrences _)]
    intro rel
    rw [mem_firstOccurrences_iff, mem_firstOccurrences_iff]
    exact respelled.dirs rel
  obtain ⟨included, excluded⟩ := patterns_of_compile compiled
  have whole := eq_of_compile compiled
  obtain ⟨dirs, files, rfl⟩ : ∃ dirs files, other =
      { tables with excludeDirs := dirs, alwaysIncludeFiles := files } :=
    ⟨_, _, respelled.rest⟩
  refine ⟨{ rules with
    excludeDirs := firstOccurrences (dirs.toList.map RelPath.normalize) }, ?_, rfl, same_dirs⟩
  rw [compile, included, excluded, ← same_files, whole]
  rfl

end RuleSet
end TreeBundle
