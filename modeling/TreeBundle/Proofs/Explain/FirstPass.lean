import TreeBundle.Explain
import TreeBundle.Proofs.Pack.Record

/-!
# Explanations and the passes of a run

An explanation computes from a path what the walk comes to from the root down. The two agree on
every path at which the tree itself holds something; a path that only leads somewhere through
links, or by `..`, is never walked to.
-/
namespace TreeBundle
set_option autoImplicit false

/-- Whether the tree holds something at a relative path, with no link on the way to it. -/
def HoldsAt (top : Node) (rel : String) : Prop :=
  (top.at? ((RelPath.parts rel).map Utf8.encode)).isSome = true

theorem normalize_relativeForm (root path : NativePath) :
    RelPath.normalize (relativeForm root path) = relativeForm root path := by
  rw [relativeForm]
  split
  · exact RelPath.normalize_normalize _
  · exact RelPath.normalize_normalize _

theorem prunedBy_explain (rules : RuleSet) (files : FileSystem) (root path : NativePath) :
    (explain rules files root path).1.prunedBy =
      rules.prunedAncestor (relativeForm root path) := by
  simp only [explain]

theorem decision_explain (rules : RuleSet) (files : FileSystem) (root path : NativePath) :
    (explain rules files root path).1.decision =
      rules.decide files (RelPath.splitLast (relativeForm root path)).2
        (root.join (.ofRelative (RelPath.splitLast (relativeForm root path)).1)) := by
  simp only [explain]

namespace PackJob

variable {σ δ : Type} {job : PackJob σ δ} {files : FileSystem} {tables : RuleTables}
  {place : Place} {links : Nat} {entries : NodeEntries}

/-- What the tree holds at a path in normal form, it holds at a trail. -/
theorem exists_trail_of_holdsAt {rel : String}
    (rooted : files.RootedAt job.root place links (.directory entries))
    (normal : RelPath.normalize rel = rel) (holds : HoldsAt (.directory entries) rel) :
    ∃ trail : Trail, trail.rel = rel ∧ ∀ name ∈ trail, IsFileName name := by
  have same_parts : Trail.parts ((RelPath.parts rel).map String.ofList) = RelPath.parts rel := by
    simp [Trail.parts]
  refine ⟨(RelPath.parts rel).map String.ofList, ?_, ?_⟩
  · rw [Trail.rel, same_parts, ← RelPath.normalize_eq, normal]
  · obtain ⟨found, held⟩ := Option.isSome_iff_exists.1 holds
    rw [← same_parts, Trail.place_eq] at held
    exact Trail.isFileName_of_at? rooted.proper rooted.no_backslash held

/-- What is selected at a trail of one name or more. -/
theorem selects_concat_iff {top : Node} {dirs : Trail} {name : String}
    (proper : ∀ other ∈ dirs ++ [name], IsFileName other) (unskipped : job.skip = none) :
    job.Selects files top [] (dirs ++ [name]) ↔
      (top.at? (dirs ++ [name]).place).isSome = true ∧
      files.isReadable (job.filePath (dirs ++ [name]).rel) = true ∧
      job.rules.prunedAncestor (dirs ++ [name]).rel = none ∧
      job.rules.admits files name (job.filePath dirs.rel) = true := by
  rw [RuleSet.prunedAncestor_eq_none_iff proper]
  constructor
  · rintro ⟨held, readable, not_excluded, ⟨front, last, split, admitted⟩, -⟩
    obtain ⟨rfl, same⟩ := List.append_inj' split rfl
    cases same
    exact ⟨held, readable, not_excluded, admitted⟩
  · rintro ⟨held, readable, not_excluded, admitted⟩
    refine ⟨held, readable, not_excluded, ⟨dirs, name, rfl, admitted⟩, ?_⟩
    rw [isSkipped, unskipped]

/-- The walk writes a path exactly if its explanation says that the rules admit it and nothing
cuts it off, and it is a file that may be opened and that the tree holds. -/
theorem mem_firstPass_iff {path : NativePath} {told : Explanation}
    (rooted : files.RootedAt job.root place links (.directory entries))
    (unskipped : job.skip = none) (explained : (explain job.rules files job.root path).1 = told) :
    told.path ∈ job.firstPass files ↔
      HoldsAt (.directory entries) told.path ∧ files.isReadable (job.filePath told.path) = true ∧
        told.prunedBy = none ∧ told.decision.verdict = .admitted := by
  have told_path : told.path = relativeForm job.root path := explained ▸ rfl
  have normal : RelPath.normalize told.path = told.path := by
    rw [told_path]
    exact normalize_relativeForm _ _
  have pruned_by : told.prunedBy = job.rules.prunedAncestor told.path := by
    rw [told_path, ← explained, prunedBy_explain]
  have decided : told.decision = job.rules.decide files (RelPath.splitLast told.path).2
      (job.filePath (RelPath.splitLast told.path).1) := by
    rw [told_path, ← explained, decision_explain, filePath]
  -- Both sides put the path down to a trail; at the empty one there is no file.
  have at_trail {trail : Trail} (same : trail.rel = told.path)
      (proper : ∀ name ∈ trail, IsFileName name)
      (readable : files.isReadable (job.filePath told.path) = true) :
      job.Selects files (.directory entries) [] trail ↔
        HoldsAt (.directory entries) told.path ∧
          told.prunedBy = none ∧ told.decision.verdict = .admitted := by
    rcases List.eq_nil_or_concat trail with rfl | ⟨dirs, name, rfl⟩
    · rw [← same, show Trail.rel [] = RelPath.root from rfl, isReadable_root] at readable
      cases readable
    · rw [List.concat_eq_append] at same proper ⊢
      rw [HoldsAt, ← same, Trail.parts_rel proper, Trail.place_eq, pruned_by, decided, ← same,
        Trail.splitLast_rel proper, selects_concat_iff proper unskipped, same, RuleSet.admits]
      simp [readable, Verdict.isAdmitted]
  rw [mem_firstPass_iff_selects rooted]
  constructor
  · rintro ⟨trail, same, selected⟩
    have readable : files.isReadable (job.filePath told.path) = true := same ▸ selected.readable
    obtain ⟨found, held⟩ := Option.isSome_iff_exists.1 selected.held
    have proper := Trail.isFileName_of_at? rooted.proper rooted.no_backslash held
    obtain ⟨holds, rest⟩ := (at_trail same proper readable).1 selected
    exact ⟨holds, readable, rest⟩
  · rintro ⟨holds, readable, rest⟩
    obtain ⟨trail, same, proper⟩ := exists_trail_of_holdsAt rooted normal holds
    exact ⟨trail, same, (at_trail same proper readable).2 ⟨holds, rest⟩⟩

theorem mem_secondPass_iff {rel : String} (unskipped : job.skip = none) :
    rel ∈ job.secondPass files ↔
      job.rules.isAlwaysIncluded rel = true ∧ rel ∉ job.firstPass files ∧
        files.isReadable (job.filePath rel) = true := by
  rw [secondPass, forced, List.mem_filter, adds, RuleSet.isAlwaysIncluded, List.contains_iff_mem,
    isSkipped, unskipped]
  simp

/-- What an explanation says about being written, put together from what else it says. -/
theorem written_iff {path : NativePath} {told : Explanation}
    (explained : (explain job.rules files job.root path).1 = told) :
    told.written = true ↔
      files.isFile (job.filePath told.path) = true ∧
        (told.prunedBy = none ∧ told.decision.verdict = .admitted ∨
          job.rules.isAlwaysIncluded told.path = true) := by
  rw [← explained]
  simp [explain, filePath, Verdict.isAdmitted]

/-- A run writes a path that is explained as written exactly if the file may be opened and the path
is always included or held by the tree. -/
theorem mem_passes_iff {path : NativePath} {told : Explanation}
    (rooted : files.RootedAt job.root place links (.directory entries))
    (unskipped : job.skip = none) (explained : (explain job.rules files job.root path).1 = told) :
    told.path ∈ job.firstPass files ++ job.secondPass files ↔
      told.written = true ∧ files.isReadable (job.filePath told.path) = true ∧
        (job.rules.isAlwaysIncluded told.path = true ∨ HoldsAt (.directory entries) told.path) := by
  rw [List.mem_append, mem_secondPass_iff unskipped, mem_firstPass_iff rooted unskipped explained,
    written_iff explained]
  by_cases readable : files.isReadable (job.filePath told.path) = true
  · have is_file := FileSystem.isFile_of_isReadable readable
    by_cases always : job.rules.isAlwaysIncluded told.path = true
    · simp only [readable, is_file, always, true_and, true_or, or_true, and_true, iff_true]
      exact Classical.em _
    · simp only [readable, is_file, always, Bool.false_eq_true, false_and, or_false, false_or,
        true_and, and_comm]
  · simp [readable]

end PackJob
end TreeBundle
