import TreeBundle.Proofs.Path.NormalForm
import TreeBundle.Rules.RuleSet

/-!
# What compiled rules hold

The files that are always included are in normal form and occur once each.
-/
namespace TreeBundle.RuleSet
set_option autoImplicit false

theorem nodup_foldl_firstOccurrences {items kept : List String} (unique : kept.Nodup) :
    (items.foldl (fun kept item => if kept.contains item then kept else kept ++ [item])
      kept).Nodup := by
  induction items generalizing kept with
  | nil => exact unique
  | cons item items ih =>
    rw [List.foldl_cons]
    split
    · exact ih unique
    · next absent =>
      rw [List.contains_iff_mem] at absent
      refine ih (List.nodup_append.2 ⟨unique, List.pairwise_singleton _ item, ?_⟩)
      intro other member last last_member same
      rw [List.mem_singleton.1 last_member] at same
      exact absent (same ▸ member)

theorem nodup_firstOccurrences (items : List String) : (firstOccurrences items).Nodup :=
  nodup_foldl_firstOccurrences List.nodup_nil

theorem mem_foldl_firstOccurrences {items kept : List String} {item : String}
    (member : item ∈ items.foldl (fun kept item => if kept.contains item then kept
      else kept ++ [item]) kept) : item ∈ kept ∨ item ∈ items := by
  induction items generalizing kept with
  | nil => exact Or.inl member
  | cons first items ih =>
    rw [List.foldl_cons] at member
    rcases ih member with inside | inside
    · split at inside
      · exact Or.inl inside
      · rcases List.mem_append.1 inside with inside | inside
        · exact Or.inl inside
        · exact Or.inr (List.mem_singleton.1 inside ▸ List.mem_cons_self)
    · exact Or.inr (List.mem_cons_of_mem _ inside)

theorem mem_of_mem_firstOccurrences {items : List String} {item : String}
    (member : item ∈ firstOccurrences items) : item ∈ items :=
  (mem_foldl_firstOccurrences member).resolve_left List.not_mem_nil

theorem mem_foldl_firstOccurrences_of_mem {items kept : List String} {item : String}
    (member : item ∈ kept ∨ item ∈ items) :
    item ∈ items.foldl (fun kept item => if kept.contains item then kept else kept ++ [item])
      kept := by
  induction items generalizing kept with
  | nil => exact member.resolve_right List.not_mem_nil
  | cons first items ih =>
    rw [List.foldl_cons]
    refine ih ?_
    rcases member with inside | inside
    · left
      split
      · exact inside
      · exact List.mem_append_left _ inside
    · rcases List.mem_cons.1 inside with rfl | inside
      · left
        split
        · next present => exact List.contains_iff_mem.1 present
        · exact List.mem_append_right _ (List.mem_singleton_self _)
      · exact Or.inr inside

theorem mem_firstOccurrences_iff {items : List String} {item : String} :
    item ∈ firstOccurrences items ↔ item ∈ items :=
  ⟨mem_of_mem_firstOccurrences, fun member => mem_foldl_firstOccurrences_of_mem (Or.inr member)⟩

variable {tables : RuleTables} {rules : RuleSet}

/-- What tables compile to, but for the programs of their patterns. -/
theorem eq_of_compile (compiled : compile tables = .ok rules) :
    rules = {
      includeExtensions := tables.includeExtensions.toList.map normalizeExtension
      excludeExtensions := tables.excludeExtensions.toList.map normalizeExtension
      includeFilenames := tables.includeFilenames.toList
      excludeFilenames := tables.excludeFilenames.toList
      includePatterns := rules.includePatterns
      excludePatterns := rules.excludePatterns
      includeShebang := tables.includeShebang
      excludeDirs := firstOccurrences (tables.excludeDirs.toList.map RelPath.normalize)
      alwaysIncludeFiles :=
        firstOccurrences (tables.alwaysIncludeFiles.map RelPath.normalize) } := by
  simp only [compile, bind, Except.bind] at compiled
  split at compiled
  · cases compiled
  split at compiled
  · cases compiled
  · cases compiled
    rfl

theorem alwaysIncludeFiles_of_compile (compiled : compile tables = .ok rules) :
    rules.alwaysIncludeFiles =
      firstOccurrences (tables.alwaysIncludeFiles.map RelPath.normalize) :=
  congrArg RuleSet.alwaysIncludeFiles (eq_of_compile compiled)

theorem nodup_alwaysIncludeFiles (compiled : compile tables = .ok rules) :
    rules.alwaysIncludeFiles.Nodup := by
  rw [alwaysIncludeFiles_of_compile compiled]
  exact nodup_firstOccurrences _

theorem normalize_alwaysIncludeFiles (compiled : compile tables = .ok rules) :
    ∀ rel ∈ rules.alwaysIncludeFiles, RelPath.normalize rel = rel := by
  intro rel member
  rw [alwaysIncludeFiles_of_compile compiled] at member
  obtain ⟨path, -, rfl⟩ := List.mem_map.1 (mem_of_mem_firstOccurrences member)
  exact RelPath.normalize_normalize path

/-- Tables that admit C files outside of a directory of vendored ones. -/
def ownSources : RuleTables where
  includeExtensions := .ofList [".c"]
  excludeExtensions := .empty
  includeFilenames := .empty
  excludeFilenames := .empty
  includeRegexes := []
  excludeRegexes := []
  includeShebang := false
  excludeDirs := .ofList ["vendor"]
  alwaysIncludeFiles := []

/-- The rules that `ownSources` compile to. -/
def forOwnSources : RuleSet where
  includeExtensions := [".c"]
  excludeExtensions := []
  includeFilenames := []
  excludeFilenames := []
  includePatterns := []
  excludePatterns := []
  includeShebang := false
  excludeDirs := ["vendor"]
  alwaysIncludeFiles := []

theorem compile_ownSources : compile ownSources = .ok forOwnSources :=
  rfl

end TreeBundle.RuleSet
