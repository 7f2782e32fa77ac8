import TreeBundle.Decide.Prune
import TreeBundle.Proofs.FileSystem.Trail

/-!
# What pruning keeps

A directory that is excluded is cut with all that lies in it; of any other one exactly the
subdirectories that are excluded themselves are cut. A file is cut off exactly if some directory
on the way to it is excluded.
-/
namespace TreeBundle.RuleSet
open RelPath (Component IsNormal ofParts dirsAbove)
set_option autoImplicit false

variable {rules : RuleSet} {rel : String} {subdirs : List String} {front names : List Component}

theorem processCurrent_prune :
    (rules.prune rel subdirs).processCurrent =
      !rules.isExcludedDir (RelPath.normalize rel) := by
  rw [prune]
  cases excluded : rules.isExcludedDir (RelPath.normalize rel) <;> rfl

theorem mem_kept_prune {name : String} :
    name ∈ (rules.prune rel subdirs).kept ↔
      rules.isExcludedDir (RelPath.normalize rel) = false ∧ name ∈ subdirs ∧
        rules.isExcludedDir (RelPath.join (RelPath.normalize rel) name) = false := by
  rw [prune]
  cases excluded : rules.isExcludedDir (RelPath.normalize rel) <;> simp [keepsChild]

theorem kept_prune_sublist : (rules.prune rel subdirs).kept.Sublist subdirs := by
  rw [prune]
  cases excluded : rules.isExcludedDir (RelPath.normalize rel)
  · exact List.filter_sublist
  · exact List.nil_sublist _

/-- An excluded directory is cut as a whole. -/
theorem prune_of_excluded (excluded : rules.isExcludedDir (RelPath.normalize rel) = true) :
    rules.prune rel subdirs = ⟨false, [], [RelPath.normalize rel]⟩ :=
  if_pos excluded

theorem length_cut_prune (not_excluded : rules.isExcludedDir (RelPath.normalize rel) = false) :
    (rules.prune rel subdirs).cut.length =
      (subdirs.filter fun name =>
        rules.isExcludedDir (RelPath.join (RelPath.normalize rel) name)).length := by
  rw [prune, not_excluded]
  simp [keepsChild]

/-! ## The first excluded directory on a way -/

theorem firstExcluded_of_excluded {dir : String} (excluded : rules.isExcludedDir dir = true)
    (names : List String) : rules.firstExcluded dir names = some dir := by
  cases names <;> simp [firstExcluded, excluded]

theorem firstExcluded_cons {name : Component} (normal : IsNormal (front ++ name :: names))
    (passed : rules.isExcludedDir (ofParts front) = false) :
    rules.firstExcluded (ofParts front) ((name :: names).map String.ofList) =
      rules.firstExcluded (ofParts (front ++ [name])) (names.map String.ofList) := by
  have normal_next : IsNormal ((front ++ [name]) ++ names) := by simpa using normal
  rw [List.map_cons, firstExcluded, if_neg (by simp [passed]),
    RelPath.join_ofParts_of_normal (RelPath.isNormal_of_append normal_next)]

/-- Components that lead to an excluded directory, and through none that is excluded before it. -/
structure IsOutermost (rules : RuleSet) (front more : List Component) : Prop where
  excluded : rules.isExcludedDir (ofParts (front ++ more)) = true
  passed : ∀ shorter, shorter <+: more → shorter ≠ more →
    rules.isExcludedDir (ofParts (front ++ shorter)) = false

/-- Where the way begins at an excluded directory, that one is found. -/
theorem exists_outermost_of_excluded (excluded : rules.isExcludedDir (ofParts front) = true)
    (names : List Component) :
    ∃ more, more <+: names ∧ rules.IsOutermost front more ∧
      rules.firstExcluded (ofParts front) (names.map String.ofList) =
        some (ofParts (front ++ more)) := by
  refine ⟨[], List.nil_prefix, ⟨by simpa using excluded, fun shorter before differs => ?_⟩, ?_⟩
  · exact absurd (List.prefix_nil.1 before) differs
  · rw [List.append_nil, firstExcluded_of_excluded excluded]

theorem IsOutermost.cons {name : Component} {more : List Component}
    (passed : rules.isExcludedDir (ofParts front) = false)
    (outermost : rules.IsOutermost (front ++ [name]) more) :
    rules.IsOutermost front (name :: more) := by
  obtain ⟨excluded, others⟩ := outermost
  refine ⟨by simpa using excluded, fun shorter before differs => ?_⟩
  cases shorter with
  | nil => simpa using passed
  | cons first rest =>
    obtain ⟨rfl, rest_before⟩ := List.cons_prefix_cons.1 before
    have rest_passed := others rest rest_before fun same => differs (by rw [same])
    simpa using rest_passed

/-- Of the directories on one way at most one is the outermost. -/
theorem IsOutermost.unique {more other : List Component} (outermost : rules.IsOutermost front more)
    (other_outermost : rules.IsOutermost front other) (on_way : more <+: names)
    (other_on_way : other <+: names) : more = other := by
  refine Classical.byContradiction fun differs => ?_
  rcases List.prefix_or_prefix_of_prefix on_way other_on_way with shorter | shorter
  · have passed := other_outermost.passed more shorter differs
    rw [outermost.excluded] at passed
    cases passed
  · have passed := outermost.passed other shorter fun same => differs same.symm
    rw [other_outermost.excluded] at passed
    cases passed

/-- Either every directory on the way is passed, or the outermost excluded one is found. -/
theorem firstExcluded_cases (normal : IsNormal (front ++ names)) :
    (rules.firstExcluded (ofParts front) (names.map String.ofList) = none ∧
      ∀ more, more <+: names → rules.isExcludedDir (ofParts (front ++ more)) = false) ∨
    ∃ more, more <+: names ∧ rules.IsOutermost front more ∧
      rules.firstExcluded (ofParts front) (names.map String.ofList) =
        some (ofParts (front ++ more)) := by
  induction names generalizing front with
  | nil =>
    cases excluded : rules.isExcludedDir (ofParts front) with
    | true => exact .inr (exists_outermost_of_excluded excluded _)
    | false =>
      refine .inl ⟨by simp [firstExcluded, excluded], fun more before => ?_⟩
      rwa [List.prefix_nil.1 before, List.append_nil]
  | cons name names ih =>
    cases excluded : rules.isExcludedDir (ofParts front) with
    | true => exact .inr (exists_outermost_of_excluded excluded _)
    | false =>
      have normal_next : IsNormal ((front ++ [name]) ++ names) := by simpa using normal
      rw [firstExcluded_cons normal excluded]
      rcases ih normal_next with ⟨none, passed⟩ | ⟨more, before, outermost, found⟩
      · refine .inl ⟨none, fun more before => ?_⟩
        cases more with
        | nil => rwa [List.append_nil]
        | cons first rest =>
          obtain ⟨rfl, rest_before⟩ := List.cons_prefix_cons.1 before
          simpa using passed rest rest_before
      · have on_way : name :: more <+: name :: names := List.cons_prefix_cons.2 ⟨rfl, before⟩
        refine .inr ⟨name :: more, on_way, outermost.cons excluded, ?_⟩
        simpa using found

theorem firstExcluded_eq_none_iff (normal : IsNormal (front ++ names)) :
    rules.firstExcluded (ofParts front) (names.map String.ofList) = none ↔
      ∀ more, more <+: names → rules.isExcludedDir (ofParts (front ++ more)) = false := by
  rcases rules.firstExcluded_cases normal with ⟨none, passed⟩ | ⟨more, before, outermost, found⟩
  · exact ⟨fun _ => passed, fun _ => none⟩
  · rw [found]
    refine ⟨fun absurd_none => (nomatch absurd_none), fun passed => ?_⟩
    have not_excluded := passed more before
    rw [outermost.excluded] at not_excluded
    cases not_excluded

/-! ## The way to a file -/

theorem prunedAncestor_eq (rules : RuleSet) (file : String) :
    rules.prunedAncestor file =
      rules.firstExcluded (ofParts []) ((dirsAbove file).map String.ofList) := by
  rw [prunedAncestor, RelPath.dropLast_pieces_normalize]
  rfl

/-- A file is cut off exactly if some directory on the way to it, the root included, is excluded. -/
theorem prunedAncestor_eq_none_iff_passed {file : String} :
    rules.prunedAncestor file = none ↔
      ∀ above, above <+: dirsAbove file → rules.isExcludedDir (ofParts above) = false := by
  have from_root : IsNormal ([] ++ dirsAbove file) := RelPath.isNormal_dirsAbove file
  rw [prunedAncestor_eq, firstExcluded_eq_none_iff from_root]
  rfl

/-- For a file with proper names these are the directories of its trail. -/
theorem prunedAncestor_eq_none_iff {dirs : Trail} {name : String}
    (proper : ∀ other ∈ dirs ++ [name], IsFileName other) :
    rules.prunedAncestor (dirs ++ [name]).rel = none ↔
      ∀ front back, dirs ++ [name] = front ++ back → back ≠ [] →
        rules.isExcludedDir (Trail.rel front) = false := by
  have above_name : dirsAbove (Trail.rel (dirs ++ [name])) = dirs.parts := by
    rw [dirsAbove, Trail.parts_rel proper, Trail.parts_append]
    exact List.dropLast_concat
  rw [prunedAncestor_eq_none_iff_passed, above_name]
  constructor
  · intro passed front back split nonempty
    obtain ⟨more, rfl⟩ := Trail.exists_front_of_concat split nonempty
    refine passed front.parts ?_
    rw [Trail.parts_append]
    exact List.prefix_append _ _
  · rintro passed above ⟨rest, split⟩
    obtain ⟨front, back, rfl, rfl, -⟩ := List.map_eq_append_iff.1 split.symm
    exact passed front (back ++ [name]) (List.append_assoc front back [name]) (by simp)

end TreeBundle.RuleSet
