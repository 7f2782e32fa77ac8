import TreeBundle.Proofs.Decide.Prune
import TreeBundle.Proofs.Rules.RuleSet

/-!
# Asking for a cut directory and going down to it

Whether a file is cut off can be asked for its path alone, or found out on the way down to it, where
each directory is pruned before the next one is entered. Both give the same directory, the outermost
excluded one, whatever else is listed on the way.
-/
namespace TreeBundle.RuleSet
open RelPath (Component IsNormal ofParts dirsAbove)
set_option autoImplicit false

variable {rules : RuleSet} {front names : List Component} {listing : String → List String}

/-- What is found is the outermost excluded directory on the way. -/
theorem firstExcluded_eq_some_iff {dir : String} (normal : IsNormal (front ++ names)) :
    rules.firstExcluded (ofParts front) (names.map String.ofList) = some dir ↔
      ∃ more, more <+: names ∧ rules.IsOutermost front more ∧ dir = ofParts (front ++ more) := by
  rcases rules.firstExcluded_cases normal with ⟨none, passed⟩ | ⟨more, before, outermost, found⟩
  · rw [none]
    refine ⟨fun absurd_some => (nomatch absurd_some), fun ⟨more, before, outermost, _⟩ => ?_⟩
    have not_excluded := passed more before
    rw [outermost.excluded] at not_excluded
    cases not_excluded
  · rw [found]
    constructor
    · intro same
      exact ⟨more, before, outermost, (Option.some.inj same).symm⟩
    · rintro ⟨other, other_before, other_outermost, rfl⟩
      rw [outermost.unique other_outermost before other_before]

/-! ## The descent -/

/-- Where the descent to a file is cut, if it is, by the names that lead to its directory. Each
directory is pruned with the subdirectories that are listed for it. -/
def cutOnDescent (rules : RuleSet) (listing : String → List String) (dir : String) :
    List String → Option String
  | [] => if (rules.prune dir (listing dir)).processCurrent then none else some dir
  | name :: rest =>
    let pruning := rules.prune dir (listing dir)
    if !pruning.processCurrent then some dir
    else if name ∈ pruning.kept then
      rules.cutOnDescent listing (RelPath.join dir name) rest
    else some (RelPath.join dir name)

theorem cutOnDescent_of_excluded {dir : String} (fixed : RelPath.normalize dir = dir)
    (excluded : rules.isExcludedDir dir = true) (names : List String) :
    rules.cutOnDescent listing dir names = some dir := by
  cases names <;> simp [cutOnDescent, processCurrent_prune, fixed, excluded]

/-- In a directory that is passed the descent goes on, and is cut at the next one if that is
excluded: whether it is found out before it is entered or after makes no difference. -/
theorem cutOnDescent_cons {dir name : String} {rest : List String}
    (fixed : RelPath.normalize dir = dir) (passed : rules.isExcludedDir dir = false)
    (listed : name ∈ listing dir) :
    rules.cutOnDescent listing dir (name :: rest) =
      rules.cutOnDescent listing (RelPath.join dir name) rest := by
  have kept_iff : name ∈ (rules.prune dir (listing dir)).kept ↔
      rules.isExcludedDir (RelPath.join dir name) = false := by
    rw [mem_kept_prune, fixed]
    exact ⟨fun kept => kept.2.2, fun next_passed => ⟨passed, listed, next_passed⟩⟩
  rw [cutOnDescent, processCurrent_prune, fixed, passed]
  simp only [Bool.not_false, Bool.not_true, Bool.false_eq_true, if_false, kept_iff]
  cases next_excluded : rules.isExcludedDir (RelPath.join dir name) with
  | true =>
    have next_fixed : RelPath.normalize (RelPath.join dir name) = RelPath.join dir name :=
      RelPath.normalize_normalize _
    rw [cutOnDescent_of_excluded next_fixed next_excluded]
    rfl
  | false => rfl

/-- The descent is cut where the ancestor query says, whatever else is listed. -/
theorem cutOnDescent_eq_firstExcluded (normal : IsNormal (front ++ names))
    (listed : ∀ more name, more ++ [name] <+: names →
      String.ofList name ∈ listing (ofParts (front ++ more))) :
    rules.cutOnDescent listing (ofParts front) (names.map String.ofList) =
      rules.firstExcluded (ofParts front) (names.map String.ofList) := by
  induction names generalizing front with
  | nil =>
    have fixed := RelPath.normalize_ofParts (RelPath.isNormal_of_append normal)
    rw [List.map_nil, cutOnDescent, firstExcluded, processCurrent_prune, fixed]
    cases rules.isExcludedDir (ofParts front) <;> rfl
  | cons name names ih =>
    have fixed := RelPath.normalize_ofParts (RelPath.isNormal_of_append normal)
    cases excluded : rules.isExcludedDir (ofParts front) with
    | true =>
      rw [cutOnDescent_of_excluded fixed excluded, firstExcluded_of_excluded excluded]
    | false =>
      have normal_next : IsNormal ((front ++ [name]) ++ names) := by simpa using normal
      have joined := RelPath.join_ofParts_of_normal (RelPath.isNormal_of_append normal_next)
      have name_listed : String.ofList name ∈ listing (ofParts front) := by
        simpa using listed [] name (by simp)
      have rest_listed : ∀ more other, more ++ [other] <+: names →
          String.ofList other ∈ listing (ofParts ((front ++ [name]) ++ more)) := by
        intro more other before
        rw [List.append_assoc]
        exact listed (name :: more) other (List.cons_prefix_cons.2 ⟨rfl, before⟩)
      rw [firstExcluded_cons normal excluded, List.map_cons,
        cutOnDescent_cons fixed excluded name_listed, joined]
      exact ih normal_next rest_listed

/-- Every directory on the way is passed exactly if each of them keeps the next one and the last one
is processed. -/
theorem forall_kept_iff {dirs : List Component} (normal : IsNormal dirs)
    (listed : ∀ before name, before ++ [name] <+: dirs →
      String.ofList name ∈ listing (ofParts before)) :
    ((∀ before name, before ++ [name] <+: dirs →
        String.ofList name ∈ (rules.prune (ofParts before) (listing (ofParts before))).kept) ∧
      (rules.prune (ofParts dirs) (listing (ofParts dirs))).processCurrent = true) ↔
    ∀ before, before <+: dirs → rules.isExcludedDir (ofParts before) = false := by
  have normal_before : ∀ before, before <+: dirs → IsNormal before := by
    rintro before ⟨rest, rfl⟩
    exact RelPath.isNormal_of_append normal
  rw [processCurrent_prune, RelPath.normalize_ofParts normal]
  constructor
  · rintro ⟨kept, processed⟩ before ⟨rest, rfl⟩
    cases rest with
    | nil => simpa using processed
    | cons name rest =>
      have keeps := kept before name ⟨rest, by simp⟩
      rw [mem_kept_prune,
        RelPath.normalize_ofParts (normal_before before ⟨name :: rest, rfl⟩)] at keeps
      exact keeps.1
  · intro passed
    refine ⟨fun before name on_way => ?_, by simpa using passed dirs List.prefix_rfl⟩
    have before_on_way : before <+: dirs := (List.prefix_append before [name]).trans on_way
    rw [mem_kept_prune, RelPath.normalize_ofParts (normal_before before before_on_way),
      RelPath.join_ofParts_of_normal (normal_before _ on_way)]
    exact ⟨passed before before_on_way, listed before name on_way, passed _ on_way⟩

/-- The query for a file finds the shortest excluded directory on the way to it, the root among
them, and none if all are passed. Going down to the file finds the same, from any listings that hold
the names on the way: nothing is found exactly if every pruning keeps the next name and the file's
directory is processed, and what is found is where the descent is cut. The root itself is looked for
as if it lay in the root. -/
theorem prunedAncestor_agrees_with_descent (rules : RuleSet) (file : String) :
    (∀ dir, rules.prunedAncestor file = some dir ↔
      ∃ above, above <+: dirsAbove file ∧ dir = ofParts above ∧
        rules.isExcludedDir dir = true ∧
        ∀ shorter, shorter <+: above → shorter ≠ above →
          rules.isExcludedDir (ofParts shorter) = false) ∧
    (rules.prunedAncestor file = none ↔
      ∀ above, above <+: dirsAbove file → rules.isExcludedDir (ofParts above) = false) ∧
    ∀ listing : String → List String,
      (∀ above name, above ++ [name] <+: dirsAbove file →
        String.ofList name ∈ listing (ofParts above)) →
      (rules.prunedAncestor file = none ↔
        (∀ above name, above ++ [name] <+: dirsAbove file →
          String.ofList name ∈ (rules.prune (ofParts above) (listing (ofParts above))).kept) ∧
        (rules.prune (ofParts (dirsAbove file)) (listing (ofParts (dirsAbove file)))).processCurrent
          = true) ∧
      rules.cutOnDescent listing RelPath.root ((dirsAbove file).map String.ofList) =
        rules.prunedAncestor file := by
  have normal := RelPath.isNormal_dirsAbove file
  have from_root : IsNormal ([] ++ dirsAbove file) := normal
  refine ⟨fun dir => ?_, prunedAncestor_eq_none_iff_passed, fun listing listed => ⟨?_, ?_⟩⟩
  · rw [prunedAncestor_eq, firstExcluded_eq_some_iff from_root]
    constructor
    · rintro ⟨above, on_way, ⟨excluded, passed⟩, rfl⟩
      exact ⟨above, on_way, rfl, excluded, passed⟩
    · rintro ⟨above, on_way, rfl, excluded, passed⟩
      exact ⟨above, on_way, ⟨excluded, passed⟩, rfl⟩
  · rw [prunedAncestor_eq_none_iff_passed, forall_kept_iff normal listed]
  · rw [prunedAncestor_eq]
    exact cutOnDescent_eq_firstExcluded from_root listed

/-- On the way to a vendored file the descent is cut at its second directory. -/
theorem prunedAncestor_agrees_with_descent_vendored :
    forOwnSources.prunedAncestor "vendor/deep/x.c" = some "vendor" ∧
    forOwnSources.cutOnDescent (fun _ => ["deep", "src", "vendor"]) RelPath.root
      ["vendor", "deep"] = some "vendor" := by
  have agrees := prunedAncestor_agrees_with_descent forOwnSources "vendor/deep/x.c"
  have dirs : dirsAbove "vendor/deep/x.c" = ["vendor".toList, "deep".toList] := by decide
  rw [dirs] at agrees
  have found : forOwnSources.prunedAncestor "vendor/deep/x.c" = some "vendor" := by
    refine (agrees.1 "vendor").2
      ⟨["vendor".toList], ⟨["deep".toList], rfl⟩, by decide, by decide, ?_⟩
    intro shorter before apart
    rcases List.prefix_cons_iff.1 before with rfl | ⟨rest, rfl, none⟩
    · decide
    · exact absurd (by rw [List.prefix_nil.1 none]) apart
  refine ⟨found, ?_⟩
  rw [← found]
  refine (agrees.2.2 _ fun above name on_way => ?_).2
  have member : name ∈ ["vendor".toList, "deep".toList] :=
    on_way.subset (List.mem_append_right above List.mem_cons_self)
  simp only [List.mem_cons, List.not_mem_nil, or_false] at member
  rcases member with rfl | rfl
  · decide
  · decide

end TreeBundle.RuleSet
