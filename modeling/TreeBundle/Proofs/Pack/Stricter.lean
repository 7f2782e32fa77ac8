import Mathlib.Data.List.Flatten
import TreeBundle.Proofs.Pack.Roots
import TreeBundle.Proofs.Rules.Stricter

/-!
# Runs by stricter rules

By stricter rules the walk goes on to fewer directories and writes fewer files, in the same order. A
file that only the walk by the looser rules writes may be written by the stricter ones after their
walk, if it is always included; it is then one of the files that the looser run writes.
-/
namespace TreeBundle.PackJob
set_option autoImplicit false

variable {σ δ : Type}

/-- The same job by other rules. -/
def ruledBy (job : PackJob σ δ) (rules : RuleSet) : PackJob σ δ :=
  { job with rules }

variable {job : PackJob σ δ} {files : FileSystem} {strict : RuleSet}

section Walks

variable (stricter : strict.Stricter job.rules)

include stricter

/-- In each directory fewer files are written. -/
theorem chosenIn_sublist (listing : Listing) :
    ((job.ruledBy strict).chosenIn files listing).Sublist (job.chosenIn files listing) := by
  obtain ⟨processes, -⟩ := stricter.prune listing.rel listing.subdirs
  rw [chosenIn, chosenIn]
  split
  · next processed =>
    rw [if_pos (processes processed)]
    refine List.monotone_filter_right _ fun name written => ?_
    simp only [writes, Bool.and_eq_true] at written ⊢
    obtain ⟨⟨not_skipped, admitted⟩, is_file⟩ := written
    exact ⟨⟨not_skipped, stricter.admits_le admitted⟩, is_file⟩
  · exact List.nil_sublist _

theorem entered_sublist (listing : Listing) :
    ((job.ruledBy strict).entered listing).Sublist (job.entered listing) :=
  (stricter.prune listing.rel listing.subdirs).2.filter _

/-- Going equally deep, a walk writes fewer files by stricter rules. -/
theorem walked_sublist (depth : Nat) (rel : String) :
    ((job.ruledBy strict).walked files depth rel).Sublist (job.walked files depth rel) := by
  induction depth generalizing rel with
  | zero => exact List.Sublist.refl _
  | succ depth ih =>
    rw [walked, walked]
    refine ((chosenIn_sublist stricter _).map _).append ?_
    exact (List.Sublist.flatMap_right _ fun name _ => ih (RelPath.join rel name)).trans
      ((entered_sublist stricter _).flatMap _)

variable (proper : files.Proper) (no_backslash : files.NoBackslash)

include proper no_backslash

/-- So do the walks of runs. -/
theorem firstPass_sublist :
    ((job.ruledBy strict).firstPass files).Sublist (job.firstPass files) := by
  rw [firstPass_of_ends (endsWithin_root (job.ruledBy strict) proper no_backslash),
    firstPass_of_ends (endsWithin_root job proper no_backslash)]
  exact walked_sublist stricter _ _

/-- What a run writes in either pass, it writes in some pass by looser rules. -/
theorem passes_subset :
    (job.ruledBy strict).firstPass files ++ (job.ruledBy strict).secondPass files ⊆
      job.firstPass files ++ job.secondPass files := by
  intro rel member
  rcases List.mem_append.1 member with member | member
  · exact List.mem_append_left _ ((firstPass_sublist stricter proper no_backslash).subset member)
  · -- The looser walk may have come to the file before; if not, it is added by the looser rules too.
    obtain ⟨inside, added⟩ := List.mem_filter.1 member
    by_cases walked : rel ∈ job.firstPass files
    · exact List.mem_append_left _ walked
    · refine List.mem_append_right _ (List.mem_filter.2
        ⟨stricter.alwaysIncludeFiles inside, ?_⟩)
      simp only [adds, Bool.and_eq_true] at added ⊢
      obtain ⟨⟨-, not_skipped⟩, is_file⟩ := added
      refine ⟨⟨?_, not_skipped⟩, is_file⟩
      rwa [Bool.not_eq_true', ← Bool.not_eq_true, List.contains_iff_mem]

end Walks

/-- More exclusions and fewer inclusions never add to what a run from any root writes: its blocks
are headed by fewer paths, and those that its walk writes come in the same order. -/
theorem headers_of_stricter {tables strict_tables : RuleTables} {out : σ}
    (compiled : RuleSet.compile tables = .ok job.rules)
    (strictly_compiled : RuleSet.compile strict_tables = .ok strict)
    (stricter : strict_tables.Stricter tables) (proper : files.Proper)
    (no_backslash : files.NoBackslash) (takes : job.output.TakesAll files out) (diag : δ) :
    ∃ middle state strict_middle strict_state : PackState (σ × List Bytes) δ,
      RecordedRun job files out diag files.root.size middle state ∧
      RecordedRun (job.ruledBy strict) files out diag files.root.size strict_middle
        strict_state ∧
      (Block.headers strict_middle.out.2).Sublist (Block.headers middle.out.2) ∧
      Block.headers strict_state.out.2 ⊆ Block.headers state.out.2 := by
  have rules_stricter : strict.Stricter job.rules :=
    RuleSet.stricter_of_compile strictly_compiled compiled stricter
  obtain ⟨middle, state, loosely⟩ := recordedRun_of_ends diag compiled takes
    (endsWithin_root job proper no_backslash)
  have ruled_takes : (job.ruledBy strict).output.TakesAll files out := takes
  obtain ⟨strict_middle, strict_state, strictly⟩ := recordedRun_of_ends diag strictly_compiled
    ruled_takes (endsWithin_root (job.ruledBy strict) proper no_backslash)
  obtain ⟨loose_walk, -, loose_run⟩ := loosely.headers_passes compiled
  obtain ⟨strict_walk, -, strict_run⟩ := strictly.headers_passes strictly_compiled
  refine ⟨middle, state, strict_middle, strict_state, loosely, strictly, ?_, ?_⟩
  · rw [loose_walk, strict_walk]
    exact (firstPass_sublist rules_stricter proper no_backslash).map _
  · rw [loose_run, strict_run]
    exact List.map_subset _ (passes_subset rules_stricter proper no_backslash)

/-- Tables that exclude own sources too, but for one file. -/
def onlyAlways : RuleTables :=
  { RuleSet.ownSources with
    excludeDirs := .ofList ["src", "vendor"]
    alwaysIncludeFiles := ["src/x.c"] }

/-- Packs own sources and vendored ones that are always included. -/
def withVendored : PackJob Memory Unit :=
  { ownSources with
    rules := { RuleSet.forOwnSources with alwaysIncludeFiles := ["src/x.c", "vendor/x.c"] } }

theorem stricter_onlyAlways :
    onlyAlways.Stricter
      { RuleSet.ownSources with alwaysIncludeFiles := ["src/x.c", "vendor/x.c"] } := by
  constructor <;> decide

theorem headers_of_stricter_onlyAlways :
    ∃ (strict : RuleSet) (middle state strict_middle strict_state :
        PackState (Memory × List Bytes) Unit),
      RuleSet.compile onlyAlways = .ok strict ∧
      RecordedRun withVendored .vendored (.ofLimit none) () FileSystem.vendored.root.size middle
        state ∧
      RecordedRun (withVendored.ruledBy strict) .vendored (.ofLimit none) ()
        FileSystem.vendored.root.size strict_middle strict_state ∧
      Block.headers middle.out.2 = ["src/x.c"].map Utf8.ofString ∧
      Block.headers strict_middle.out.2 = [] ∧
      Block.headers strict_state.out.2 = ["src/x.c"].map Utf8.ofString ∧
      (Block.headers strict_middle.out.2).Sublist (Block.headers middle.out.2) ∧
      Block.headers strict_state.out.2 ⊆ Block.headers state.out.2 := by
  have strictly_compiled : RuleSet.compile onlyAlways = .ok
      { RuleSet.forOwnSources with
        excludeDirs := ["src", "vendor"]
        alwaysIncludeFiles := ["src/x.c"] } := rfl
  have compiled : RuleSet.compile
      { RuleSet.ownSources with alwaysIncludeFiles := ["src/x.c", "vendor/x.c"] } =
        .ok withVendored.rules := rfl
  obtain ⟨middle, state, strict_middle, strict_state, loosely, strictly, fewer, subset⟩ :=
    headers_of_stricter compiled strictly_compiled stricter_onlyAlways FileSystem.proper_vendored
      FileSystem.noBackslash_vendored (Memory.takesAll_output _) ()
  have ends (job : PackJob Memory Unit) := firstPass_of_ends
    (endsWithin_root job FileSystem.proper_vendored FileSystem.noBackslash_vendored)
  refine ⟨_, middle, state, strict_middle, strict_state, strictly_compiled, loosely, strictly, ?_,
    ?_, ?_, fewer, subset⟩
  · rw [(loosely.headers_passes compiled).1, ends]
    decide +kernel
  · rw [(strictly.headers_passes strictly_compiled).1, ends]
    decide +kernel
  · rw [(strictly.headers_passes strictly_compiled).2.2, secondPass, ends]
    decide +kernel

end TreeBundle.PackJob
