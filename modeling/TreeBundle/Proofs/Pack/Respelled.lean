import TreeBundle.Explain
import TreeBundle.Proofs.Pack.SelfInclusion
import TreeBundle.Proofs.Pack.Stricter
import TreeBundle.Proofs.Rules.Compiled
import TreeBundle.Proofs.Walk.Outcome

/-!
# Rules that cannot be told apart

Rules that exclude the same directories, in whichever order these are listed, decide, prune and
explain alike, and runs by them do the same at every step.
-/
namespace TreeBundle
set_option autoImplicit false

namespace RuleSet.Interchangeable

variable {rules other : RuleSet} (alike : rules.Interchangeable other)

include alike

theorem isExcludedDir_eq (rel : String) : other.isExcludedDir rel = rules.isExcludedDir rel := by
  rw [Bool.eq_iff_iff, isExcludedDir, isExcludedDir, List.contains_iff_mem, List.contains_iff_mem,
    alike.dirs.mem_iff]

theorem decide_eq (files : FileSystem) (name : String) (dir : NativePath) :
    other.decide files name dir = rules.decide files name dir := by
  rw [alike.rest]
  rfl

theorem keepsChild_eq (current : String) :
    other.keepsChild current = rules.keepsChild current := by
  funext name
  rw [keepsChild, keepsChild, alike.isExcludedDir_eq]

theorem prune_eq (rel : String) (subdirs : List String) :
    other.prune rel subdirs = rules.prune rel subdirs := by
  simp only [prune, alike.isExcludedDir_eq, alike.keepsChild_eq]

theorem firstExcluded_eq (dir : String) (names : List String) :
    other.firstExcluded dir names = rules.firstExcluded dir names := by
  induction names generalizing dir with
  | nil => rw [firstExcluded, firstExcluded, alike.isExcludedDir_eq]
  | cons name names ih => rw [firstExcluded, firstExcluded, alike.isExcludedDir_eq, ih]

theorem prunedAncestor_eq (rel : String) : other.prunedAncestor rel = rules.prunedAncestor rel :=
  alike.firstExcluded_eq _ _

theorem alwaysIncludeFiles_eq : other.alwaysIncludeFiles = rules.alwaysIncludeFiles := by
  rw [alike.rest]

theorem explain_eq (files : FileSystem) (root path : NativePath) :
    explain other files root path = explain rules files root path := by
  simp only [explain, isAlwaysIncluded, alike.prunedAncestor_eq, alike.decide_eq,
    alike.alwaysIncludeFiles_eq]

end RuleSet.Interchangeable

namespace PackJob

variable {σ δ : Type} {job : PackJob σ δ}

/-! ## Runs -/

theorem isSkipped_ruledBy (other : RuleSet) : (job.ruledBy other).isSkipped = job.isSkipped := rfl

theorem filePath_ruledBy (other : RuleSet) : (job.ruledBy other).filePath = job.filePath := rfl

theorem emit_ruledBy (other : RuleSet) : (job.ruledBy other).emit = job.emit := rfl

theorem output_ruledBy (other : RuleSet) : (job.ruledBy other).output = job.output := rfl

/-- The second pass asks the rules for nothing but the files to write. -/
theorem emitForced_ruledBy (other : RuleSet) (rels : List String) (state : PackState σ δ) :
    (job.ruledBy other).emitForced rels state = job.emitForced rels state := by
  induction rels generalizing state with
  | nil => rfl
  | cons rel rels ih =>
    simp only [emitForced, isSkipped_ruledBy, filePath_ruledBy, emit_ruledBy, output_ruledBy, ih]

section Runs

variable {other : RuleSet} (alike : job.rules.Interchangeable other)

include alike

theorem emitListed_ruledBy (listing : Listing) (name : String) (state : PackState σ δ) :
    (job.ruledBy other).emitListed listing name state = job.emitListed listing name state := by
  have same_decision : (job.ruledBy other).rules.decide = job.rules.decide := by
    funext files name dir
    exact alike.decide_eq files name dir
  simp only [emitListed, isSkipped_ruledBy, filePath_ruledBy, emit_ruledBy, output_ruledBy,
    same_decision]

theorem emitAdmitted_ruledBy (listing : Listing) (names : List String) (state : PackState σ δ) :
    (job.ruledBy other).emitAdmitted listing names state =
      job.emitAdmitted listing names state := by
  induction names generalizing state with
  | nil => rfl
  | cons name names ih =>
    rw [emitAdmitted, emitAdmitted, emitListed_ruledBy alike]
    generalize job.emitListed listing name state = emitted
    obtain ⟨after, stop⟩ := emitted
    cases stop with
    | none => exact ih after
    | some problem => rfl

theorem visitor_ruledBy : (job.ruledBy other).visitor = job.visitor := by
  have same_visit : (job.ruledBy other).visit = job.visit := by
    funext state listing
    have same_prune : (job.ruledBy other).rules.prune = job.rules.prune := by
      funext rel subdirs
      exact alike.prune_eq rel subdirs
    simp only [visit, same_prune, emitAdmitted_ruledBy alike]
  rw [visitor, visitor, same_visit]
  rfl

/-- At every depth, a run does the same from every state. -/
theorem runWithin_ruledBy (depth : Nat) (state : PackState σ δ) :
    (job.ruledBy other).runWithin depth state = job.runWithin depth state := by
  have same_forced : (job.ruledBy other).emitForced (job.ruledBy other).rules.alwaysIncludeFiles =
      job.emitForced job.rules.alwaysIncludeFiles := by
    funext state
    rw [emitForced_ruledBy]
    exact congrArg (job.emitForced · state) alike.alwaysIncludeFiles_eq
  rw [runWithin, runWithin, visitor_ruledBy alike, same_forced]
  rfl

theorem run_ruledBy (out : σ) (diag : δ) :
    (job.ruledBy other).run out diag = job.run out diag :=
  run_congr fun depth => runWithin_ruledBy alike depth _

end Runs

end PackJob

/-- Packing into a file does the same by either of the rules. -/
theorem packToFile_eq_of_interchangeable {δ : Type} {rules other : RuleSet}
    (alike : rules.Interchangeable other) (root output : NativePath) (diagnostics : Writer δ)
    (files : FileSystem) (diag : δ) :
    packToFile other root output diagnostics files diag =
      packToFile rules root output diagnostics files diag := by
  cases created : files.create output with
  | error problem => rw [packToFile, packToFile, created]
  | ok both =>
    obtain ⟨after, place⟩ := both
    let job := PackJob.intoFile rules root output diagnostics after
    have same : (job.ruledBy other).run (.opened after place) diag =
        job.run (.opened after place) diag := PackJob.run_ruledBy alike _ _
    rw [packToFile_of_create diag created, packToFile_of_create diag created]
    exact congrArg (ArtifactRun.ofRun after diag) same

/-! ## Tables -/

namespace RuleSet

/-- Compiling keeps the normal forms of paths, all of them and nothing else. It fails exactly if
some pattern does not compile, and names the first one, those that include before those that
exclude. The files that are always included are the normal forms of their entries, each of them
once, in the order in which they first occur; a file is always included, and a directory excluded,
exactly if an entry has its normal form. So other spellings of the entries fail alike, or compile
to rules by which paths are explained alike and trees packed alike, be it into a file. -/
theorem compile_normalizes (tables : RuleTables) :
    (∀ problem, compile tables = .error problem ↔
      ∃ front back, tables.patterns = front ++ (problem.table, problem.pattern) :: back ∧
        (∀ entry ∈ front, ∃ program, Pattern.compile entry.2 = .ok program) ∧
        Pattern.compile problem.pattern = .error problem.cause) ∧
    ((∃ problem, compile tables = .error problem) ↔
      ∃ entry ∈ tables.patterns, ∃ cause, Pattern.compile entry.2 = .error cause) ∧
    (∀ rules, compile tables = .ok rules →
      rules.alwaysIncludeFiles.Nodup ∧
      (∀ rel, rel ∈ rules.alwaysIncludeFiles ↔
        ∃ entry ∈ tables.alwaysIncludeFiles, RelPath.normalize entry = rel) ∧
      rules.alwaysIncludeFiles.Pairwise
        (OccursBefore (tables.alwaysIncludeFiles.map RelPath.normalize)) ∧
      (∀ path, rules.isAlwaysIncluded (RelPath.normalize path) = true ↔
        ∃ entry ∈ tables.alwaysIncludeFiles, RelPath.normalize entry = RelPath.normalize path) ∧
      ∀ path, rules.isExcludedDir (RelPath.normalize path) = true ↔
        ∃ entry ∈ tables.excludeDirs.toList, RelPath.normalize entry = RelPath.normalize path) ∧
    ∀ other, tables.Respelled other →
      (∀ problem, compile other = .error problem ↔ compile tables = .error problem) ∧
      ∀ rules, compile tables = .ok rules → ∃ other_rules, compile other = .ok other_rules ∧
        (∀ files root path,
          explain other_rules files root path = explain rules files root path) ∧
        (∀ (σ δ : Type) (job : PackJob σ δ) out diag,
          (job.ruledBy other_rules).run out diag = (job.ruledBy rules).run out diag) ∧
        ∀ (δ : Type) root output (diagnostics : Writer δ) files diag,
          packToFile other_rules root output diagnostics files diag =
            packToFile rules root output diagnostics files diag := by
  refine ⟨fun _ => compile_eq_error_iff, exists_error_iff, fun rules compiled => ?_,
    fun other respelled => ⟨fun _ => compile_eq_error_iff_respelled respelled, ?_⟩⟩
  · refine ⟨nodup_alwaysIncludeFiles compiled, fun _ => mem_alwaysIncludeFiles_iff compiled, ?_,
      isAlwaysIncluded_normalize_iff compiled, isExcludedDir_normalize_iff compiled⟩
    rw [alwaysIncludeFiles_of_compile compiled]
    exact pairwise_firstOccurrences _
  · intro rules compiled
    obtain ⟨other_rules, other_compiled, alike⟩ := exists_interchangeable respelled compiled
    refine ⟨other_rules, other_compiled, alike.explain_eq, ?_, ?_⟩
    · intro σ δ job out diag
      have same : ((job.ruledBy rules).ruledBy other_rules).run out diag =
          (job.ruledBy rules).run out diag := PackJob.run_ruledBy alike out diag
      exact same
    · intro δ root output diagnostics files diag
      exact packToFile_eq_of_interchangeable alike root output diagnostics files diag

/-- Tables in which spellings of one file collide. -/
def spelledTwice : RuleTables :=
  { ownSources with
    excludeDirs := .ofList ["./vendor/", "build"]
    alwaysIncludeFiles := ["vendor//x.c", "src/x.c", ".\\vendor/x.c"] }

/-- Tables in which those of one directory do. -/
def spelledOnce : RuleTables :=
  { ownSources with
    excludeDirs := .ofList ["vendor", "src/../vendor", "build\\."]
    alwaysIncludeFiles := ["vendor/x.c", "src/./x.c"] }

theorem respelled_spelledOnce : spelledTwice.Respelled spelledOnce := by
  have dirs : spelledTwice.excludeDirs.toList.map RelPath.normalize = ["vendor", "build"] := by
    decide +kernel
  have other_dirs : spelledOnce.excludeDirs.toList.map RelPath.normalize =
      ["build", "vendor", "vendor"] := by decide +kernel
  have files : spelledTwice.alwaysIncludeFiles.map RelPath.normalize =
      ["vendor/x.c", "src/x.c", "vendor/x.c"] := by decide +kernel
  have other_files : spelledOnce.alwaysIncludeFiles.map RelPath.normalize =
      ["vendor/x.c", "src/x.c"] := by decide +kernel
  refine ⟨rfl, ?_, ?_, ?_⟩
  · rw [dirs, other_dirs]
    simp [or_comm]
  · rw [files, other_files]
    simp [or_comm, or_left_comm]
  · simp only [files, other_files, OccursBefore]
    decide

theorem compile_normalizes_spelledOnce :
    compile { ownSources with excludeRegexes := ["(", ")"] } =
      .error ⟨.excludeRegexes, "(", .malformed⟩ ∧
    spelledTwice.Respelled spelledOnce ∧
    ∃ rules other_rules, compile spelledTwice = .ok rules ∧ compile spelledOnce = .ok other_rules ∧
      rules.alwaysIncludeFiles = ["vendor/x.c", "src/x.c"] ∧
      other_rules.excludeDirs ≠ rules.excludeDirs ∧
      rules.isExcludedDir (RelPath.normalize "vendor\\") = true ∧
      explain other_rules .vendored (.ofString "/") (.ofString "lib/x.c") =
        explain rules .vendored (.ofString "/") (.ofString "lib/x.c") := by
  have malformed : Pattern.compile "(" = .error .malformed := rfl
  have fails := ((compile_normalizes { ownSources with excludeRegexes := ["(", ")"] }).1
    ⟨.excludeRegexes, "(", .malformed⟩).2 ⟨[], [(.excludeRegexes, ")")], rfl, by simp, malformed⟩
  obtain ⟨rules, compiled⟩ : ∃ rules, compile spelledTwice = .ok rules := ⟨_, rfl⟩
  obtain ⟨-, -, kept, respelled⟩ := compile_normalizes spelledTwice
  obtain ⟨-, -, -, -, excluded⟩ := kept rules compiled
  obtain ⟨other_rules, other_compiled, explained, -⟩ :=
    (respelled spelledOnce respelled_spelledOnce).2 rules compiled
  refine ⟨fails, respelled_spelledOnce, rules, other_rules, compiled, other_compiled, ?_, ?_, ?_,
    explained .vendored _ _⟩
  · rw [alwaysIncludeFiles_of_compile compiled]
    decide +kernel
  · rw [excludeDirs_of_compile compiled, excludeDirs_of_compile other_compiled]
    decide +kernel
  · exact (excluded "vendor\\").2 ⟨"./vendor/", by decide +kernel, by decide +kernel⟩

end RuleSet
end TreeBundle
