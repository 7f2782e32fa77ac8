import TreeBundle.Proofs.Pack.Buffered
import TreeBundle.Proofs.Pack.Diagnostics

/-!
# Packing again

A run into a file does nothing to the files but append to its artifact. So creating the artifact
again leads back to where the run began, and a run from there does the same. It makes no difference
where the artifact lies, or whether the run has packed it into itself.
-/
namespace TreeBundle
set_option autoImplicit false

variable {δ ε : Type} {output : NativePath} {files : FileSystem}

/-- Packing into a file leaves the files as they were when it had been created, apart from what was
appended to it. -/
theorem exists_files_packToFile (rules : RuleSet) (root : NativePath) (diagnostics : Writer δ)
    (diag : δ) {after : FileSystem} {place : Place}
    (created : files.create output = .ok (after, place)) :
    ∃ sent, (packToFile rules root output diagnostics files diag).files =
      after.append place sent := by
  have kept := (PackJob.intoFile rules root output diagnostics after).run_keeps
    (fun file => ∃ sent, BufferedFile.Sent after place sent file)
    (fun file bytes ⟨_, is_sent⟩ => is_sent.exists_write bytes)
    ⟨[], BufferedFile.sent_opened after place⟩ diag
  have flushed (file : BufferedFile) (is_sent : ∃ sent, BufferedFile.Sent after place sent file) :
      ∃ sent, file.flush.1.files = after.append place sent := by
    obtain ⟨_, before⟩ := is_sent
    obtain ⟨sent, is_sent⟩ := before.exists_flush
    exact ⟨sent, is_sent.appended⟩
  rw [packToFile_of_create diag created]
  cases ran : (PackJob.intoFile rules root output diagnostics after).run
      (.opened after place) diag with
  | done state =>
    rw [ran] at kept
    exact flushed state.out kept
  | failed state problem =>
    rw [ran] at kept
    exact flushed state.out kept
  | tooDeep => exact ⟨[], (after.append_nil place).symm⟩

theorem working_packToFile (rules : RuleSet) (root output : NativePath) (diagnostics : Writer δ)
    (files : FileSystem) (diag : δ) :
    (packToFile rules root output diagnostics files diag).files.working = files.working := by
  cases created : files.create output with
  | error problem => rw [packToFile, created]
  | ok made =>
    obtain ⟨after, place⟩ := made
    obtain ⟨sent, left⟩ := exists_files_packToFile rules root diagnostics diag created
    rw [left, (after.sameShape_append place sent).working,
      (FileSystem.create_spec created).1.working]

/-- So packing again is packing for the first time, from the files as they were. -/
theorem packToFile_again (rules : RuleSet) (root : NativePath) (diagnostics : Writer δ)
    (others : Writer ε) (diag : δ) (memo : ε) :
    packToFile rules root output others
        (packToFile rules root output diagnostics files diag).files memo =
      packToFile rules root output others files memo := by
  cases created : files.create output with
  | error problem =>
    have untouched : (packToFile rules root output diagnostics files diag).files = files := by
      rw [packToFile, created]
    rw [untouched]
  | ok made =>
    obtain ⟨after, place⟩ := made
    obtain ⟨sent, left⟩ := exists_files_packToFile rules root diagnostics diag created
    have created_again := FileSystem.create_append created sent
    rw [left, packToFile_of_create memo created_again, packToFile_of_create memo created]

namespace PackJob

/-- Packing into a file again changes nothing: all files stay as the first run left them, and the
result is the same, wherever the artifact lies and whatever is told. -/
theorem packToFile_idempotent (rules : RuleSet) (root output : NativePath) (files : FileSystem)
    (diagnostics : Writer δ) (others : Writer ε) (diag : δ) (memo : ε) :
    (packToFile rules root output others
        (packToFile rules root output diagnostics files diag).files memo).files =
      (packToFile rules root output diagnostics files diag).files ∧
    (packToFile rules root output others
        (packToFile rules root output diagnostics files diag).files memo).result =
      (packToFile rules root output diagnostics files diag).result ∧
    packToFile rules root output diagnostics
        (packToFile rules root output diagnostics files diag).files diag =
      packToFile rules root output diagnostics files diag := by
  have same : (packToFile rules root output diagnostics files diag).SameArtifact files.working
      (packToFile rules root output others files memo) :=
    sameArtifact_packToFile rules diagnostics others (absurd rfl) diag memo
  rw [packToFile_again rules root diagnostics others diag memo,
    packToFile_again rules root diagnostics diagnostics diag diag]
  have files_eq := same.files
  rw [← working_packToFile rules root output diagnostics files diag] at files_eq
  exact ⟨files_eq, same.result, rfl⟩

/-- An artifact that was packed into itself, through two links, is packed again. -/
theorem packToFile_idempotent_linkedBack :
    (packToFile .forLatestToo (.ofString "/") (.ofString "out.md") Memory.writer
        (packToFile .forLatestToo (.ofString "/") (.ofString "out.md") .sink .linkedBack ()).files
        (.ofLimit none)).files =
      (packToFile .forLatestToo (.ofString "/") (.ofString "out.md") .sink .linkedBack ()).files ∧
    (packToFile .forLatestToo (.ofString "/") (.ofString "out.md") .sink .linkedBack ()).result =
      .ok ⟨3, 1, 1, 0, 0⟩ := by
  refine ⟨?_, packToFile_of_within 2 FileSystem.create_linkedBack (by decide +kernel)⟩
  exact (packToFile_idempotent .forLatestToo _ _ .linkedBack .sink Memory.writer () _).1

end PackJob
end TreeBundle
