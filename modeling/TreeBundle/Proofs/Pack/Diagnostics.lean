import TreeBundle.Proofs.FileSystem.Working
import TreeBundle.Proofs.Pack.SelfInclusion
import TreeBundle.Proofs.Pack.Simulation

/-!
# What diagnostics have no influence on

Diagnostics tell of the files that are packed, under paths relative to the starting directory. A run
does the same whatever they are, and whether they fail or not. So packing into a file leaves the
same artifact, from any working directory that its paths do not depend on.
-/
namespace TreeBundle
set_option autoImplicit false

variable {σ δ ε : Type}

/-! ## Files written from elsewhere -/

namespace BufferedFile

/-- The same file being written, seen from another working directory. -/
def seenFrom (file : BufferedFile) (working : Place) : BufferedFile :=
  { file with files := file.files.seenFrom working }

variable {file : BufferedFile} {working : Place}

theorem send_seenFrom (bytes : Bytes) :
    (file.seenFrom working).send bytes =
      ((file.send bytes).1.seenFrom working, (file.send bytes).2) := by
  have appended : (file.seenFrom working).files.append file.place bytes = _ :=
    FileSystem.append_seenFrom file.place bytes
  rw [send, send, show (file.seenFrom working).place = file.place from rfl, appended]
  rfl

theorem flush_seenFrom :
    (file.seenFrom working).flush = (file.flush.1.seenFrom working, file.flush.2) := by
  have pending : (file.seenFrom working).pending = file.pending := rfl
  rw [flush, flush, pending, send_seenFrom]
  split
  · rfl
  · generalize file.send file.pending = result
    obtain ⟨middle, problem⟩ := result
    cases problem <;> rfl

theorem write_seenFrom (bytes : Bytes) :
    (file.seenFrom working).write bytes =
      ((file.write bytes).1.seenFrom working, (file.write bytes).2) := by
  have pending : (file.seenFrom working).pending = file.pending := rfl
  rw [write, write, pending]
  split
  · rfl
  have flushed : (if file.pending.length + bytes.length > capacity
      then (file.seenFrom working).flush else (file.seenFrom working, none)) =
      ((if file.pending.length + bytes.length > capacity then file.flush
        else (file, none)).1.seenFrom working,
      (if file.pending.length + bytes.length > capacity then file.flush else (file, none)).2) := by
    split
    · exact flush_seenFrom
    · rfl
  rw [flushed]
  generalize (if file.pending.length + bytes.length > capacity then file.flush
    else (file, none)) = result
  obtain ⟨middle, problem⟩ := result
  cases problem with
  | some problem => rfl
  | none =>
    simp only
    split
    · rfl
    · exact send_seenFrom bytes

end BufferedFile

/-! ## Runs -/

/-- What a run has made, apart from what it told. -/
def PackState.artifact (state : PackState σ δ) : σ × PackReport :=
  (state.out, state.report)

namespace PackJob

/-- The same job with other diagnostics, which show paths relative to another directory. -/
def telling (job : PackJob σ δ) (diagnostics : Writer ε) (start : Option NativePath) :
    PackJob σ ε :=
  { job.into job.output diagnostics with start }

/-- Runs are alike, whatever they tell. -/
theorem simulates_telling (job : PackJob σ δ) (diagnostics : Writer ε)
    (start : Option NativePath) :
    job.Simulates (job.telling diagnostics start) Eq fun _ _ => True where
  rules := rfl
  root := rfl
  skip := rfl
  looks out _ same := same ▸ .refl (job.output.files out) job.root
  write _ _ _ same := same ▸ ⟨rfl, rfl⟩
  note _ _ _ _ := trivial
  announce _ _ _ _ _ _ := trivial

variable {files : FileSystem} {working : Place} {root output : NativePath}

/-- Runs into a file are alike from any working directory that its paths do not depend on. -/
theorem simulates_intoFile (rules : RuleSet) (diagnostics : Writer δ) (others : Writer ε)
    (absolute : working ≠ files.working → root.isAbsolute = true ∧ output.isAbsolute = true) :
    (intoFile rules root output diagnostics files).Simulates
      (intoFile rules root output others (files.seenFrom working))
      (fun file other => file.files.working = files.working ∧ other = file.seenFrom working)
      fun _ _ => True where
  rules := rfl
  root := rfl
  skip := by
    rw [intoFile, intoFile, FileSystem.canonicalize_seenFrom fun apart => (absolute apart).2]
  looks := by
    rintro file - ⟨stays, rfl⟩
    exact FileSystem.looksLike_seenFrom fun apart => (absolute (stays ▸ apart)).1
  write := by
    rintro file - bytes ⟨stays, rfl⟩
    have still : (file.write bytes).1.files.working = file.files.working :=
      (BufferedFile.sameShape_write (.refl file.files) bytes).working
    change Leaves _ (file.write bytes) ((file.seenFrom working).write bytes)
    rw [BufferedFile.write_seenFrom]
    exact ⟨⟨still.trans stays, rfl⟩, rfl⟩
  note _ _ _ _ := trivial
  announce _ _ _ _ _ _ := trivial

end PackJob

/-! ## Artifacts -/

namespace ArtifactRun

/-- Two runs that leave the same files, one of them seen from another working directory, and come to
the same result. -/
structure SameArtifact (run : ArtifactRun δ) (working : Place) (other : ArtifactRun ε) : Prop where
  files : other.files = run.files.seenFrom working
  result : other.result = run.result

variable {files : FileSystem} {working : Place} {outs : BufferedFile → BufferedFile → Prop}
  {tells : δ × List Event → ε × List Event → Prop} {state : PackState BufferedFile δ}
  {other_state : PackState BufferedFile ε}

theorem sameArtifact_close (out : other_state.out = state.out.seenFrom working)
    (report : other_state.report = state.report) :
    (close state).SameArtifact working (close other_state) := by
  constructor
  · rw [close, close, out, BufferedFile.flush_seenFrom]
    rfl
  · rw [close, close, out, report, BufferedFile.flush_seenFrom]

/-- Runs whose outcomes are alike leave the same artifact. -/
theorem sameArtifact_ofRun {outcome : WalkOutcome (PackState BufferedFile δ) IoError}
    {other : WalkOutcome (PackState BufferedFile ε) IoError}
    (shifts : ∀ file other, outs file other → other = file.seenFrom working)
    (related : WalkOutcome.Related (PackState.Alike outs tells) outcome other) (diag : δ)
    (memo : ε) :
    (ofRun files diag outcome).SameArtifact working
      (ofRun (files.seenFrom working) memo other) := by
  cases related with
  | done alike => exact sameArtifact_close (shifts _ _ alike.out) alike.report
  | @failed state other problem alike =>
    have flushed : other.out.flush = _ :=
      shifts _ _ alike.out ▸ BufferedFile.flush_seenFrom
    exact ⟨congrArg (fun result => result.1.files) flushed, rfl⟩
  | tooDeep => exact ⟨rfl, rfl⟩

end ArtifactRun

variable {files : FileSystem} {working : Place} {root output : NativePath}

/-- Packing into a file leaves the same artifact whatever the diagnostics are, and from any working
directory that the paths do not depend on. -/
theorem sameArtifact_packToFile (rules : RuleSet) (diagnostics : Writer δ) (others : Writer ε)
    (absolute : working ≠ files.working → root.isAbsolute = true ∧ output.isAbsolute = true)
    (diag : δ) (memo : ε) :
    (packToFile rules root output diagnostics files diag).SameArtifact working
      (packToFile rules root output others (files.seenFrom working) memo) := by
  have created_alike : (files.seenFrom working).create output = _ :=
    FileSystem.create_seenFrom fun apart => (absolute apart).2
  cases created : files.create output with
  | error problem =>
    rw [created] at created_alike
    rw [packToFile, packToFile, created, created_alike]
    exact ⟨rfl, rfl⟩
  | ok made =>
    obtain ⟨after, place⟩ := made
    rw [created] at created_alike
    have stays : after.working = files.working := (FileSystem.create_spec created).1.working
    rw [packToFile_of_create diag created, packToFile_of_create memo created_alike]
    rw [← stays] at absolute
    have simulates := PackJob.simulates_intoFile rules diagnostics others absolute
    have related := simulates.run (.opened after place) _ diag memo ⟨rfl, rfl⟩ trivial
    exact ArtifactRun.sameArtifact_ofRun (fun _ _ alike => alike.2) related diag memo

namespace PackJob

/-- Diagnostics have no influence on a run, and so none on an artifact. -/
theorem artifact_independent_of_diagnostics (job : PackJob σ δ) (others : Writer ε)
    (start : Option NativePath) (rules : RuleSet)
    (absolute : working ≠ files.working → root.isAbsolute = true ∧ output.isAbsolute = true) :
    (∀ out diag memo, ((job.telling others start).run out memo).map PackState.artifact =
      (job.run out diag).map PackState.artifact) ∧
    ∀ (diagnostics : Writer δ) diag memo,
      (packToFile rules root output diagnostics files diag).SameArtifact working
        (packToFile rules root output others (files.seenFrom working) memo) := by
  constructor
  · intro out diag memo
    have related := (job.simulates_telling others start).run out out diag memo rfl trivial
    refine related.map_eq fun state other alike => ?_
    rw [PackState.artifact, PackState.artifact, alike.out, alike.report]
  · intro diagnostics diag memo
    exact sameArtifact_packToFile rules diagnostics others absolute diag memo

/-- A run that is told of nowhere leaves the artifact that one from the directory of the packed file
leaves, whose diagnostics fail halfway. -/
theorem artifact_independent_of_diagnostics_vendored :
    ((packToFile .forOwnSources (.ofString "/") (.ofString "/out.md") .sink .vendored
      ()).SameArtifact [Utf8.ofString "src"]
      (packToFile .forOwnSources (.ofString "/") (.ofString "/out.md") Memory.writer
        (FileSystem.vendored.seenFrom [Utf8.ofString "src"]) (.ofLimit (some 5)))) ∧
    (packToFile .forOwnSources (.ofString "/") (.ofString "/out.md") .sink .vendored
      ()).result = .ok ⟨1, 3, 0, 0, 1⟩ := by
  have absolute : [Utf8.ofString "src"] ≠ FileSystem.vendored.working →
      (NativePath.ofString "/").isAbsolute = true ∧
        (NativePath.ofString "/out.md").isAbsolute = true := by
    intro _
    exact ⟨rfl, rfl⟩
  refine ⟨?_, packToFile_of_within 2 rfl (by decide +kernel)⟩
  exact (artifact_independent_of_diagnostics ownSources Memory.writer none .forOwnSources
    absolute).2 .sink () _

end PackJob
end TreeBundle
