import TreeBundle.Pack.Tree

/-!
# Packing into a file

The artifact is created first, and a tree that contains it is packed without it. Paths in the
diagnostics are relative to the working directory.
-/
namespace TreeBundle
set_option autoImplicit false

inductive PackError where
  | outputOpen (path : NativePath) (cause : IoError)
  | write (cause : IoError)
  /-- The walk would not have come to an end. -/
  | endless
  deriving DecidableEq, Repr

def PackError.message : PackError → String
  | .outputOpen path cause => "Cannot open output artifact " ++ path.text ++ ": " ++ cause.message
  | .write cause => "Failed to write output artifact: " ++ cause.message
  | .endless => "Directories never end"

/-- A pack run into a file, and all that it changed. -/
structure ArtifactRun (δ : Type) where
  files : FileSystem
  diag : δ
  log : List Event
  result : Except PackError PackReport

variable {δ : Type}

/-- Writes out what the buffer still holds. -/
def ArtifactRun.close (state : PackState BufferedFile δ) : ArtifactRun δ :=
  let (file, problem) := state.out.flush
  ⟨file.files, state.diag, state.log,
    match problem with
    | none => .ok state.report
    | some problem => .error (.write problem)⟩

def packToFile (rules : RuleSet) (root output : NativePath) (diagnostics : Writer δ)
    (files : FileSystem) (diag : δ) : ArtifactRun δ :=
  match files.create output with
  | .error problem => ⟨files, diag, [], .error (.outputOpen output problem)⟩
  | .ok (files, place) =>
    let job : PackJob BufferedFile δ :=
      { rules, root, diagnostics
        skip := (files.canonicalize output).toOption
        start := some (FileSystem.pathOf files.working)
        output := BufferedFile.output }
    match job.run (.opened files place) diag with
    | .done state => .close state
    | .failed state problem =>
      ⟨state.out.flush.1.files, state.diag, state.log, .error (.write problem)⟩
    | .tooDeep => ⟨files, diag, [], .error .endless⟩

end TreeBundle
