import TreeBundle.CommandLine.Run
import TreeBundle.CommandLine.Usage

/-!
# The program

What a command can look at is read from disk into a file tree. The command runs on that tree, and
the artifact it leaves there is written back.
-/
namespace TreeBundle.Program
set_option autoImplicit false

/-- The file tree as far as it is known. -/
def learn (files : FileSystem) (place : Place) (node : Node) : FileSystem :=
  files.alterAt place fun known => some (known.getD node)

/-- The target of a link that leads nowhere: no name holds a zero. -/
def nowhere : NativePath := ⟨[0, NativePath.slash]⟩

/-- A name that is no text. -/
def unreadableName : Bytes := [0xff]

def onDisk (place : Place) :=
  System.mkFilePath [(FileSystem.pathOf place).text]

mutual

/-- Reads what is at a place, but not what lies below it, and says where a path that goes there
arrives. -/
partial def readPlace (files : FileSystem) (place : Place) : IO (FileSystem × Place) := do
  match ← (onDisk place).symlinkMetadata.toBaseIO with
  | .error _ => return (files, place)
  | .ok found =>
    match found.type with
    | .dir => return (learn files place (.directory []), place)
    | .file =>
      match ← (IO.FS.readBinFile (onDisk place)).toBaseIO with
      | .ok contents => return (learn files place (.file contents.toList), place)
      | .error _ => return (learn files place (.lockedFile []), place)
    | .symlink =>
      match ← (IO.FS.realPath (onDisk place)).toBaseIO with
      | .ok target =>
        let files := learn files place (.link (.ofString target.toString))
        readSteps files [] (FileSystem.stepsOf (.ofString target.toString))
      | .error _ => return (learn files place (.link nowhere), place)
    | .other => return (learn files place .pipe, place)

/-- Reads all places that steps lead through. -/
partial def readSteps (files : FileSystem) (place : Place) :
    List FileSystem.Step → IO (FileSystem × Place)
  | [] => return (files, place)
  | .name name :: rest => do
    let (files, place) ← readPlace files (place ++ [name])
    readSteps files place rest
  | .up :: rest => readSteps files place.dropLast rest
  | _ :: rest => readSteps files place rest

end

/-- Reads all places that a path leads through. -/
def readPath (files : FileSystem) (path : NativePath) : IO (FileSystem × Place) :=
  readSteps files (if path.isAbsolute then [] else files.working) (FileSystem.stepsOf path)

/-- Reads what lies below a directory, except below directories that are excluded. -/
partial def readTree (rules : RuleSet) (files : FileSystem) (place : Place) (rel : String) :
    IO FileSystem := do
  if rules.isExcludedDir rel then return files
  match ← (onDisk place).readDir.toBaseIO with
  | .error _ => return files.alterAt place fun _ => some (.lockedDirectory [])
  | .ok entries =>
    entries.foldlM (fun files entry => do
      let below := place ++ [Utf8.ofString entry.fileName]
      let files := (← readPlace files below).1
      match files.at? below with
      | some (.directory _) => readTree rules files below (RelPath.join rel entry.fileName)
      | some _ => return files
      | none => return learn files (place ++ [unreadableName]) (.file [])) files

/-- Reads what the rules of a run may come from. -/
def readRules (files : FileSystem) (root : NativePath) (explicit : Option String) :
    IO FileSystem := do
  let (files, _) ← readPath files root
  let (files, _) ← readPath files (root.join (.ofString RuleTables.fileName))
  match explicit with
  | none => return files
  | some path => return (← readPath files (.ofString path)).1

/-- Reads what the artifact replaces. A pipe or a device counts as an empty file. -/
def readArtifact (files : FileSystem) (output : String) : IO FileSystem := do
  let (files, place) ← readPath files (.ofString output)
  match files.at? place with
  | some .pipe => return files.alterAt place fun _ => some (.file [])
  | _ => return files

/-- Reads all that a command may look at. -/
def read (invocation : CommandLine.Invocation) : IO FileSystem := do
  let working := NativePath.ofString (← IO.currentDir).toString
  let (files, place) ← readPath ⟨.directory [], []⟩ working
  let root := NativePath.ofString invocation.root
  let files ← readRules { files with working := place } root invocation.rules
  let root := (files.canonicalize root).toOption.getD root
  match RuleTables.discover files root (invocation.rules.map NativePath.ofString) with
  | .error _ => return files
  | .ok (tables, _) =>
    match RuleSet.compile tables with
    | .error _ => return files
    | .ok rules =>
      let paths := invocation.command.paths root rules
      let files ← paths.foldlM (fun files path => return (← readPath files path).1) files
      match invocation.command with
      | .pack output _ =>
        let (files, place) ← readPath (← readArtifact files output) root
        readTree rules files place RelPath.root
      | _ => return files

/-- Writes the artifact back if the run made or changed it. -/
def writeArtifact (before : FileSystem) (invocation : CommandLine.Invocation)
    (run : CommandLine.CommandRun) : IO Unit := do
  match invocation.command with
  | .pack output _ =>
    let path := NativePath.ofString output
    match (run.files.bytes path).toOption with
    | some contents =>
      if (before.bytes path).toOption ≠ some contents then
        IO.FS.withFile output .write fun handle => do
          handle.write ⟨contents.toArray⟩
          handle.flush
    | none => return
  | _ => return

/-- Shows what a run printed, and as much of its log as was asked for. -/
def showRun (verbose : Bool) (run : CommandLine.CommandRun) : IO Unit := do
  for event in run.log do
    if verbose || event.level == .warn then IO.eprintln event.line
  IO.print run.stdout
  IO.eprint run.stderr
  match run.result with
  | .ok () => return
  | .error problem => IO.eprint problem.report

/-- Runs the command that the arguments ask for and returns the exit code. -/
def run (arguments : List String) : IO UInt32 := do
  match CommandLine.read arguments (← IO.getEnv "FENCEPACK_RULES") with
  | .error refusal =>
    if refusal.exitCode = 0 then IO.print refusal.message else IO.eprint refusal.message
    return refusal.exitCode.toUInt32
  | .ok invocation =>
    let files ← read invocation
    let run := CommandLine.run files invocation
    writeArtifact files invocation run
    showRun invocation.verbose run
    return run.exitCode.toUInt32

end TreeBundle.Program

def main (arguments : List String) : IO UInt32 :=
  TreeBundle.Program.run arguments
