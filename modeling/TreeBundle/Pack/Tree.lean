import TreeBundle.Decide.Classify
import TreeBundle.Decide.Prune
import TreeBundle.Pack.Block
import TreeBundle.Pack.Report
import TreeBundle.Pack.Writer
import TreeBundle.Walk

/-!
# Packing a tree

A tree is walked and each admitted file becomes a block. The files that are always included come
last, in their own order, unless the walk wrote them already. For each block a line with the size
of the file goes to the diagnostics, whose failures stop nothing.
-/
namespace TreeBundle
set_option autoImplicit false

/-- What is packed, and where to. -/
structure PackJob (σ δ : Type) where
  rules : RuleSet
  root : NativePath
  /-- The artifact itself, which is never packed. -/
  skip : Option NativePath
  /-- The directory that diagnostics show paths relative to, instead of the root. -/
  start : Option NativePath
  output : Output σ
  diagnostics : Writer δ

/-- A pack run under way. -/
structure PackState (σ δ : Type) where
  out : σ
  diag : δ
  /-- The files written so far. -/
  seen : List NativePath
  report : PackReport
  log : List Event

namespace PackState

variable {σ δ : Type}

def initial (out : σ) (diag : δ) : PackState σ δ :=
  ⟨out, diag, [], .empty, []⟩

def note (state : PackState σ δ) (events : List Event) : PackState σ δ :=
  { state with log := state.log ++ events }

def countPruned (state : PackState σ δ) (count : Nat) : PackState σ δ :=
  { state with
    report := { state.report with dirsPruned := state.report.dirsPruned + count } }

def countForced (state : PackState σ δ) (written : Bool) : PackState σ δ :=
  { state with
    report :=
      if written then { state.report with forcedWritten := state.report.forcedWritten + 1 }
      else { state.report with forcedSkipped := state.report.forcedSkipped + 1 } }

def addWritten (state : PackState σ δ) (path : NativePath) (size : Nat) : PackState σ δ :=
  { state with
    seen := path :: state.seen
    report :=
      { state.report with
        filesWritten := state.report.filesWritten + 1
        bytesWritten := state.report.bytesWritten + size } }

end PackState

namespace PackJob

variable {σ δ : Type} (job : PackJob σ δ)

def filePath (rel : String) : NativePath :=
  job.root.join (.ofRelative rel)

def isSkipped (path : NativePath) : Bool :=
  match job.skip with
  | some skip => skip.same path
  | none => false

/-- A number of at least ten places, filled with blanks. -/
def paddedSize (size : Nat) : String :=
  let digits := toString size
  String.ofList (List.replicate (10 - digits.length) ' ') ++ digits

/-- The path that the diagnostics show for a file. -/
def label (path header : NativePath) : NativePath :=
  match job.start with
  | some start => (path.stripPrefix? start).getD path
  | none => header

def diagnosticsLine (path header : NativePath) (size : Nat) : String :=
  paddedSize size ++ " " ++ (job.label path header).text ++ "\n"

/-- How writing a file went. -/
inductive Emitted where
  | written
  | unreadable
  | failed (problem : IoError)
  deriving DecidableEq, Repr

/-- Tells the diagnostics about a file that is going to be written. -/
def announce (path header : NativePath) (content : FileSystem.Content)
    (state : PackState σ δ) : PackState σ δ :=
  let told :=
    job.diagnostics.write state.diag
      (Utf8.ofString (job.diagnosticsLine path header content.size))
  { state with diag := told.1 }.note
    ((told.2.map (Event.lineNotWritten header)).toList ++
      if content.lossy then [Event.replacedBytes header] else [])

/-- Writes the block of a file. -/
def emit (rel : String) (path : NativePath) (state : PackState σ δ) :
    PackState σ δ × Emitted :=
  match (job.output.files state.out).content path with
  | .error problem => (state.note [.unreadableFile path problem], .unreadable)
  | .ok content =>
    let header := NativePath.ofRelative rel
    let state := job.announce path header content state
    match job.output.writeAll (Block.pieces header.text content.text) state.out with
    | (out, some problem) => ({ state with out }, .failed problem)
    | (out, none) => ({ state with out }.addWritten path content.size, .written)

/-- Writes a file of a directory if it is admitted. -/
def emitListed (listing : Listing) (name : String) (state : PackState σ δ) :
    PackState σ δ × Option IoError :=
  let rel := RelPath.join listing.rel name
  let path := job.filePath rel
  if job.isSkipped path then (state, none)
  else
    let decision := job.rules.decide (job.output.files state.out) name listing.path
    let state := state.note [.classified (listing.path.join (.ofString name)) decision]
    if decision.verdict.isAdmitted then
      match job.emit rel path state with
      | (state, .failed problem) => (state, some problem)
      | (state, _) => (state, none)
    else (state, none)

/-- Writes those of the files of a directory that are admitted, up to the first failure. -/
def emitAdmitted (listing : Listing) :
    List String → PackState σ δ → PackState σ δ × Option IoError
  | [], state => (state, none)
  | name :: rest, state =>
    match job.emitListed listing name state with
    | (state, none) => emitAdmitted listing rest state
    | (state, some problem) => (state, some problem)

def visit (state : PackState σ δ) (listing : Listing) :
    PackState σ δ × Except IoError (List String) :=
  let pruning := job.rules.prune listing.rel listing.subdirs
  let state := state.countPruned pruning.cut.length
  if pruning.processCurrent then
    match job.emitAdmitted listing listing.files (state.note (pruning.cut.map .pruned)) with
    | (state, none) => (state, .ok pruning.kept)
    | (state, some problem) => (state, .error problem)
  else (state.note (pruning.cut.map .directoryExcluded), .ok pruning.kept)

def visitor : Visitor (PackState σ δ) IoError where
  files state := job.output.files state.out
  note := PackState.note
  visit := job.visit

/-- Writes the files that are always included and were not written yet. -/
def emitForced : List String → PackState σ δ → WalkOutcome (PackState σ δ) IoError
  | [], state => .done state
  | rel :: rest, state =>
    let path := job.filePath rel
    if state.seen.any path.same then emitForced rest (state.note [.alreadyWritten rel])
    else if job.isSkipped path then emitForced rest state
    else if (job.output.files state.out).isFile path then
      match job.emit rel path state with
      | (state, .failed problem) => .failed state problem
      | (state, .written) => emitForced rest (state.countForced true)
      | (state, .unreadable) => emitForced rest (state.countForced false)
    else emitForced rest ((state.note [.forcedMissing rel]).countForced false)

/-- Packs a tree, going at most `depth` directories deep. -/
def runWithin (depth : Nat) (state : PackState σ δ) : WalkOutcome (PackState σ δ) IoError :=
  (walk job.visitor job.root depth state).andThen (job.emitForced job.rules.alwaysIncludeFiles)

/-- Packs a tree, going as deep as it takes. Too deep is only a walk that never ends. -/
def run (out : σ) (diag : δ) : WalkOutcome (PackState σ δ) IoError :=
  let within depth := job.runWithin depth (.initial out diag)
  let depth := (job.output.files out).walkDepth job.rules.excludeDirs
  (WalkOutcome.atEnough? within depth).getD .tooDeep

end PackJob
end TreeBundle
