import TreeBundle.CommandLine.Arguments
import TreeBundle.Explain
import TreeBundle.Json.Printer
import TreeBundle.Pack.Artifact
import TreeBundle.Rules.Load

/-!
# Running a command

The rules are found and compiled before anything is written. Packing shows a line for each file
unless it is told to be quiet; explaining prints one JSON text for each path; the rules are
printed as the document that they could be read from.
-/
namespace TreeBundle.CommandLine
set_option autoImplicit false

inductive CommandError where
  | rules (cause : RulesError)
  | badPattern (cause : BadPattern)
  | pack (cause : PackError)
  deriving DecidableEq, Repr

def CommandError.message : CommandError → String
  | .rules cause => cause.message
  | .badPattern cause => cause.message
  | .pack cause => cause.message

/-- What the operator was doing when it failed, where that helps. -/
def CommandError.context? : CommandError → Option String
  | .badPattern _ => some "Invalid rule configuration"
  | _ => none

/-- What the operator is shown when a command fails. -/
def CommandError.report (problem : CommandError) : String :=
  match problem.context? with
  | none => "Error: " ++ problem.message ++ "\n"
  | some context => "Error: " ++ context ++ "\n\nCaused by:\n    " ++ problem.message ++ "\n"

/-- A finished command, and all that it changed or showed. -/
structure CommandRun where
  files : FileSystem
  stdout : String
  stderr : String
  log : List Event
  result : Except CommandError Unit

def CommandRun.exitCode (run : CommandRun) : Nat :=
  match run.result with
  | .ok () => 0
  | .error _ => 1

def CommandRun.failed (files : FileSystem) (log : List Event) (problem : CommandError) :
    CommandRun :=
  ⟨files, "", "", log, .error problem⟩

/-- The text of a line, or of several. -/
def lines (texts : List String) : String :=
  String.join (texts.map (· ++ "\n"))

def runPack (files : FileSystem) (log : List Event) (root : NativePath) (rules : RuleSet)
    (output : NativePath) (quiet stats : Bool) : CommandRun :=
  let run := packToFile rules root output Memory.writer files (.ofLimit none)
  let shown := if quiet then "" else Utf8.lossyString run.diag.taken
  match run.result with
  | .error problem => ⟨run.files, "", shown, log ++ run.log, .error (.pack problem)⟩
  | .ok report =>
    ⟨run.files, "", shown ++ (if stats then lines report.statistics else ""),
      log ++ run.log ++ [.packComplete report.filesWritten report.bytesWritten output], .ok ()⟩

def explanationText (pretty : Bool) (explanation : Explanation) : String :=
  if pretty then Json.printIndented explanation.toDatum else Json.print explanation.toDatum

def runExplain (files : FileSystem) (log : List Event) (root : NativePath) (rules : RuleSet)
    (paths : List String) (pretty : Bool) : CommandRun :=
  let found := paths.map fun path => explain rules files root (.ofString path)
  ⟨files, lines (found.map fun explained => explanationText pretty explained.1), "",
    log ++ found.flatMap Prod.snd, .ok ()⟩

def run (files : FileSystem) (invocation : Invocation) : CommandRun :=
  let given := NativePath.ofString invocation.root
  let root := (files.canonicalize given).toOption.getD given
  match RuleTables.discover files root (invocation.rules.map NativePath.ofString) with
  | .error problem => .failed files [] (.rules problem)
  | .ok (tables, source) =>
    let log := (source.map Event.rulesLoaded).toList
    match invocation.command with
    | .rules => ⟨files, tables.render, "", log, .ok ()⟩
    | .pack output stats =>
      match RuleSet.compile tables with
      | .error problem => .failed files log (.badPattern problem)
      | .ok rules => runPack files log root rules (.ofString output) invocation.quiet stats
    | .explain paths pretty =>
      match RuleSet.compile tables with
      | .error problem => .failed files log (.badPattern problem)
      | .ok rules => runExplain files log root rules paths pretty

/-- The files that a command reads besides those that a walk of the tree meets. -/
def Command.paths (root : NativePath) (rules : RuleSet) : Command → List NativePath
  | .pack _ _ => rules.alwaysIncludeFiles.map fun rel => root.join (.ofRelative rel)
  | .explain paths _ =>
    paths.map fun path => root.join (.ofRelative (relativeForm root (.ofString path)))
  | .rules => []

end TreeBundle.CommandLine
