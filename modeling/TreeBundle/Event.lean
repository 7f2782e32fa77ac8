import TreeBundle.Decide.Decision
import TreeBundle.FileSystem.Error
import TreeBundle.Path.Native

/-!
# Events worth a log line
-/
namespace TreeBundle
set_option autoImplicit false

inductive Level where
  | debug
  | info
  | warn
  deriving DecidableEq, Repr

inductive Event where
  | classified (file : NativePath) (decision : Decision)
  | directoryExcluded (dir : String)
  | pruned (dir : String)
  | cannotList (dir : NativePath) (problem : IoError)
  | unreadableName (path : NativePath)
  | notRegular (path : NativePath)
  | unreadableFile (path : NativePath) (problem : IoError)
  | lineNotWritten (path : NativePath) (problem : IoError)
  | replacedBytes (path : NativePath)
  | alreadyWritten (path : String)
  | forcedMissing (path : String)
  | rulesLoaded (path : NativePath)
  | packComplete (files bytes : Nat) (output : NativePath)
  deriving DecidableEq, Repr

def Level.name : Level → String
  | .debug => "DEBUG"
  | .info => "INFO"
  | .warn => "WARN"

namespace Event

def level : Event → Level
  | .cannotList .. => .warn
  | .unreadableName .. => .warn
  | .unreadableFile .. => .warn
  | .lineNotWritten .. => .warn
  | .rulesLoaded .. => .info
  | .packComplete .. => .info
  | _ => .debug

def message : Event → String
  | .classified file decision =>
    "classified file=" ++ file.text ++ " rule=" ++ decision.rule.name ++ " verdict=" ++
      decision.verdict.title
  | .directoryExcluded dir => "directory excluded dir=" ++ dir
  | .pruned dir => "pruned dir=" ++ dir
  | .cannotList dir problem =>
    "cannot list entry dir=" ++ dir.text ++ " error=IO error for operation on " ++ dir.text ++
      ": " ++ problem.message
  | .unreadableName path => "skipping non UTF-8 name path=" ++ path.text
  | .notRegular path => "skipping non-regular file path=" ++ path.text
  | .unreadableFile path problem =>
    "skipping unreadable file path=" ++ path.text ++ " error=" ++ problem.message
  | .lineNotWritten path problem =>
    "cannot write diagnostics line path=" ++ path.text ++ " error=" ++ problem.message
  | .replacedBytes path => "invalid UTF-8 replaced path=" ++ path.text
  | .alreadyWritten path => "already written path=" ++ path
  | .forcedMissing path => "force-include entry missing path=" ++ path
  | .rulesLoaded path => "loaded rules file rules=" ++ path.text
  | .packComplete files bytes output =>
    "pack complete files=" ++ toString files ++ " bytes=" ++ toString bytes ++ " output=" ++
      output.text

def line (event : Event) : String :=
  event.level.name ++ " " ++ event.message

end Event
end TreeBundle
