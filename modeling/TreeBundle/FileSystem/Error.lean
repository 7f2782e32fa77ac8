/-!
# Failures of file operations
-/
namespace TreeBundle
set_option autoImplicit false

inductive IoError where
  | notFound
  | notADirectory
  | isADirectory
  | tooManyLinks
  | permissionDenied
  | noSpace
  /-- A writer that takes nothing more. -/
  | closed
  | notRegular (path : String)
  | notText
  | zeroInPath
  deriving DecidableEq, Repr

/-- The kinds of failures that callers tell apart. -/
inductive IoKind where
  | notFound
  | notADirectory
  | isADirectory
  | filesystemLoop
  | storageFull
  | brokenPipe
  | invalidInput
  | invalidData
  deriving DecidableEq, Repr

namespace IoError

/-- A refused permission counts as missing: no caller does anything else, and the message tells it
apart. -/
def kind : IoError → IoKind
  | .notFound => .notFound
  | .permissionDenied => .notFound
  | .notADirectory => .notADirectory
  | .isADirectory => .isADirectory
  | .tooManyLinks => .filesystemLoop
  | .noSpace => .storageFull
  | .closed => .brokenPipe
  | .notRegular _ => .invalidInput
  | .notText => .invalidData
  | .zeroInPath => .invalidInput

def message : IoError → String
  | .notFound => "No such file or directory (os error 2)"
  | .notADirectory => "Not a directory (os error 20)"
  | .isADirectory => "Is a directory (os error 21)"
  | .tooManyLinks => "Too many levels of symbolic links (os error 40)"
  | .permissionDenied => "Permission denied (os error 13)"
  | .noSpace => "No space left on device (os error 28)"
  | .closed => "closed"
  | .notRegular path => "not a regular file: " ++ path
  | .notText => "stream did not contain valid UTF-8"
  | .zeroInPath => "file name contained an unexpected NUL byte"

end IoError
end TreeBundle
