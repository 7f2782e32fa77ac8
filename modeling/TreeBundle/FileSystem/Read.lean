import TreeBundle.FileSystem.Resolve

/-!
# Reading files

Text that goes into the artifact is decoded lossily, so bytes that are no UTF-8 never fail a read.
Only regular files are read that way; links to them are followed.
-/
namespace TreeBundle.FileSystem
set_option autoImplicit false

/-- Bytes inspected when the first line of a file is looked at. -/
def firstLineLimit : Nat := 256

structure Content where
  text : String
  /-- The size on disk. -/
  size : Nat
  /-- Whether something had to be replaced. -/
  lossy : Bool
  deriving DecidableEq, Repr

def contentOf (bytes : Bytes) : Content :=
  match Utf8.string? bytes with
  | some text => ⟨text, bytes.length, false⟩
  | none => ⟨Utf8.lossyString bytes, bytes.length, true⟩

/-- The bytes of a regular file. -/
def regularBytes (files : FileSystem) (path : NativePath) : Except IoError Bytes :=
  match files.node path with
  | .ok (.file contents) => .ok contents
  | .ok (.lockedFile _) => .error .permissionDenied
  | .ok _ => .error (.notRegular path.text)
  | .error problem => .error problem

def lineFeed : UInt8 := 10

/-- What stands before the first line feed among the first `limit` bytes. -/
def firstLineOf (limit : Nat) (bytes : Bytes) : String :=
  Utf8.lossyString ((bytes.take limit).takeWhile (· != lineFeed))

def firstLine (files : FileSystem) (path : NativePath) (limit : Nat) : Except IoError String :=
  (files.regularBytes path).map (firstLineOf limit)

def content (files : FileSystem) (path : NativePath) : Except IoError Content :=
  (files.regularBytes path).map contentOf

/-- The bytes of anything that can be opened. Pipes and devices have none to give. -/
def bytes (files : FileSystem) (path : NativePath) : Except IoError Bytes :=
  match files.node path with
  | .ok (.file contents) => .ok contents
  | .ok (.directory _) => .error .isADirectory
  | .ok (.lockedFile _) => .error .permissionDenied
  | .ok (.lockedDirectory _) => .error .permissionDenied
  | .ok _ => .ok []
  | .error problem => .error problem

/-- The text of a file, which must be UTF-8. -/
def text (files : FileSystem) (path : NativePath) : Except IoError String :=
  match files.bytes path with
  | .error problem => .error problem
  | .ok bytes =>
    match Utf8.string? bytes with
    | some text => .ok text
    | none => .error .notText

end TreeBundle.FileSystem
