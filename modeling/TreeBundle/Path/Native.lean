import TreeBundle.Path.Relative
import TreeBundle.Text.Utf8

/-!
# Paths on disk

A path on disk is bytes, whose spelling is kept; shown as text, what is no UTF-8 in it is replaced.
Two paths name the same place when their components agree: repeated and trailing slashes and inner
`.` do not count, a leading `.` does.
-/
namespace TreeBundle
set_option autoImplicit false

structure NativePath where
  bytes : Bytes
  deriving DecidableEq, Repr

namespace NativePath

def slash : UInt8 := 0x2F

/-- The name `.`, which stays where it is. -/
def here : Bytes := [0x2E]

/-- The name `..`, which leads to the directory above. -/
def up : Bytes := [0x2E, 0x2E]

def ofString (text : String) : NativePath :=
  ⟨Utf8.ofString text⟩

instance : Coe String NativePath := ⟨ofString⟩

/-- The characters that a path is shown with. -/
def chars (path : NativePath) : List Char :=
  Utf8.decodeLossy path.bytes

def text (path : NativePath) : String :=
  String.ofList path.chars

def isAbsolute (path : NativePath) : Bool :=
  path.bytes.head? == some slash

/-- An absolute path replaces what it is joined to; a relative one follows it after a slash. -/
def join (base path : NativePath) : NativePath :=
  if path.isAbsolute then path
  else if base.bytes = [] ∨ base.bytes.getLast? = some slash then ⟨base.bytes ++ path.bytes⟩
  else ⟨base.bytes ++ slash :: path.bytes⟩

/-- The path on disk of a relative path, empty for the root. -/
def ofRelative (rel : String) : NativePath :=
  if rel = RelPath.root then ⟨[]⟩
  else
    (Text.pieces (· == '/') rel.toList).foldl
      (fun path piece => path.join ⟨Utf8.encode piece⟩) ⟨[]⟩

/-- The text with slashes for backslashes. -/
def slashed (path : NativePath) : String :=
  String.ofList (path.chars.map fun c => if c = '\\' then '/' else c)

inductive Component where
  | root
  | here
  | parent
  | name (bytes : Bytes)
  deriving DecidableEq, Repr

def pieces (path : NativePath) : List Bytes :=
  Text.pieces (· == slash) path.bytes

/-- A piece between slashes that is no component, unless it leads the path. -/
def isTrivial (piece : Bytes) : Bool :=
  piece == [] || piece == here

def bodyComponent? (piece : Bytes) : Option Component :=
  if isTrivial piece then none
  else if piece = up then some .parent
  else some (.name piece)

/-- The component that the first piece stands for when it is one by leading the path. -/
def leading? (path : NativePath) : Option Component :=
  if path.isAbsolute then some .root
  else if path.pieces.head? = some here then some .here
  else none

def components (path : NativePath) : List Component :=
  path.leading?.toList ++ path.pieces.filterMap bodyComponent?

/-- Whether two paths have the same components. -/
def same (left right : NativePath) : Bool :=
  left.components == right.components

/-- The pieces after the first `count` components. -/
def dropComponents : Nat → List Bytes → List Bytes
  | 0, pieces => pieces
  | _ + 1, [] => []
  | count + 1, piece :: rest =>
    if isTrivial piece then dropComponents (count + 1) rest else dropComponents count rest

def trimEnd (pieces : List Bytes) : List Bytes :=
  (pieces.reverse.dropWhile isTrivial).reverse

/-- A path without the trivial pieces at its end; one that leads the path stays. -/
def trimmed (path : NativePath) : NativePath :=
  match path.pieces with
  | [] => path
  | first :: rest =>
    match trimEnd rest with
    | [] => if path.isAbsolute then ⟨[slash]⟩ else ⟨first⟩
    | kept => ⟨Text.joinWith slash (first :: kept)⟩

/-- What follows the components of `base`, in its own spelling between its first and its last
component. -/
def stripPrefix? (path base : NativePath) : Option NativePath :=
  let wanted := base.components
  if wanted.isPrefixOf path.components then
    match wanted.length with
    | 0 => some path.trimmed
    | count + 1 =>
      let rest :=
        if path.leading?.isSome then dropComponents count (path.pieces.drop 1)
        else dropComponents (count + 1) path.pieces
      some ⟨Text.joinWith slash (trimEnd (rest.dropWhile isTrivial))⟩
  else none

/-- The path relative to `root`, with slashes; none if it does not lie below. -/
def relativeTo? (path root : NativePath) : Option String :=
  (path.stripPrefix? root).map slashed

end NativePath
end TreeBundle
