import TreeBundle.Data.Sorting
import TreeBundle.Event
import TreeBundle.FileSystem.Resolve

/-!
# Directory listings

A listing names the subdirectories and the regular files of one directory, sorted by the bytes of
their names. Links count as what they lead to; names that are no text and everything else are left
out. What cannot be listed is empty.
-/
namespace TreeBundle
set_option autoImplicit false

structure Listing where
  /-- The normal form of the path below the root. -/
  rel : String
  /-- The path on disk. -/
  path : NativePath
  subdirs : List String
  files : List String
  /-- The subdirectories that are links. -/
  linked : List String
  deriving DecidableEq, Repr

/-- What an entry of a directory is listed as. -/
inductive EntryKind where
  | directory
  | linkedDirectory
  | file
  | other
  deriving DecidableEq, Repr

structure Entry where
  name : String
  kind : EntryKind
  deriving DecidableEq, Repr

namespace FileSystem

/-- The entries of a directory, found as `path` is spelled; none for anything else. -/
def directoryEntries (files : FileSystem) (path : NativePath) : Except IoError NodeEntries :=
  match files.locate .itself path with
  | .error problem => .error problem
  | .ok (_, .directory entries) => .ok entries
  | .ok (_, .lockedDirectory _) => .error .permissionDenied
  | .ok (_, .link _) =>
    match files.node path with
    | .error problem => .error problem
    | .ok (.directory entries) => .ok entries
    | .ok (.lockedDirectory _) => .error .permissionDenied
    | .ok _ => .ok []
  | .ok _ => .ok []

def entryKind (files : FileSystem) (path : NativePath) : Node → EntryKind
  | .link _ =>
    match files.node path with
    | .ok node =>
      if node.isDirectory then .linkedDirectory else if node.isFile then .file else .other
    | .error _ => .other
  | node => if node.isDirectory then .directory else if node.isFile then .file else .other

def byName (left right : Bytes × Node) : Bool :=
  decide (left.1 ≤ right.1)

/-- An entry with a readable name, and the event it gives rise to. -/
def readEntry (files : FileSystem) (dir : NativePath) (entry : Bytes × Node) :
    Option Entry × List Event :=
  let path := dir.join ⟨entry.1⟩
  match Utf8.string? entry.1 with
  | none => (none, [.unreadableName path])
  | some name =>
    match files.entryKind path entry.2 with
    | .other => (some ⟨name, .other⟩, [.notRegular path])
    | kind => (some ⟨name, kind⟩, [])

def namesWhere (choose : EntryKind → Bool) (entries : List Entry) : List String :=
  (entries.filter fun entry => choose entry.kind).map Entry.name

/-- Lists the directory at a path that is known as `rel`. -/
def list (files : FileSystem) (path : NativePath) (rel : String) : Listing × List Event :=
  match files.directoryEntries path with
  | .error problem => (⟨rel, path, [], [], []⟩, [.cannotList path problem])
  | .ok found =>
    let read := (Sorting.sort byName found).map (files.readEntry path)
    let entries := read.filterMap Prod.fst
    (⟨rel, path,
      namesWhere (fun kind => kind == .directory || kind == .linkedDirectory) entries,
      namesWhere (· == .file) entries,
      namesWhere (· == .linkedDirectory) entries⟩,
      read.flatMap Prod.snd)

end FileSystem
end TreeBundle
