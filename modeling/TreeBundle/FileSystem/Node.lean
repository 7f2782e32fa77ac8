import TreeBundle.Path.Native

/-!
# File trees

A directory maps names, which are bytes, to nodes. A place in the tree is the list of names that
lead to it from the root. Permissions are all or none: what is locked can be seen but not used.
-/
namespace TreeBundle
set_option autoImplicit false

inductive Node where
  | file (contents : Bytes)
  | directory (entries : List (Bytes × Node))
  | link (target : NativePath)
  | pipe
  /-- Something that swallows what is written to it. If there is a limit, it takes up to `room`
  bytes each time it is opened. -/
  | device (room : Option Nat)
  /-- A regular file that may not be opened. -/
  | lockedFile (contents : Bytes)
  /-- A directory that may be neither listed nor passed, so that nothing in it can be found. -/
  | lockedDirectory (entries : List (Bytes × Node))
  deriving Repr

abbrev NodeEntries := List (Bytes × Node)

abbrev Place := List Bytes

namespace Node

mutual

/-- The number of nodes. -/
def size : Node → Nat
  | .directory entries => entriesSize entries + 1
  | _ => 1

def entriesSize : List (Bytes × Node) → Nat
  | [] => 0
  | (_, node) :: rest => node.size + entriesSize rest

end

def isFile : Node → Bool
  | .file _ => true
  | .lockedFile _ => true
  | _ => false

def isDirectory : Node → Bool
  | .directory _ => true
  | .lockedDirectory _ => true
  | _ => false

def child? (node : Node) (name : Bytes) : Option Node :=
  match node with
  | .directory entries => entries.lookup name
  | _ => none

def at? (node : Node) : Place → Option Node
  | [] => some node
  | name :: rest => (node.child? name).bind (·.at? rest)

/-- Changes the entry of a name in its place, adds one at the end, or drops it. -/
def alterEntry (name : Bytes) (change : Option Node → Option Node) : NodeEntries → NodeEntries
  | [] => ((change none).map fun node => (name, node)).toList
  | (other, node) :: rest =>
    if other = name then ((change (some node)).map fun node => (other, node)).toList ++ rest
    else (other, node) :: alterEntry name change rest

/-- Changes the node at a place below this one. A place inside something that is no directory is
left alone. -/
def alterAt (change : Option Node → Option Node) : Place → Node → Node
  | [], node => (change (some node)).getD node
  | [name], .directory entries => .directory (alterEntry name change entries)
  | name :: next :: rest, .directory entries =>
    .directory (alterEntry name (·.map (alterAt change (next :: rest))) entries)
  | _ :: _, node => node

end Node

/-- A file tree with a working directory. -/
structure FileSystem where
  root : Node
  working : Place

namespace FileSystem

def at? (files : FileSystem) (place : Place) : Option Node :=
  files.root.at? place

def alterAt (files : FileSystem) (place : Place) (change : Option Node → Option Node) :
    FileSystem :=
  { files with root := files.root.alterAt change place }

end FileSystem
end TreeBundle
