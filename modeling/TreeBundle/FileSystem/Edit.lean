import TreeBundle.FileSystem.Write

/-!
# Building a tree

Placing files, directories and other nodes where paths lead, with the directories on the way.
-/
namespace TreeBundle.FileSystem
set_option autoImplicit false

/-- A tree is put up from text: where bytes are asked for, characters stand for their encoding. -/
instance : Coe (List Char) Bytes := ⟨Utf8.encode⟩

/-- Makes the directory at a path unless something is there. -/
def makeDirectory (files : FileSystem) (path : NativePath) : FileSystem :=
  match files.resolve .target path with
  | .ok (.vacant directory name) =>
    files.alterAt (directory ++ [name]) fun _ => some (.directory [])
  | _ => files

/-- Makes the directory at a path below `base`, and those on the way. -/
def makeDirectories (files : FileSystem) (base : NativePath) (pieces : List (List Char)) :
    FileSystem :=
  (pieces.foldl
    (fun (made : FileSystem × NativePath) piece =>
      let path := made.2.join ⟨Utf8.encode piece⟩
      (made.1.makeDirectory path, path))
    (files, base)).1

/-- Puts a node under a name into the directory at a path. -/
def place (files : FileSystem) (directory : NativePath) (name : Bytes) (node : Node) :
    FileSystem :=
  match files.locate .target directory with
  | .ok (place, .directory _) => files.alterAt (place ++ [name]) fun _ => some node
  | _ => files

/-- Gives contents to the file at a path, which is made if need be. -/
def fill (files : FileSystem) (path : NativePath) (contents : Bytes) : FileSystem :=
  match files.create path with
  | .ok (files, place) => files.append place contents
  | .error _ => files

/-- Removes what a path names, a link and not its target. -/
def remove (files : FileSystem) (path : NativePath) : FileSystem :=
  match files.locate .itself path with
  | .ok (place, _) => files.alterAt place fun _ => none
  | .error _ => files

/-- The same files seen from another working directory, if there is one at the path. -/
def enter (files : FileSystem) (path : NativePath) : FileSystem :=
  match files.locate .target path with
  | .ok (place, .directory _) => { files with working := place }
  | _ => files

end TreeBundle.FileSystem
