import TreeBundle.FileSystem.Resolve

/-!
# Writing files

Creating a file empties the one that is there, also through a link. What is written follows what
was written before. A device keeps nothing of it, and may not take all.
-/
namespace TreeBundle.FileSystem
set_option autoImplicit false

/-- Empties or makes the file a path denotes. The place is where it is found from then on. -/
def create (files : FileSystem) (path : NativePath) : Except IoError (FileSystem × Place) :=
  match files.resolve .creation path with
  | .error problem => .error problem
  | .ok (.found _ (.directory _)) => .error .isADirectory
  | .ok (.found _ (.lockedDirectory _)) => .error .isADirectory
  | .ok (.found _ (.lockedFile _)) => .error .permissionDenied
  | .ok (.found place (.file _)) => .ok (files.alterAt place fun _ => some (.file []), place)
  | .ok (.found place _) => .ok (files, place)
  | .ok (.vacant directory name) =>
    let place := directory ++ [name]
    .ok (files.alterAt place fun _ => some (.file []), place)

/-- Adds bytes at the end of the file at a place. -/
def append (files : FileSystem) (place : Place) (bytes : Bytes) : FileSystem :=
  match files.at? place with
  | some (.file contents) => files.alterAt place fun _ => some (.file (contents ++ bytes))
  | _ => files

/-- Whether what is opened at a place takes so many bytes before it is closed. -/
def takes (files : FileSystem) (place : Place) (count : Nat) : Bool :=
  match files.at? place with
  | some (.device (some room)) => decide (count ≤ room)
  | _ => true

end TreeBundle.FileSystem
