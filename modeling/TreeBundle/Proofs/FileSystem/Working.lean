import TreeBundle.FileSystem.Listing
import TreeBundle.FileSystem.Write
import TreeBundle.Proofs.FileSystem.Alike
import TreeBundle.Proofs.Path.Native

/-!
# Working directories

Only relative paths depend on the working directory. Where a path is absolute, the same is found,
listed and created there from any working directory.
-/
namespace TreeBundle
set_option autoImplicit false

theorem NativePath.isAbsolute_join_of_absolute {base : NativePath}
    (absolute : base.isAbsolute = true) (path : NativePath) :
    (base.join path).isAbsolute = true := by
  have nonempty := bytes_ne_nil_of_absolute absolute
  cases own : path.isAbsolute with
  | true => rw [join, if_pos own, own]
  | false => rw [isAbsolute_join nonempty own, absolute]

namespace FileSystem

/-- The same files seen from another working directory. -/
def seenFrom (files : FileSystem) (working : Place) : FileSystem :=
  { files with working }

variable {files : FileSystem} {working : Place} {root path : NativePath}

theorem advance_seenFrom (purpose : Purpose) (place : Place) (steps : List Step) :
    (files.seenFrom working).advance purpose place steps = files.advance purpose place steps := by
  induction steps generalizing place with
  | nil =>
    rw [advance, advance]
    rfl
  | cons step rest ih =>
    rw [advance, advance]
    simp only [ih]
    rfl

theorem follow_seenFrom (purpose : Purpose) (links : Nat) (place : Place) (steps : List Step) :
    (files.seenFrom working).follow purpose links place steps =
      files.follow purpose links place steps := by
  induction links generalizing place steps with
  | zero => rw [follow, follow, advance_seenFrom]
  | succ links ih =>
    rw [follow, follow, advance_seenFrom]
    simp only [ih]

/-- An absolute path leads to the same place from any working directory. -/
theorem resolve_seenFrom (purpose : Purpose) (absolute : path.isAbsolute = true) :
    (files.seenFrom working).resolve purpose path = files.resolve purpose path := by
  rw [resolve, resolve, if_pos absolute, if_pos absolute, follow_seenFrom]

theorem locate_seenFrom (purpose : Purpose) (absolute : path.isAbsolute = true) :
    (files.seenFrom working).locate purpose path = files.locate purpose path := by
  rw [locate, locate, resolve_seenFrom purpose absolute]

theorem node_seenFrom (absolute : path.isAbsolute = true) :
    (files.seenFrom working).node path = files.node path := by
  rw [node, node, locate_seenFrom .target absolute]

theorem regularBytes_seenFrom (absolute : path.isAbsolute = true) :
    (files.seenFrom working).regularBytes path = files.regularBytes path := by
  rw [regularBytes, regularBytes, node_seenFrom absolute]

theorem isFile_seenFrom (absolute : path.isAbsolute = true) :
    (files.seenFrom working).isFile path = files.isFile path := by
  rw [isFile, isFile, node_seenFrom absolute]

theorem list_seenFrom (absolute : path.isAbsolute = true) (rel : String) :
    (files.seenFrom working).list path rel = files.list path rel := by
  have read : (files.seenFrom working).readEntry path = files.readEntry path := by
    funext entry
    have below := path.isAbsolute_join_of_absolute absolute ⟨entry.1⟩
    have kind : (files.seenFrom working).entryKind (path.join ⟨entry.1⟩) entry.2 =
        files.entryKind (path.join ⟨entry.1⟩) entry.2 := by
      cases entry.2 with
      | link target => rw [entryKind, entryKind, node_seenFrom below]
      | _ => rfl
    rw [readEntry, readEntry, kind]
  rw [list, list, directoryEntries, directoryEntries, locate_seenFrom .itself absolute,
    node_seenFrom absolute, read]

/-- From another working directory the same is found below an absolute root. -/
theorem looksLike_seenFrom (absolute : working ≠ files.working → root.isAbsolute = true) :
    files.LooksLike (files.seenFrom working) root := by
  by_cases same : working = files.working
  · subst same
    exact .refl files root
  have below := root.isAbsolute_join_of_absolute (absolute same)
  refine ⟨?_, ?_, ?_, ?_⟩
  · intro path rel
    exact list_seenFrom (below path) rel
  · intro path
    exact isFile_seenFrom (below path)
  · intro path
    exact regularBytes_seenFrom (below path)
  · intro path name
    exact regularBytes_seenFrom (NativePath.isAbsolute_join_of_absolute (below path) name)

theorem append_seenFrom (place : Place) (bytes : Bytes) :
    (files.seenFrom working).append place bytes = (files.append place bytes).seenFrom working := by
  have same : (files.seenFrom working).at? place = files.at? place := rfl
  rw [append, append, same]
  split <;> rfl

/-- So the same is created at a path that does not depend on it. -/
theorem create_seenFrom (absolute : working ≠ files.working → path.isAbsolute = true) :
    (files.seenFrom working).create path =
      (files.create path).map fun made => (made.1.seenFrom working, made.2) := by
  have resolved : (files.seenFrom working).resolve .creation path =
      files.resolve .creation path := by
    by_cases same : working = files.working
    · subst same
      rfl
    · exact resolve_seenFrom .creation (absolute same)
  rw [create, create, resolved]
  split <;> rfl

theorem canonicalize_seenFrom (absolute : working ≠ files.working → path.isAbsolute = true) :
    (files.seenFrom working).canonicalize path = files.canonicalize path := by
  by_cases same : working = files.working
  · subst same
    rfl
  · rw [canonicalize, canonicalize, locate_seenFrom .target (absolute same)]

end FileSystem

end TreeBundle
