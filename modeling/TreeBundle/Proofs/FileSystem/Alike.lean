import TreeBundle.FileSystem.Read
import TreeBundle.Proofs.FileSystem.Listing
import TreeBundle.Proofs.FileSystem.Shape

/-!
# Trees that look alike

In trees of one shape a path leads to the same place, or fails for the same reason. So a directory
is listed in the same way in both if its entries come in the same order once they are sorted. They
do if no name comes twice.
-/
namespace TreeBundle
set_option autoImplicit false

namespace FileSystem

/-! ## Where paths lead -/

/-- Where something was found, without the node that was found there. -/
def Resolved.spot : Resolved → Resolved
  | .found place _ => .found place .pipe
  | .vacant directory name => .vacant directory name

def Stop.spot : Stop → Stop
  | .ended result => .ended (result.map Resolved.spot)
  | .link directory target rest => .link directory target rest

variable {files other : FileSystem} {purpose : Purpose} {place : Place} {node : Node}
  {steps : List Step} {path : NativePath}

theorem SameShape.at?_eq_none (same : files.SameShape other) (absent : files.at? place = none) :
    other.at? place = none := by
  have shape := same.shape place
  rw [absent] at shape
  exact Option.map_eq_none_iff.1 shape

theorem SameShape.exists_at? (same : files.SameShape other) (held : files.at? place = some node) :
    ∃ node', other.at? place = some node' ∧ node'.shape = node.shape :=
  same.extends.exists_at? held

theorem SameShape.advance (same : files.SameShape other) (purpose : Purpose) (place : Place)
    (steps : List Step) :
    (other.advance purpose place steps).spot = (files.advance purpose place steps).spot := by
  induction steps generalizing place with
  | nil =>
    rw [FileSystem.advance, FileSystem.advance]
    cases here : files.at? place with
    | none => rw [same.at?_eq_none here]
    | some node =>
      obtain ⟨node', here', -⟩ := same.exists_at? here
      rw [here']
      rfl
  | cons step rest ih =>
    rw [FileSystem.advance, FileSystem.advance]
    cases here : files.at? place with
    | none => rw [same.at?_eq_none here]
    | some node =>
      obtain ⟨node', here', shaped⟩ := same.exists_at? here
      rw [here']
      cases node with
      | directory entries =>
        obtain ⟨entries', rfl⟩ := Node.directory_of_shape shaped
        cases step with
        | name name =>
          simp only
          by_cases slash : purpose = .creation ∧ rest = [.slash]
          · rw [if_pos slash, if_pos slash]
          rw [if_neg slash, if_neg slash]
          have child_shape := same.shape (place ++ [name])
          rw [at?_child name here, at?_child name here'] at child_shape
          cases looked_up : entries.lookup name with
          | none =>
            rw [looked_up] at child_shape
            rw [Option.map_eq_none_iff.1 child_shape]
          | some child =>
            rw [looked_up] at child_shape
            obtain ⟨child', looked_up', same_child⟩ := Option.map_eq_some_iff.1 child_shape
            rw [looked_up']
            cases child with
            | link target => rw [Node.link_of_shape same_child]
            | _ =>
              cases child' with
              | link target => cases same_child
              | _ => exact ih (place ++ [name])
        | _ => exact ih _
      | lockedDirectory entries =>
        obtain ⟨entries', rfl⟩ := Node.lockedDirectory_of_shape shaped
        cases step with
        | slash => exact ih place
        | _ => rfl
      | _ => cases node' <;> first | rfl | cases shaped

theorem SameShape.follow {links : Nat} (same : files.SameShape other) :
    (other.follow purpose links place steps).map Resolved.spot =
      (files.follow purpose links place steps).map Resolved.spot := by
  induction links generalizing place steps with
  | zero =>
    have stops := same.advance purpose place steps
    rw [FileSystem.follow, FileSystem.follow]
    cases here : files.advance purpose place steps <;>
      cases there : other.advance purpose place steps <;>
      rw [here, there] at stops
    · exact Stop.ended.inj stops
    · cases stops
    · cases stops
  | succ links ih =>
    have stops := same.advance purpose place steps
    rw [FileSystem.follow, FileSystem.follow]
    cases here : files.advance purpose place steps <;>
      cases there : other.advance purpose place steps <;>
      rw [here, there] at stops
    · exact Stop.ended.inj stops
    · cases stops
    · cases stops
    · cases stops
      exact ih

/-- A path leads to the same place in a tree of the same shape, or fails for the same reason. -/
theorem SameShape.resolve (same : files.SameShape other) (purpose : Purpose) (path : NativePath) :
    (other.resolve purpose path).map Resolved.spot =
      (files.resolve purpose path).map Resolved.spot := by
  rw [FileSystem.resolve, FileSystem.resolve]
  split
  · rfl
  split
  · rfl
  rw [same.working]
  exact same.follow

/-- Where something was found, if it was. -/
def Resolved.found? : Resolved → Except IoError Place
  | .found place _ => .ok place
  | .vacant _ _ => .error .notFound

theorem map_fst_locate (files : FileSystem) (purpose : Purpose) (path : NativePath) :
    (files.locate purpose path).map Prod.fst =
      ((files.resolve purpose path).map Resolved.spot).bind Resolved.found? := by
  rw [locate]
  cases files.resolve purpose path with
  | error problem => rfl
  | ok resolved => cases resolved <;> rfl

/-- So it leads to nodes of the same shape. -/
theorem SameShape.locate_cases (same : files.SameShape other) (purpose : Purpose)
    (not_creation : purpose ≠ .creation) (path : NativePath) :
    (∃ problem, files.locate purpose path = .error problem ∧
      other.locate purpose path = .error problem) ∨
    ∃ place node node', files.locate purpose path = .ok (place, node) ∧
      other.locate purpose path = .ok (place, node') ∧ node'.shape = node.shape ∧
      files.at? place = some node ∧ other.at? place = some node' := by
  have places : (other.locate purpose path).map Prod.fst =
      (files.locate purpose path).map Prod.fst := by
    rw [map_fst_locate, map_fst_locate, same.resolve]
  cases located : files.locate purpose path with
  | error problem =>
    rw [located] at places
    cases located' : other.locate purpose path with
    | error other_problem =>
      rw [located'] at places
      obtain rfl : other_problem = problem := Except.error.inj places
      exact Or.inl ⟨other_problem, rfl, rfl⟩
    | ok found =>
      rw [located'] at places
      cases places
  | ok found =>
    obtain ⟨place, node⟩ := found
    obtain ⟨node', located', shaped, held'⟩ := same.extends.locate not_creation located
    exact Or.inr ⟨place, node, node', rfl, located', shaped, at?_of_locate not_creation located,
      held'⟩

theorem SameShape.isFile_eq (same : files.SameShape other) (path : NativePath) :
    other.isFile path = files.isFile path :=
  Bool.eq_iff_iff.2 ⟨same.symm.isFile, same.isFile⟩

theorem SameShape.isReadable_eq (same : files.SameShape other) (path : NativePath) :
    other.isReadable path = files.isReadable path :=
  Bool.eq_iff_iff.2 ⟨same.symm.isReadable, same.isReadable⟩

/-! ## What is listed -/

/-- What a listing goes by: the names of entries, and what the entries are. -/
def outline (entries : NodeEntries) : List (Bytes × NodeShape) :=
  entries.map fun entry => (entry.1, entry.2.shape)

theorem SameShape.entryKind_eq (same : files.SameShape other) (path : NativePath) {node' : Node}
    (shaped : node'.shape = node.shape) :
    other.entryKind path node' = files.entryKind path node := by
  cases node with
  | link target =>
    obtain rfl := Node.link_of_shape shaped
    rw [entryKind, entryKind, FileSystem.node, FileSystem.node]
    rcases same.locate_cases .target (by simp) path with
      ⟨problem, located, located'⟩ | ⟨place, found, found', located, located', found_shape, -, -⟩
    · rw [located, located']
    · rw [located, located']
      cases found <;> cases found' <;> first | rfl | cases found_shape
  | _ => cases node' <;> first | rfl | cases shaped

/-- Nodes that are no links are listed as what they are. -/
theorem entryKind_of_shallow {node other : Node} {left right : FileSystem}
    (same : node.shallow = other.shallow) (no_link : ∀ target, node ≠ .link target) :
    left.entryKind path node = right.entryKind path other := by
  cases node with
  | link target => exact absurd rfl (no_link target)
  | _ => cases other <;> first | rfl | cases same

theorem regularBytes_of_shallow {node other : Node} {left right : FileSystem}
    (left_found : left.node path = .ok node) (right_found : right.node path = .ok other)
    (same : node.shallow = other.shallow) : left.regularBytes path = right.regularBytes path := by
  rw [regularBytes, regularBytes, left_found, right_found]
  cases node <;> cases other <;> first | rfl | cases same <;> rfl

/-- Entries of the same names and shapes are read in the same way. -/
theorem SameShape.map_readEntry (same : files.SameShape other) (dir : NativePath)
    {entries entries' : NodeEntries} (outlines : outline entries' = outline entries) :
    entries'.map (other.readEntry dir) = entries.map (files.readEntry dir) := by
  induction entries generalizing entries' with
  | nil =>
    obtain rfl := List.map_eq_nil_iff.1 outlines
    rfl
  | cons entry entries ih =>
    obtain ⟨entry', rest, rfl, first, rest_outlines⟩ := List.map_eq_cons_iff.1 outlines
    obtain ⟨name, node⟩ := entry
    obtain ⟨name', node'⟩ := entry'
    obtain ⟨rfl, shaped⟩ := Prod.mk.inj first
    rw [List.map_cons, List.map_cons, ih rest_outlines, readEntry, readEntry,
      same.entryKind_eq _ shaped]

/-- The directory that a path is listed as, in both trees. -/
theorem SameShape.directoryEntries_cases (same : files.SameShape other) (path : NativePath) :
    other.directoryEntries path = files.directoryEntries path ∨
    ∃ place entries entries', files.directoryEntries path = .ok entries ∧
      other.directoryEntries path = .ok entries' ∧
      files.at? place = some (.directory entries) ∧
      other.at? place = some (.directory entries') := by
  rw [directoryEntries, directoryEntries]
  rcases same.locate_cases .itself (by simp) path with
    ⟨problem, located, located'⟩ | ⟨place, found, found', located, located', shaped, held, held'⟩
  · rw [located, located']
    exact Or.inl rfl
  rw [located, located']
  cases found with
  | directory entries =>
    obtain ⟨entries', rfl⟩ := Node.directory_of_shape shaped
    exact Or.inr ⟨place, entries, entries', rfl, rfl, held, held'⟩
  | link target =>
    obtain rfl := Node.link_of_shape shaped
    rw [FileSystem.node, FileSystem.node]
    rcases same.locate_cases .target (by simp) path with
      ⟨problem, led, led'⟩ | ⟨place, found, found', led, led', shaped, held, held'⟩
    · rw [led, led']
      exact Or.inl rfl
    · rw [led, led']
      cases found with
      | directory entries =>
        obtain ⟨entries', rfl⟩ := Node.directory_of_shape shaped
        exact Or.inr ⟨place, entries, entries', rfl, rfl, held, held'⟩
      | _ => cases found' <;> first | exact Or.inl rfl | cases shaped
  | _ => cases found' <;> first | exact Or.inl rfl | cases shaped

/-- Directories whose sorted entries have the same names and shapes are listed in the same way. -/
theorem SameShape.list_eq (same : files.SameShape other)
    (outlines : ∀ place entries entries', files.at? place = some (.directory entries) →
      other.at? place = some (.directory entries') →
      outline (Sorting.sort byName entries') = outline (Sorting.sort byName entries))
    (path : NativePath) (rel : String) : other.list path rel = files.list path rel := by
  rw [list, list]
  rcases same.directoryEntries_cases path with
    found | ⟨place, entries, entries', found, found', held, held'⟩
  · rw [found]
    cases files.directoryEntries path with
    | error problem => rfl
    | ok entries => simp only [same.map_readEntry path rfl]
  · rw [found, found']
    simp only [same.map_readEntry path (outlines place entries entries' held held')]

/-- Two trees look alike from a root on: what lies below it is listed in the same way, and files
hold the same. -/
structure LooksLike (files other : FileSystem) (root : NativePath) : Prop where
  list : ∀ path rel, other.list (root.join path) rel = files.list (root.join path) rel
  isFile : ∀ path, other.isFile (root.join path) = files.isFile (root.join path)
  bytes : ∀ path, other.regularBytes (root.join path) = files.regularBytes (root.join path)
  entry_bytes : ∀ path name, other.regularBytes ((root.join path).join name) =
    files.regularBytes ((root.join path).join name)

theorem LooksLike.refl (files : FileSystem) (root : NativePath) : files.LooksLike files root :=
  ⟨fun _ _ => rfl, fun _ => rfl, fun _ => rfl, fun _ _ => rfl⟩

end FileSystem
end TreeBundle
