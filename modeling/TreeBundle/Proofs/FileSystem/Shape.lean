import TreeBundle.FileSystem.Write
import TreeBundle.Proofs.FileSystem.Locate

/-!
# The shape of a tree

Where a path leads depends on directories and links alone. So it leads to the same place when the
contents of a file change, and still does when a file is added where nothing was.
-/
namespace TreeBundle
set_option autoImplicit false

/-- What a node is, apart from what it holds. -/
inductive NodeShape where
  | file
  | directory
  | link (target : NativePath)
  | pipe
  | device
  | lockedFile
  | lockedDirectory
  deriving DecidableEq, Repr

namespace Node

def shape : Node → NodeShape
  | .file _ => .file
  | .directory _ => .directory
  | .link target => .link target
  | .pipe => .pipe
  | .device _ => .device
  | .lockedFile _ => .lockedFile
  | .lockedDirectory _ => .lockedDirectory

theorem directory_of_shape {node : Node} (shaped : node.shape = .directory) :
    ∃ entries, node = .directory entries := by
  cases node with
  | directory entries => exact ⟨entries, rfl⟩
  | _ => cases shaped

theorem file_of_shape {node : Node} (shaped : node.shape = .file) :
    ∃ contents, node = .file contents := by
  cases node with
  | file contents => exact ⟨contents, rfl⟩
  | _ => cases shaped

theorem lockedDirectory_of_shape {node : Node} (shaped : node.shape = .lockedDirectory) :
    ∃ entries, node = .lockedDirectory entries := by
  cases node with
  | lockedDirectory entries => exact ⟨entries, rfl⟩
  | _ => cases shaped

/-- Whether a node counts as a file is told by its shape. -/
theorem isFile_of_shape {node other : Node} (shaped : other.shape = node.shape) :
    other.isFile = node.isFile := by
  cases node <;> cases other <;> first | rfl | cases shaped

theorem link_of_shape {node : Node} {target : NativePath} (shaped : node.shape = .link target) :
    node = .link target := by
  cases node with
  | link other =>
    cases shaped
    rfl
  | _ => cases shaped

/-- What a node is without what lies below it. -/
def shallow : Node → Node
  | .directory _ => .directory []
  | node => node

theorem isDirectory_shallow (node : Node) : node.shallow.isDirectory = node.isDirectory := by
  cases node <;> rfl

theorem shape_shallow (node : Node) : node.shallow.shape = node.shape := by
  cases node <;> rfl

/-- Only directories have something below them. -/
theorem at?_of_not_directory {node : Node} (no_directory : node.shape ≠ .directory) (name : Bytes)
    (rest : Place) : node.at? (name :: rest) = none := by
  cases node with
  | directory entries => exact absurd rfl no_directory
  | _ => rfl

/-! ## Changing one place -/

theorem lookup_alterEntry (change : Option Node → Option Node) (name other : Bytes)
    (entries : NodeEntries) (keeps : ∀ node, (change (some node)).isSome = true) :
    (alterEntry name change entries).lookup other =
      if other = name then change (entries.lookup name) else entries.lookup other := by
  induction entries with
  | nil =>
    unfold alterEntry
    by_cases same : other = name
    · cases changed : change none <;> simp [same, changed]
    · have apart : (other == name) = false := beq_eq_false_iff_ne.2 same
      cases changed : change none <;> simp [same, apart, List.lookup_cons]
  | cons entry entries ih =>
    obtain ⟨first, node⟩ := entry
    obtain ⟨changed, found⟩ := Option.isSome_iff_exists.1 (keeps node)
    unfold alterEntry
    by_cases here : first = name
    · subst here
      by_cases same : other = first
      · simp [same, found]
      · have apart : (other == first) = false := beq_eq_false_iff_ne.2 same
        simp [same, found, apart, List.lookup_cons]
    · have apart : (name == first) = false := beq_eq_false_iff_ne.2 (Ne.symm here)
      rw [if_neg here, List.lookup_cons, List.lookup_cons, List.lookup_cons, apart, ih]
      by_cases same : other = name
      · simp [same, apart]
      · simp [same]

/-- Putting a node at a place below a directory leaves the other entries of the directory alone,
and puts it at the rest of the place below the entry, or makes it the entry. -/
theorem exists_alterAt_cons (new : Node) (entries : NodeEntries) (name : Bytes) (rest : Place) :
    ∃ entries', (directory entries).alterAt (fun _ => some new) (name :: rest) =
        .directory entries' ∧
      (∀ other, other ≠ name → entries'.lookup other = entries.lookup other) ∧
      (∀ child, entries.lookup name = some child →
        entries'.lookup name = some (child.alterAt (fun _ => some new) rest)) ∧
      (rest = [] → entries'.lookup name = some new) := by
  cases rest with
  | nil =>
    have looked_up (other : Bytes) :=
      lookup_alterEntry (fun _ => some new) name other entries (by simp)
    refine ⟨_, by rw [alterAt], ?_, ?_, ?_⟩
    · intro other different
      rw [looked_up, if_neg different]
    · intro child found
      rw [looked_up, if_pos rfl, alterAt]
      rfl
    · intro _
      rw [looked_up, if_pos rfl]
  | cons next rest =>
    have looked_up (other : Bytes) :=
      lookup_alterEntry (·.map (alterAt (fun _ => some new) (next :: rest))) name other entries
        (by simp)
    refine ⟨_, by rw [alterAt], ?_, ?_, ?_⟩
    · intro other different
      rw [looked_up, if_neg different]
    · intro child found
      rw [looked_up, if_pos rfl, found]
      rfl
    · intro nothing
      cases nothing

/-- Where a node is replaced by one of the same shape that is no directory, the tree keeps its
shape. -/
theorem shape_alterAt {new old node : Node} {place : Place} (at_place : node.at? place = some old)
    (same_shape : new.shape = old.shape) (no_directory : old.shape ≠ .directory) (other : Place) :
    ((node.alterAt (fun _ => some new) place).at? other).map shape =
      (node.at? other).map shape := by
  induction place generalizing node other with
  | nil =>
    obtain rfl : node = old := Option.some.inj at_place
    have replaced : node.alterAt (fun _ => some new) [] = new := by
      rw [alterAt]
      rfl
    rw [replaced]
    cases other with
    | nil =>
      simp only [at?, Option.map_some]
      rw [same_shape]
    | cons name rest =>
      rw [at?_of_not_directory no_directory, at?_of_not_directory (same_shape ▸ no_directory)]
  | cons name rest ih =>
    obtain ⟨entries, child, rfl, looked_up, at_rest⟩ := directory_of_at?_cons at_place
    obtain ⟨entries', altered, others, changed, -⟩ := exists_alterAt_cons new entries name rest
    rw [altered]
    cases other with
    | nil => rfl
    | cons second below =>
      rw [at?_directory_cons, at?_directory_cons]
      by_cases same : second = name
      · subst same
        have below_shape := ih at_rest below
        rw [changed child looked_up, looked_up]
        simpa only [Option.bind_some] using below_shape
      · rw [others second same]

/-- A node that is added to a directory is found there. -/
theorem at?_alterAt_concat {new node : Node} {dir : Place} {entries : NodeEntries} (name : Bytes)
    (at_dir : node.at? dir = some (.directory entries)) :
    (node.alterAt (fun _ => some new) (dir ++ [name])).at? (dir ++ [name]) = some new := by
  induction dir generalizing node with
  | nil =>
    obtain rfl : node = .directory entries := Option.some.inj at_dir
    obtain ⟨entries', altered, -, -, added⟩ := exists_alterAt_cons new entries name []
    rw [List.nil_append, altered, at?_directory_cons, added rfl]
    rfl
  | cons first rest ih =>
    obtain ⟨above, child, rfl, looked_up, at_rest⟩ := directory_of_at?_cons at_dir
    obtain ⟨entries', altered, -, changed, -⟩ :=
      exists_alterAt_cons new above first (rest ++ [name])
    rw [List.cons_append, altered, at?_directory_cons, changed child looked_up, Option.bind_some]
    exact ih at_rest

/-- Adding an entry leaves everything else where it is. -/
theorem shape_alterAt_concat {new node found : Node} {dir other : Place} {entries : NodeEntries}
    {name : Bytes} (at_dir : node.at? dir = some (.directory entries))
    (vacant : entries.lookup name = none) (held : node.at? other = some found) :
    ((node.alterAt (fun _ => some new) (dir ++ [name])).at? other).map shape =
      some found.shape := by
  induction dir generalizing node other with
  | nil =>
    obtain rfl : node = .directory entries := Option.some.inj at_dir
    obtain ⟨entries', altered, others, -, -⟩ := exists_alterAt_cons new entries name []
    rw [List.nil_append, altered]
    cases other with
    | nil =>
      obtain rfl : Node.directory entries = found := Option.some.inj held
      rfl
    | cons second below =>
      rw [at?_directory_cons] at held ⊢
      have different : second ≠ name := by
        rintro rfl
        rw [vacant] at held
        cases held
      rw [others second different, held]
      rfl
  | cons first rest ih =>
    obtain ⟨above, child, rfl, looked_up, at_rest⟩ := directory_of_at?_cons at_dir
    obtain ⟨entries', altered, others, changed, -⟩ :=
      exists_alterAt_cons new above first (rest ++ [name])
    rw [List.cons_append, altered]
    cases other with
    | nil =>
      obtain rfl : Node.directory above = found := Option.some.inj held
      rfl
    | cons second below =>
      rw [at?_directory_cons] at held ⊢
      by_cases same : second = first
      · subst same
        rw [looked_up, Option.bind_some] at held
        rw [changed child looked_up, Option.bind_some]
        exact ih at_rest held
      · rw [others second same, held]
        rfl

end Node

namespace FileSystem

/-- What one tree holds, another one has in the same place. -/
structure Extends (files larger : FileSystem) : Prop where
  working : larger.working = files.working
  shape : ∀ place node, files.at? place = some node →
    (larger.at? place).map Node.shape = some node.shape

/-- Two trees with the same nodes in the same places, but for what files and devices hold. -/
structure SameShape (files other : FileSystem) : Prop where
  working : other.working = files.working
  shape : ∀ place, (other.at? place).map Node.shape = (files.at? place).map Node.shape

variable {files larger other : FileSystem} {purpose : Purpose} {place found : Place} {node : Node}
  {steps : List Step}

theorem SameShape.refl (files : FileSystem) : files.SameShape files :=
  ⟨rfl, fun _ => rfl⟩

theorem SameShape.symm (same : files.SameShape other) : other.SameShape files :=
  ⟨same.working.symm, fun place => (same.shape place).symm⟩

theorem SameShape.trans {third : FileSystem} (first : files.SameShape other)
    (second : other.SameShape third) : files.SameShape third :=
  ⟨second.working.trans first.working, fun place =>
    (second.shape place).trans (first.shape place)⟩

theorem SameShape.extends (same : files.SameShape other) : files.Extends other where
  working := same.working
  shape place node held := by
    rw [same.shape place, held]
    rfl

theorem Extends.exists_at? (ext : files.Extends larger) (held : files.at? place = some node) :
    ∃ node', larger.at? place = some node' ∧ node'.shape = node.shape :=
  Option.map_eq_some_iff.1 (ext.shape place node held)

theorem Extends.exists_directory {entries : NodeEntries} (ext : files.Extends larger)
    (held : files.at? place = some (.directory entries)) :
    ∃ entries', larger.at? place = some (.directory entries') ∧
      ∀ name child, entries.lookup name = some child →
        ∃ child', entries'.lookup name = some child' ∧ child'.shape = child.shape := by
  obtain ⟨node', held', shaped⟩ := ext.exists_at? held
  obtain ⟨entries', rfl⟩ := Node.directory_of_shape shaped
  refine ⟨entries', held', fun name child looked_up => ?_⟩
  have at_child := (at?_child name held).trans looked_up
  obtain ⟨child', at_child', child_shaped⟩ := ext.exists_at? at_child
  exact ⟨child', (at?_child name held').symm.trans at_child', child_shaped⟩

/-! ## Following paths in a larger tree -/

/-- Steps that end at a node or at a link end there in a larger tree. -/
theorem Extends.advance (ext : files.Extends larger) :
    (∀ found node, files.advance purpose place steps = .ended (.ok (.found found node)) →
      ∃ node', larger.advance purpose place steps = .ended (.ok (.found found node')) ∧
        node'.shape = node.shape) ∧
    (∀ directory target rest, files.advance purpose place steps = .link directory target rest →
      larger.advance purpose place steps = .link directory target rest) := by
  induction steps generalizing place with
  | nil =>
    cases here : files.at? place with
    | none => simp [FileSystem.advance, here]
    | some node =>
      obtain ⟨node', here', shaped⟩ := ext.exists_at? here
      simp only [FileSystem.advance, here, here', Stop.ended.injEq, Except.ok.injEq,
        Resolved.found.injEq, reduceCtorEq, false_implies, implies_true, and_true]
      rintro _ _ ⟨rfl, rfl⟩
      exact ⟨node', ⟨rfl, rfl⟩, shaped⟩
  | cons step rest ih =>
    cases here : files.at? place with
    | none => simp [FileSystem.advance, here]
    | some node =>
      cases node with
      | directory entries =>
        obtain ⟨entries', here', children⟩ := ext.exists_directory here
        rw [FileSystem.advance, FileSystem.advance, here, here']
        cases step with
        | stay => exact ih
        | slash => exact ih
        | up => exact ih
        | name name =>
          by_cases slash : purpose = .creation ∧ rest = [.slash]
          · simp [slash]
          simp only [if_neg slash]
          cases looked_up : entries.lookup name with
          | none => by_cases last : rest = [] <;> simp [last]
          | some child =>
            obtain ⟨child', looked_up', shaped⟩ := children name child looked_up
            simp only [looked_up']
            cases child with
            | link target =>
              obtain rfl := Node.link_of_shape shaped
              by_cases last : purpose = .itself ∧ rest = []
              · simp only [last, and_self, if_true, Stop.ended.injEq, Except.ok.injEq,
                  Resolved.found.injEq, reduceCtorEq, false_implies, implies_true, and_true]
                rintro _ _ ⟨rfl, rfl⟩
                exact ⟨_, ⟨rfl, rfl⟩, rfl⟩
              · simp [last]
            | _ =>
              cases child' with
              | link target => cases shaped
              | _ => exact ih
      | lockedDirectory entries =>
        obtain ⟨node', here', shaped⟩ := ext.exists_at? here
        obtain ⟨entries', rfl⟩ := Node.lockedDirectory_of_shape shaped
        rw [FileSystem.advance, FileSystem.advance, here, here']
        cases step with
        | slash => exact ih
        | _ => simp
      | _ => simp [FileSystem.advance, here]

theorem Extends.follow {links : Nat} (ext : files.Extends larger)
    (followed : files.follow purpose links place steps = .ok (.found found node)) :
    ∃ node', larger.follow purpose links place steps = .ok (.found found node') ∧
      node'.shape = node.shape := by
  simp only [← follows_iff] at followed ⊢
  induction followed with
  | ended stops =>
    obtain ⟨node', stops', shaped⟩ := ext.advance.1 found node stops
    exact ⟨node', .ended stops', shaped⟩
  | linked stops _ ih =>
    obtain ⟨node', on, shaped⟩ := ih
    exact ⟨node', .linked (ext.advance.2 _ _ _ stops) on, shaped⟩

/-- A path leads to the same place in a larger tree. -/
theorem Extends.resolve {path : NativePath} (ext : files.Extends larger)
    (resolved : files.resolve purpose path = .ok (.found found node)) :
    ∃ node', larger.resolve purpose path = .ok (.found found node') ∧
      node'.shape = node.shape := by
  obtain ⟨zero_free, nonempty, followed⟩ := follow_of_resolve resolved
  obtain ⟨node', followed', shaped⟩ := ext.follow followed
  refine ⟨node', ?_, shaped⟩
  rw [resolve_of_follow zero_free nonempty, ext.working, followed']

theorem Extends.locate {path : NativePath} (ext : files.Extends larger)
    (not_creation : purpose ≠ .creation)
    (located : files.locate purpose path = .ok (found, node)) :
    ∃ node', larger.locate purpose path = .ok (found, node') ∧ node'.shape = node.shape ∧
      larger.at? found = some node' := by
  obtain ⟨node', resolved', shaped⟩ := ext.resolve (resolve_of_locate located)
  have located' : larger.locate purpose path = .ok (found, node') := by
    rw [FileSystem.locate, resolved']
  exact ⟨node', located', shaped, at?_of_locate not_creation located'⟩

theorem SameShape.isFile {path : NativePath} (same : files.SameShape other)
    (is_file : files.isFile path = true) : other.isFile path = true := by
  unfold FileSystem.isFile at is_file
  split at is_file
  · next node found =>
    obtain ⟨place, located⟩ := locate_of_node found
    obtain ⟨node', located', shaped, -⟩ := same.extends.locate (by simp) located
    rw [FileSystem.isFile, node_of_locate located']
    exact (Node.isFile_of_shape shaped).trans is_file
  · cases is_file

theorem SameShape.isReadable {path : NativePath} (same : files.SameShape other)
    (readable : files.isReadable path = true) : other.isReadable path = true := by
  obtain ⟨place, contents, located⟩ := isReadable_iff_located.1 readable
  obtain ⟨node', located', shaped, -⟩ := same.extends.locate (by simp) located
  obtain ⟨contents', rfl⟩ := Node.file_of_shape shaped
  exact isReadable_iff_located.2 ⟨place, contents', located'⟩

/-! ## Writing -/

theorem sameShape_alterAt {new old : Node} (held : files.at? place = some old)
    (same_shape : new.shape = old.shape) (no_directory : old.shape ≠ .directory) :
    files.SameShape (files.alterAt place fun _ => some new) :=
  ⟨rfl, fun other => Node.shape_alterAt held same_shape no_directory other⟩

/-- Appending to a file changes nothing but what it holds. -/
theorem sameShape_append (files : FileSystem) (place : Place) (bytes : Bytes) :
    files.SameShape (files.append place bytes) := by
  unfold append
  split
  · next contents held => exact sameShape_alterAt held rfl (by simp [Node.shape])
  · exact .refl files

end FileSystem
end TreeBundle
