import TreeBundle.Proofs.FileSystem.Alike
import TreeBundle.Proofs.FileSystem.Created

/-!
# Appending to a created file

What is appended goes to one place and leaves everything else as it was. It may come in any pieces,
and creating the file again takes it all back.
-/
namespace TreeBundle
set_option autoImplicit false

namespace Node

/-! ## Changing one place again -/

section Again

variable {node old new : Node} {place : Place} {entries : NodeEntries} {name : Bytes}

/-- Two changes of one entry are one change. -/
theorem alterEntry_alterEntry {first second : Option Node → Option Node}
    (keeps : ∀ node, (first (some node)).isSome = true) (entries : NodeEntries) :
    alterEntry name second (alterEntry name first entries) =
      alterEntry name (fun node => second (first node)) entries := by
  induction entries with
  | nil => cases changed : first none <;> simp [alterEntry, changed]
  | cons entry entries ih =>
    obtain ⟨other, node⟩ := entry
    by_cases same : other = name
    · obtain ⟨changed, becomes⟩ := Option.isSome_iff_exists.1 (keeps node)
      simp [alterEntry, same, becomes]
    · simp [alterEntry, same, ih]

theorem alterEntry_self {change : Option Node → Option Node} {child : Node}
    (looked_up : entries.lookup name = some child) (same : change (some child) = some child) :
    alterEntry name change entries = entries := by
  induction entries with
  | nil => cases looked_up
  | cons entry entries ih =>
    obtain ⟨other, node⟩ := entry
    by_cases here : other = name
    · subst here
      rw [List.lookup_cons_self] at looked_up
      obtain rfl := Option.some.inj looked_up
      simp [alterEntry, same]
    · have apart : (name == other) = false := beq_eq_false_iff_ne.2 (Ne.symm here)
      rw [List.lookup_cons, apart] at looked_up
      rw [alterEntry, if_neg here, ih looked_up]

/-- To put a node at a place below a directory is to change one entry. -/
theorem exists_alterEntry (new : Node) (name : Bytes) (rest : Place) :
    ∃ change : Option Node → Option Node,
      (∀ entries, (directory entries).alterAt (fun _ => some new) (name :: rest) =
        .directory (alterEntry name change entries)) ∧
      ∀ child, change (some child) = some (child.alterAt (fun _ => some new) rest) := by
  cases rest with
  | nil => exact ⟨fun _ => some new, fun _ => by rw [alterAt], fun _ => by rw [alterAt]; rfl⟩
  | cons next rest =>
    exact ⟨(·.map (alterAt (fun _ => some new) (next :: rest))), fun _ => by rw [alterAt],
      fun _ => rfl⟩

/-- What is put at a place last stays. -/
theorem alterAt_alterAt (first second : Node) (place : Place) (node : Node) :
    (node.alterAt (fun _ => some first) place).alterAt (fun _ => some second) place =
      node.alterAt (fun _ => some second) place := by
  induction place generalizing node with
  | nil => rfl
  | cons name rest ih =>
    cases node with
    | directory entries =>
      cases rest with
      | nil => rw [alterAt, alterAt, alterAt, alterEntry_alterEntry (by simp)]
      | cons next rest =>
        have below : (fun child : Option Node =>
            (child.map (alterAt (fun _ => some first) (next :: rest))).map
              (alterAt (fun _ => some second) (next :: rest))) =
            (·.map (alterAt (fun _ => some second) (next :: rest))) := by
          funext child
          rw [Option.map_map]
          exact congrArg (child.map ·) (funext ih)
        rw [alterAt, alterAt, alterAt, alterEntry_alterEntry (by simp), below]
    | _ => cases rest <;> rfl

theorem alterAt_self (held : node.at? place = some old) :
    node.alterAt (fun _ => some old) place = node := by
  induction place generalizing node with
  | nil =>
    obtain rfl : node = old := Option.some.inj held
    rw [alterAt]
    rfl
  | cons name rest ih =>
    obtain ⟨entries, child, rfl, looked_up, at_rest⟩ := directory_of_at?_cons held
    obtain ⟨change, altered, changes⟩ := exists_alterEntry old name rest
    rw [altered, alterEntry_self looked_up ((changes child).trans (congrArg some (ih at_rest)))]

theorem at?_alterAt (held : node.at? place = some old) :
    (node.alterAt (fun _ => some new) place).at? place = some new := by
  induction place generalizing node with
  | nil =>
    rw [alterAt]
    rfl
  | cons name rest ih =>
    obtain ⟨entries, child, rfl, looked_up, at_rest⟩ := directory_of_at?_cons held
    obtain ⟨entries', altered, -, changed, -⟩ := exists_alterAt_cons new entries name rest
    rw [altered, at?_directory_cons, changed child looked_up, Option.bind_some]
    exact ih at_rest

/-- Everywhere else there is the same node, as far as it is seen by itself. -/
theorem shallow_alterAt (held : node.at? place = some old) (same_shape : new.shape = old.shape)
    (no_directory : old.shape ≠ .directory) {other : Place} (elsewhere : other ≠ place) :
    ((node.alterAt (fun _ => some new) place).at? other).map shallow =
      (node.at? other).map shallow := by
  induction place generalizing node other with
  | nil =>
    obtain rfl : node = old := Option.some.inj held
    obtain ⟨name, rest, rfl⟩ := List.exists_cons_of_ne_nil elsewhere
    have replaced : node.alterAt (fun _ => some new) [] = new := by
      rw [alterAt]
      rfl
    rw [replaced, at?_of_not_directory no_directory,
      at?_of_not_directory (same_shape ▸ no_directory)]
  | cons name rest ih =>
    obtain ⟨entries, child, rfl, looked_up, at_rest⟩ := directory_of_at?_cons held
    obtain ⟨entries', altered, others, changed, -⟩ := exists_alterAt_cons new entries name rest
    rw [altered]
    cases other with
    | nil => rfl
    | cons second below =>
      rw [at?_directory_cons, at?_directory_cons]
      by_cases same : second = name
      · subst same
        have deeper : below ≠ rest := fun same => elsewhere (congrArg (List.cons second) same)
        rw [changed child looked_up, looked_up]
        exact ih at_rest deeper
      · rw [others second same]

end Again

end Node

namespace FileSystem

variable {files : FileSystem} {place : Place} {node : Node} {bytes : Bytes}

theorem outline_alterEntry {change : Option Node → Option Node} {entries : NodeEntries}
    {name : Bytes} {child child' : Node} (looked_up : entries.lookup name = some child)
    (changes : change (some child) = some child') (same_shape : child'.shape = child.shape) :
    outline (Node.alterEntry name change entries) = outline entries := by
  induction entries with
  | nil => cases looked_up
  | cons entry entries ih =>
    obtain ⟨other, node⟩ := entry
    by_cases here : other = name
    · subst here
      rw [List.lookup_cons_self] at looked_up
      obtain rfl := Option.some.inj looked_up
      simp [Node.alterEntry, changes, outline, same_shape]
    · have apart : (name == other) = false := beq_eq_false_iff_ne.2 (Ne.symm here)
      rw [List.lookup_cons, apart] at looked_up
      rw [Node.alterEntry, if_neg here, outline, List.map_cons]
      exact congrArg (List.cons _) (ih looked_up)

/-- Directories keep their entries in order where a node is replaced by one of the same shape. -/
theorem outline_alterAt {old new : Node} (held : node.at? place = some old)
    (same_shape : new.shape = old.shape) (no_directory : old.shape ≠ .directory) {other : Place}
    {entries entries' : NodeEntries} (here : node.at? other = some (.directory entries))
    (there : (node.alterAt (fun _ => some new) place).at? other = some (.directory entries')) :
    outline entries' = outline entries := by
  induction place generalizing node other with
  | nil =>
    obtain rfl : node = old := Option.some.inj held
    cases other with
    | nil =>
      obtain rfl : node = .directory entries := Option.some.inj here
      exact absurd rfl no_directory
    | cons name rest =>
      rw [Node.at?_of_not_directory no_directory] at here
      cases here
  | cons name rest ih =>
    obtain ⟨above, child, rfl, looked_up, at_rest⟩ := Node.directory_of_at?_cons held
    obtain ⟨change, altered, changes⟩ := Node.exists_alterEntry new name rest
    obtain ⟨above', altered', others, changed, -⟩ := Node.exists_alterAt_cons new above name rest
    cases other with
    | nil =>
      rw [altered] at there
      cases here
      cases there
      have child_shape := Node.shape_alterAt at_rest same_shape no_directory []
      exact outline_alterEntry looked_up (changes child) (Option.some.inj child_shape)
    | cons second below =>
      rw [altered', Node.at?_directory_cons] at there
      rw [Node.at?_directory_cons] at here
      by_cases same : second = name
      · subst same
        rw [looked_up] at here
        rw [changed child looked_up] at there
        exact ih at_rest here there
      · rw [others second same, here] at there
        cases there
        rfl

/-! ## Appending -/

end FileSystem

/-- What appending makes of a node. -/
def Node.grown (bytes : Bytes) : Node → Node
  | .file contents => .file (contents ++ bytes)
  | node => node

namespace Node

theorem shape_grown (bytes : Bytes) (node : Node) : (node.grown bytes).shape = node.shape := by
  cases node <;> rfl

theorem grown_nil (node : Node) : node.grown [] = node := by
  cases node with
  | file contents => rw [grown, List.append_nil]
  | _ => rfl

theorem grown_grown (first second : Bytes) (node : Node) :
    (node.grown first).grown second = node.grown (first ++ second) := by
  cases node with
  | file contents => rw [grown, grown, grown, List.append_assoc]
  | _ => rfl

end Node

namespace FileSystem

variable {files : FileSystem} {place : Place} {node : Node}

theorem alterAt_self (held : files.at? place = some node) :
    (files.alterAt place fun _ => some node) = files := by
  rw [alterAt, Node.alterAt_self held]

theorem alterAt_alterAt (first second : Node) (files : FileSystem) (place : Place) :
    ((files.alterAt place fun _ => some first).alterAt place fun _ => some second) =
      files.alterAt place fun _ => some second := by
  rw [alterAt, alterAt, Node.alterAt_alterAt]
  rfl

theorem append_of_at? (held : files.at? place = some node) (bytes : Bytes) :
    files.append place bytes = files.alterAt place fun _ => some (node.grown bytes) := by
  rw [append, held]
  cases node with
  | file contents => rfl
  | _ => exact (alterAt_self held).symm

theorem append_of_vacant (absent : files.at? place = none) (bytes : Bytes) :
    files.append place bytes = files := by
  rw [append, absent]

theorem append_of_directory {entries : NodeEntries}
    (held : files.at? place = some (.directory entries)) (bytes : Bytes) :
    files.append place bytes = files := by
  rw [append, held]

theorem append_nil (files : FileSystem) (place : Place) : files.append place [] = files := by
  cases held : files.at? place with
  | none => rw [append_of_vacant held]
  | some node => rw [append_of_at? held, node.grown_nil, alterAt_self held]

/-- What was appended in two pieces can be appended at once. -/
theorem append_append (files : FileSystem) (place : Place) (first second : Bytes) :
    (files.append place first).append place second = files.append place (first ++ second) := by
  cases held : files.at? place with
  | none => rw [append_of_vacant held, append_of_vacant held, append_of_vacant held]
  | some node =>
    have held' : (files.alterAt place fun _ => some (node.grown first)).at? place =
        some (node.grown first) := Node.at?_alterAt held
    rw [append_of_at? held, append_of_at? held', append_of_at? held, alterAt_alterAt,
      node.grown_grown]

/-! ## What does not change -/

/-- Appending changes nothing, or one node that is no directory. -/
theorem append_changes (files : FileSystem) (place : Place) (bytes : Bytes) :
    files.append place bytes = files ∨
      ∃ node, files.at? place = some node ∧ node.shape ≠ .directory ∧
        files.append place bytes = files.alterAt place fun _ => some (node.grown bytes) := by
  cases held : files.at? place with
  | none => exact Or.inl (by rw [append_of_vacant held])
  | some node =>
    by_cases directory : node.shape = .directory
    · obtain ⟨entries, rfl⟩ := Node.directory_of_shape directory
      exact Or.inl (by rw [append_of_directory held])
    · exact Or.inr ⟨node, rfl, directory, append_of_at? held bytes⟩

/-- Everything else is left as it was, as far as it is seen by itself. -/
theorem shallow_append (files : FileSystem) {place other : Place} (elsewhere : other ≠ place)
    (bytes : Bytes) :
    ((files.append place bytes).at? other).map Node.shallow =
      (files.at? other).map Node.shallow := by
  rcases files.append_changes place bytes with same | ⟨node, held, no_directory, changed⟩
  · rw [same]
  · rw [changed]
    exact Node.shallow_alterAt held (node.shape_grown bytes) no_directory elsewhere

/-- Files that paths lead to elsewhere hold the same. -/
theorem regularBytes_append {path : NativePath}
    (elsewhere : ∀ node, files.locate .target path ≠ .ok (place, node)) (bytes : Bytes) :
    (files.append place bytes).regularBytes path = files.regularBytes path := by
  rcases (files.sameShape_append place bytes).locate_cases .target (by simp) path with
    ⟨problem, located, located'⟩ | ⟨other, node, node', located, located', -, held, held'⟩
  · rw [regularBytes, regularBytes, FileSystem.node, FileSystem.node, located, located']
  · have apart : other ≠ place := by
      rintro rfl
      exact elsewhere node located
    have same := files.shallow_append apart bytes
    rw [held, held'] at same
    exact regularBytes_of_shallow (node_of_locate located') (node_of_locate located)
      (Option.some.inj same)

/-- A path that leads to the place leads to what appending has made of it. -/
theorem locate_append {path : NativePath} (located : files.locate .target path = .ok (place, node))
    (bytes : Bytes) :
    (files.append place bytes).locate .target path = .ok (place, node.grown bytes) := by
  have held : files.at? place = some node := at?_of_locate (by simp) located
  obtain ⟨node', located', -, held'⟩ :=
    (files.sameShape_append place bytes).extends.locate (by simp) located
  have grown : (files.append place bytes).at? place = some (node.grown bytes) := by
    rw [append_of_at? held]
    exact Node.at?_alterAt held
  rw [located', Option.some.inj (held'.symm.trans grown)]

/-- Directories are listed as before. -/
theorem list_append (files : FileSystem) (place : Place) (bytes : Bytes) (path : NativePath)
    (rel : String) : (files.append place bytes).list path rel = files.list path rel := by
  refine (files.sameShape_append place bytes).list_eq ?_ path rel
  intro other entries entries' here there
  have outlines : outline entries' = outline entries := by
    rcases files.append_changes place bytes with same | ⟨node, held, no_directory, changed⟩
    · rw [same, here] at there
      cases there
      rfl
    · rw [changed] at there
      exact outline_alterAt held (node.shape_grown bytes) no_directory here there
  have sorted (entries : NodeEntries) : outline (Sorting.sort byName entries) =
      Sorting.sort (fun left right => decide (left.1 ≤ right.1)) (outline entries) := by
    rw [outline, outline]
    refine Sorting.map_sort ?_ entries
    intro left right
    rfl
  rw [sorted, sorted, outlines]

/-! ## Creating again -/

variable {path : NativePath} {after : FileSystem}

/-- What was created is empty. -/
theorem empty_of_create {contents : Bytes} (created : files.create path = .ok (after, place))
    (held : after.at? place = some (.file contents)) : contents = [] := by
  rcases create_cases created with ⟨old, -, old_held, rfl⟩ | ⟨node, -, node_held, no_file, rfl⟩ |
    ⟨directory, name, entries, -, here, -, rfl, rfl⟩
  · cases (Node.at?_alterAt old_held).symm.trans held
    rfl
  · exact absurd (Option.some.inj (node_held.symm.trans held)) (no_file contents)
  · cases (Node.at?_alterAt_concat name here).symm.trans held
    rfl

theorem create_of_file {contents : Bytes}
    (resolved : files.resolve .creation path = .ok (.found place (.file contents))) :
    files.create path = .ok (files.alterAt place fun _ => some (.file []), place) := by
  rw [create, resolved]

/-- A created file that was written to is found there when it is created again, and emptied. What
else can be written to is found as it was. -/
theorem create_append (created : files.create path = .ok (after, place)) (sent : Bytes) :
    (after.append place sent).create path = .ok (after, place) := by
  rcases create_cases created with ⟨contents, resolved, held, rfl⟩ |
    ⟨node, resolved, held, no_file, rfl⟩ |
    ⟨directory, name, entries, resolved, here, vacant, rfl, rfl⟩
  · have emptied : (files.alterAt place fun _ => some (.file [])).at? place = some (.file []) :=
      Node.at?_alterAt held
    have same : files.SameShape (files.alterAt place fun _ => some (.file sent)) :=
      sameShape_alterAt held rfl (by simp [Node.shape])
    obtain ⟨node, found, shaped⟩ := same.extends.resolve resolved
    obtain ⟨contents', rfl⟩ := Node.file_of_shape shaped
    rw [append_of_at? emptied, alterAt_alterAt, Node.grown, List.nil_append, create_of_file found,
      alterAt_alterAt]
  · have unchanged : node.grown sent = node := by
      cases node with
      | file contents => exact absurd rfl (no_file contents)
      | _ => rfl
    rw [append_of_at? held, unchanged, alterAt_self held]
    exact created
  · have emptied : (files.alterAt (directory ++ [name]) fun _ => some (.file [])).at?
        (directory ++ [name]) = some (.file []) := Node.at?_alterAt_concat name here
    have filled : (files.alterAt (directory ++ [name]) fun _ => some (.file sent)).at?
        (directory ++ [name]) = some (.file sent) := Node.at?_alterAt_concat name here
    have found := (vacant_of_resolve (.file sent) .creation (by simp) resolved).2 _
      (extends_of_vacant here vacant) filled (by simp)
    rw [append_of_at? emptied, alterAt_alterAt, Node.grown, List.nil_append, create_of_file found,
      alterAt_alterAt]

end FileSystem
end TreeBundle
