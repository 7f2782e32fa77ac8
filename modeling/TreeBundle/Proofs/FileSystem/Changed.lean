import TreeBundle.Proofs.FileSystem.Appended

/-!
# Changes at one place

Creating a file where a path leads and appending to it changes nothing but what lies at that place.
What was there stays what it is, apart from what it holds, and a file may be new there.
-/
namespace TreeBundle
set_option autoImplicit false

/-- Elsewhere a new entry that is no directory changes nothing. -/
theorem Node.shallow_alterAt_concat {new node : Node} {dir other : Place} {entries : NodeEntries}
    {name : Bytes} (at_dir : node.at? dir = some (.directory entries))
    (vacant : entries.lookup name = none) (no_directory : new.shape ≠ .directory)
    (elsewhere : other ≠ dir ++ [name]) :
    ((node.alterAt (fun _ => some new) (dir ++ [name])).at? other).map shallow =
      (node.at? other).map shallow := by
  induction dir generalizing node other with
  | nil =>
    obtain rfl : node = .directory entries := Option.some.inj at_dir
    obtain ⟨entries', altered, others, -, added⟩ := exists_alterAt_cons new entries name []
    rw [List.nil_append, altered]
    cases other with
    | nil => rfl
    | cons second below =>
      rw [at?_directory_cons, at?_directory_cons]
      by_cases same : second = name
      · subst same
        -- Neither the tree before nor the new node has anything below the entry.
        have deeper : below ≠ [] := fun none => elsewhere (by rw [none]; rfl)
        obtain ⟨next, rest, rfl⟩ := List.exists_cons_of_ne_nil deeper
        rw [added rfl, vacant, Option.bind_some, at?_of_not_directory no_directory]
        rfl
      · rw [others second same]
  | cons first rest ih =>
    obtain ⟨above, child, rfl, looked_up, at_rest⟩ := directory_of_at?_cons at_dir
    obtain ⟨entries', altered, others, changed, -⟩ :=
      exists_alterAt_cons new above first (rest ++ [name])
    rw [List.cons_append, altered]
    cases other with
    | nil => rfl
    | cons second below =>
      rw [at?_directory_cons, at?_directory_cons]
      by_cases same : second = first
      · subst same
        have deeper : below ≠ rest ++ [name] := fun same =>
          elsewhere (congrArg (List.cons second) same)
        rw [changed child looked_up, looked_up]
        exact ih at_rest deeper
      · rw [others second same]

namespace FileSystem

/-- The place of what was found, or of what could be there. -/
def Resolved.place : Resolved → Place
  | .found place _ => place
  | .vacant directory name => directory ++ [name]

/-- Where a file is created under a path. -/
def Denotes (files : FileSystem) (path : NativePath) (place : Place) : Prop :=
  ∃ resolved, files.resolve .creation path = .ok resolved ∧ resolved.place = place

/-- Files that differ from others at one place at most: there something may hold something else, or
a file may be where nothing was. -/
structure ChangedAt (files other : FileSystem) (place : Place) : Prop where
  working : other.working = files.working
  elsewhere : ∀ spot, spot ≠ place →
    (other.at? spot).map Node.shallow = (files.at? spot).map Node.shallow
  here : (other.at? place).map Node.shape = (files.at? place).map Node.shape ∨
    files.at? place = none ∧ ∃ contents, other.at? place = some (.file contents)

variable {files other after : FileSystem} {path : NativePath} {place : Place}

theorem ChangedAt.refl (files : FileSystem) (place : Place) : files.ChangedAt files place :=
  ⟨rfl, fun _ _ => rfl, .inl rfl⟩

/-- Appending at the place changes nothing else. -/
theorem ChangedAt.append (changed : files.ChangedAt other place) (bytes : Bytes) :
    files.ChangedAt (other.append place bytes) place where
  working := (other.sameShape_append place bytes).working.trans changed.working
  elsewhere spot apart := (other.shallow_append apart bytes).trans (changed.elsewhere spot apart)
  here := by
    have shaped := (other.sameShape_append place bytes).shape place
    rcases changed.here with same | ⟨absent, contents, held⟩
    · exact .inl (shaped.trans same)
    · rw [held] at shaped
      obtain ⟨node, held', is_file⟩ := Option.map_eq_some_iff.1 shaped
      obtain ⟨contents', rfl⟩ := Node.file_of_shape is_file
      exact .inr ⟨absent, contents', held'⟩

theorem denotes_of_create (created : files.create path = .ok (after, place)) :
    files.Denotes path place := by
  rcases create_cases created with ⟨contents, resolved, -, -⟩ | ⟨node, resolved, -, -, -⟩ |
    ⟨directory, name, entries, resolved, -, -, rfl, -⟩
  · exact ⟨_, resolved, rfl⟩
  · exact ⟨_, resolved, rfl⟩
  · exact ⟨_, resolved, rfl⟩

theorem changedAt_of_create (created : files.create path = .ok (after, place)) :
    files.ChangedAt after place := by
  rcases create_cases created with ⟨contents, -, held, rfl⟩ | ⟨node, -, -, -, rfl⟩ |
    ⟨directory, name, entries, -, here, vacant, rfl, rfl⟩
  · have same_shape : (Node.file []).shape = (Node.file contents).shape := rfl
    refine ⟨rfl, fun spot apart => ?_, .inl ?_⟩
    · exact Node.shallow_alterAt held same_shape (by simp [Node.shape]) apart
    · exact Node.shape_alterAt held same_shape (by simp [Node.shape]) place
  · exact .refl _ _
  · refine ⟨rfl, fun spot apart => ?_, .inr ⟨(at?_child name here).trans vacant, [], ?_⟩⟩
    · exact Node.shallow_alterAt_concat here vacant (by simp [Node.shape]) apart
    · exact Node.at?_alterAt_concat name here

end FileSystem
end TreeBundle
