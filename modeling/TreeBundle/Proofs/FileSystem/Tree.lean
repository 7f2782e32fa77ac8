import TreeBundle.FileSystem.Node

/-!
# Trees that an operating system can hold

In such a tree each directory has proper names, each of them once. What holds of every directory
of a tree holds of every directory below any of its nodes, and each step down leads to a smaller
node.
-/
namespace TreeBundle
set_option autoImplicit false

/-- A name that a directory can hold: not empty, neither `.` nor `..`, without slashes and zeros. -/
def IsEntryName (name : Bytes) : Prop :=
  name ≠ [] ∧ name ≠ [0x2E] ∧ name ≠ [0x2E, 0x2E] ∧ 0x2F ∉ name ∧ 0x00 ∉ name

instance (name : Bytes) : Decidable (IsEntryName name) :=
  inferInstanceAs (Decidable (_ ∧ _ ∧ _ ∧ _ ∧ _))

structure ProperEntries (entries : NodeEntries) : Prop where
  names : ∀ entry ∈ entries, IsEntryName entry.1
  unique : (entries.map Prod.fst).Nodup

instance (entries : NodeEntries) : Decidable (ProperEntries entries) :=
  decidable_of_iff ((∀ entry ∈ entries, IsEntryName entry.1) ∧ (entries.map Prod.fst).Nodup)
    ⟨fun ⟨names, unique⟩ => ⟨names, unique⟩, fun ⟨names, unique⟩ => ⟨names, unique⟩⟩

theorem properEntries_nil : ProperEntries [] :=
  ⟨by simp, by simp⟩

def backslash : UInt8 := 0x5C

def NoBackslashIn (entries : NodeEntries) : Prop :=
  ∀ entry ∈ entries, backslash ∉ entry.1

instance (entries : NodeEntries) : Decidable (NoBackslashIn entries) :=
  inferInstanceAs (Decidable (∀ entry ∈ entries, backslash ∉ entry.1))

theorem noBackslashIn_nil : NoBackslashIn [] := by
  simp [NoBackslashIn]

namespace Node

/-- Whether a condition holds of each directory that places lead to. -/
def EveryDirectory (condition : NodeEntries → Prop) (node : Node) : Prop :=
  ∀ place entries, node.at? place = some (.directory entries) → condition entries

theorem at?_cons (node : Node) (name : Bytes) (rest : Place) :
    node.at? (name :: rest) = (node.child? name).bind (·.at? rest) :=
  rfl

theorem at?_append (node : Node) (front back : Place) :
    node.at? (front ++ back) = (node.at? front).bind (·.at? back) := by
  induction front generalizing node with
  | nil => rfl
  | cons name front ih =>
    rw [List.cons_append, at?_cons, at?_cons]
    cases node.child? name with
    | none => rfl
    | some child => exact ih child

theorem at?_directory_cons (entries : NodeEntries) (name : Bytes) (rest : Place) :
    (directory entries).at? (name :: rest) = (entries.lookup name).bind (·.at? rest) :=
  rfl

/-- A place below something lies in a directory. -/
theorem directory_of_at?_cons {node found : Node} {name : Bytes} {rest : Place}
    (at_rest : node.at? (name :: rest) = some found) :
    ∃ entries child, node = .directory entries ∧ entries.lookup name = some child ∧
      child.at? rest = some found := by
  cases node with
  | directory entries =>
    rw [at?_directory_cons, Option.bind_eq_some_iff] at at_rest
    obtain ⟨child, looked_up, at_rest⟩ := at_rest
    exact ⟨entries, child, rfl, looked_up, at_rest⟩
  | _ => cases at_rest

theorem EveryDirectory.at {condition : NodeEntries → Prop} {node found : Node} {place : Place}
    (every : node.EveryDirectory condition) (at_place : node.at? place = some found) :
    found.EveryDirectory condition := by
  intro below entries at_below
  refine every (place ++ below) entries ?_
  rw [at?_append, at_place]
  exact at_below

theorem EveryDirectory.here {condition : NodeEntries → Prop} {entries : NodeEntries}
    (every : (directory entries).EveryDirectory condition) : condition entries :=
  every [] entries rfl

theorem mem_of_lookup {entries : NodeEntries} {name : Bytes} {node : Node}
    (looked_up : entries.lookup name = some node) : (name, node) ∈ entries := by
  induction entries with
  | nil => cases looked_up
  | cons entry entries ih =>
    rw [List.lookup_cons] at looked_up
    split at looked_up
    · next same =>
      rw [← Option.some.inj looked_up, beq_iff_eq.1 same]
      exact List.mem_cons_self
    · exact List.mem_cons_of_mem _ (ih looked_up)

theorem lookup_of_mem {entries : NodeEntries} {name : Bytes} {node : Node}
    (unique : (entries.map Prod.fst).Nodup) (member : (name, node) ∈ entries) :
    entries.lookup name = some node := by
  induction entries with
  | nil => cases member
  | cons entry entries ih =>
    obtain ⟨absent, unique⟩ := List.nodup_cons.1 unique
    rw [List.lookup_cons]
    rcases List.mem_cons.1 member with rfl | member
    · simp
    · have different : (name == entry.1) = false := by
        rw [beq_eq_false_iff_ne]
        rintro rfl
        exact absent (List.mem_map.2 ⟨_, member, rfl⟩)
      rw [different]
      exact ih unique member

mutual

/-- Checks every directory of a tree. -/
def allDirectories (check : NodeEntries → Bool) : Node → Bool
  | .directory entries => check entries && allBelow check entries
  | _ => true

def allBelow (check : NodeEntries → Bool) : List (Bytes × Node) → Bool
  | [] => true
  | (_, node) :: rest => node.allDirectories check && allBelow check rest

end

theorem allDirectories_of_lookup {check : NodeEntries → Bool} {entries : NodeEntries}
    {name : Bytes} {child : Node} (passed : allBelow check entries = true)
    (looked_up : entries.lookup name = some child) : child.allDirectories check = true := by
  have member := mem_of_lookup looked_up
  clear looked_up
  induction entries with
  | nil => cases member
  | cons entry entries ih =>
    obtain ⟨other, node⟩ := entry
    rw [allBelow, Bool.and_eq_true] at passed
    rcases List.mem_cons.1 member with same | member
    · cases same
      exact passed.1
    · exact ih passed.2 member

/-- A tree that passes a check has a condition hold of its directories. -/
theorem everyDirectory_of_check {condition : NodeEntries → Prop} [DecidablePred condition]
    {node : Node} (passed : node.allDirectories (fun entries => condition entries) = true) :
    node.EveryDirectory condition := by
  intro place
  induction place generalizing node with
  | nil =>
    intro entries at_place
    obtain rfl := Option.some.inj at_place
    rw [allDirectories, Bool.and_eq_true] at passed
    exact of_decide_eq_true passed.1
  | cons name rest ih =>
    intro found at_place
    obtain ⟨entries, child, rfl, looked_up, at_rest⟩ := directory_of_at?_cons at_place
    rw [allDirectories, Bool.and_eq_true] at passed
    exact ih (allDirectories_of_lookup passed.2 looked_up) found at_rest

theorem exists_size_eq_succ (node : Node) : ∃ less, node.size = less + 1 := by
  cases node <;> simp [size]

theorem size_le_entriesSize {entries : NodeEntries} {name : Bytes} {child : Node}
    (looked_up : entries.lookup name = some child) : child.size ≤ entriesSize entries := by
  have member := mem_of_lookup looked_up
  clear looked_up
  induction entries with
  | nil => cases member
  | cons entry entries ih =>
    obtain ⟨other, node⟩ := entry
    rw [entriesSize]
    rcases List.mem_cons.1 member with same | member
    · cases same
      exact Nat.le_add_right _ _
    · exact Nat.le_trans (ih member) (Nat.le_add_left _ _)

/-- An entry of a directory is smaller than the directory. -/
theorem size_lt_of_lookup {entries : NodeEntries} {name : Bytes} {child : Node}
    (looked_up : entries.lookup name = some child) : child.size < (directory entries).size := by
  rw [size]
  exact Nat.lt_succ_of_le (size_le_entriesSize looked_up)

/-- The entries that a directory shows; none if it is locked, or no directory. -/
def entries : Node → NodeEntries
  | .directory entries => entries
  | _ => []

theorem size_directory_entries_le (node : Node) : (directory node.entries).size ≤ node.size := by
  cases node <;> simp [entries, size, entriesSize]

/-- A directory at a place shows entries. -/
def ShowsAt (top : Node) (place : Place) (entries : NodeEntries) : Prop :=
  ∃ node, top.at? place = some node ∧ node.isDirectory = true ∧ node.entries = entries

theorem showsAt_of_at? {top : Node} {place : Place} {entries : NodeEntries}
    (at_place : top.at? place = some (.directory entries)) : top.ShowsAt place entries :=
  ⟨_, at_place, rfl, rfl⟩

theorem ShowsAt.at?_concat {top : Node} {place : Place} {entries : NodeEntries}
    (shows_at : top.ShowsAt place entries) (name : Bytes) :
    top.at? (place ++ [name]) = entries.lookup name := by
  obtain ⟨node, at_place, is_directory, rfl⟩ := shows_at
  rw [at?_append, at_place, Option.bind_some]
  cases node with
  | directory entries => exact Option.bind_fun_some _
  | lockedDirectory entries => rfl
  | _ => cases is_directory

theorem ShowsAt.child {top child : Node} {place : Place} {entries : NodeEntries} {name : Bytes}
    (shows_at : top.ShowsAt place entries) (looked_up : entries.lookup name = some child)
    (is_directory : child.isDirectory = true) : top.ShowsAt (place ++ [name]) child.entries :=
  ⟨child, (shows_at.at?_concat name).trans looked_up, is_directory, rfl⟩

/-- What holds of every directory holds of what directories show, if it holds of nothing. -/
theorem EveryDirectory.shown {condition : NodeEntries → Prop} {top : Node} {place : Place}
    {entries : NodeEntries} (every : top.EveryDirectory condition) (of_nothing : condition [])
    (shows_at : top.ShowsAt place entries) : condition entries := by
  obtain ⟨node, at_place, -, rfl⟩ := shows_at
  cases node with
  | directory entries => exact every place entries at_place
  | _ => exact of_nothing

theorem size_le_of_at? {node found : Node} {place : Place}
    (at_place : node.at? place = some found) : found.size ≤ node.size := by
  induction place generalizing node with
  | nil =>
    cases at_place
    exact Nat.le_refl _
  | cons name rest ih =>
    obtain ⟨entries, child, rfl, looked_up, at_rest⟩ := directory_of_at?_cons at_place
    exact Nat.le_trans (ih at_rest) (Nat.le_of_lt (size_lt_of_lookup looked_up))

end Node

namespace FileSystem

/-- A tree that an operating system can hold. -/
def Proper (files : FileSystem) : Prop :=
  files.root.EveryDirectory ProperEntries

/-- No entry of any directory has a backslash in its name. -/
def NoBackslash (files : FileSystem) : Prop :=
  files.root.EveryDirectory NoBackslashIn

/-- A tree with a directory of its own files, one of vendored files, and a link to the latter. -/
def vendored : FileSystem where
  root := .directory
    [(Utf8.ofString "lib", .link "vendor"),
      (Utf8.ofString "src", .directory [(Utf8.ofString "x.c", .file (Utf8.ofString "own"))]),
      (Utf8.ofString "vendor", .directory [(Utf8.ofString "x.c", .file (Utf8.ofString "other"))])]
  working := []

/-- A tree with a file beside a directory whose name reads as the path of a file inside of it. -/
def backslashed : FileSystem where
  root := .directory
    [(Utf8.ofString "vendor", .directory [(Utf8.ofString "x.c", .file (Utf8.ofString "inner"))]),
      (Utf8.ofString "vendor\\x.c", .file (Utf8.ofString "outer"))]
  working := []

theorem proper_vendored : vendored.Proper :=
  Node.everyDirectory_of_check (by decide +kernel)

theorem noBackslash_vendored : vendored.NoBackslash :=
  Node.everyDirectory_of_check (by decide +kernel)

theorem at?_append (files : FileSystem) (front back : Place) :
    files.at? (front ++ back) = (files.at? front).bind (·.at? back) :=
  files.root.at?_append front back

end FileSystem
end TreeBundle
