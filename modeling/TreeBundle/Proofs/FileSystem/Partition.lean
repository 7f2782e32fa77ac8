import TreeBundle.Proofs.FileSystem.Entry
import TreeBundle.Proofs.FileSystem.Listing

/-!
# Listings as partitions

A listing splits the entries of a directory: each entry with a readable name is a subdirectory, a
file or neither, by what it is or, for a link, by what it leads to. Links that lead in a circle lead
to nothing.
-/
namespace TreeBundle
set_option autoImplicit false

namespace Node

def isLink : Node → Bool
  | .link _ => true
  | _ => false

end Node

/-- The names in any list of a listing. -/
def Listing.names (listing : Listing) : List String :=
  listing.subdirs ++ listing.files ++ listing.linked

namespace FileSystem

variable {files : FileSystem} {dir path : NativePath} {entries : NodeEntries} {name : String}

/-! ## Where entries are found -/

theorem locate_target_eq_itself
    (no_link : ∀ found target, files.locate .itself path ≠ .ok (found, .link target)) :
    files.locate .target path = files.locate .itself path := by
  rw [locate, locate, resolve_target_eq_itself]
  intro found target resolved
  refine no_link found target ?_
  rw [locate, resolved]

/-- The entries of a directory are listed at every path that leads to it, links followed. -/
theorem directoryEntries_of_node (found : files.node path = .ok (.directory entries)) :
    files.directoryEntries path = .ok entries := by
  by_cases no_link : ∀ found target, files.locate .itself path ≠ .ok (found, .link target)
  · obtain ⟨place, located⟩ := locate_of_node found
    rw [locate_target_eq_itself no_link] at located
    rw [directoryEntries, located]
  · obtain ⟨place, target, located⟩ :
        ∃ place target, files.locate .itself path = .ok (place, .link target) := by
      simpa using no_link
    rw [directoryEntries, located]
    simp only [found]

/-- What is listed at a path is what the directory that it leads to holds. -/
theorem node_of_listable (nonempty : entries ≠ []) (found : files.listable path = entries) :
    files.node path = .ok (.directory entries) := by
  obtain ⟨place, located⟩ := locate_of_entries nonempty (entries_of_listable nonempty found)
  exact node_of_locate located

theorem nodup_listable (proper : files.Proper) (path : NativePath) :
    ((files.listable path).map Prod.fst).Nodup := by
  by_cases none : files.listable path = []
  · simp [none]
  · obtain ⟨place, located⟩ := locate_of_node (node_of_listable none rfl)
    exact (proper place _ (at?_of_locate (by simp) located)).unique

/-! ## Links in a circle -/

theorem stepsOf_entryName (entry_name : IsEntryName (Utf8.ofString name)) :
    stepsOf (.ofString name) = [.name (Utf8.ofString name)] ∧
      (NativePath.ofString name).isAbsolute = false := by
  have proper : ∀ part ∈ [Utf8.ofString name], NativePath.IsPart part := by
    simpa using isPart_of_entryName entry_name
  have body := bodySteps_ofParts proper
  have ends : (Utf8.ofString name).getLast? ≠ some NativePath.slash :=
    fun last => entry_name.2.2.2.1 (List.mem_of_getLast? last)
  have whole : NativePath.ofString name = .ofParts [Utf8.ofString name] := rfl
  refine ⟨?_, whole ▸ NativePath.isAbsolute_ofParts proper⟩
  have no_slash : (if (NativePath.ofString name).bytes.getLast? = some NativePath.slash
      then [Step.slash] else []) = [] := if_neg ends
  have not_up : Utf8.ofString name ≠ NativePath.up := entry_name.2.2.1
  rw [stepsOf, no_slash, List.append_nil, whole, ← bodySteps, body, List.map_singleton,
    stepOfPart, if_neg not_up]

theorem advance_link {place : Place} {next : String}
    (here : files.at? place = some (.directory entries))
    (looked_up : entries.lookup (Utf8.ofString name) = some (.link next)) :
    files.advance .target place [.name (Utf8.ofString name)] = .link place next [] := by
  rw [advance, here]
  simp [looked_up]

theorem follow_link_zero {place : Place} {next : String}
    (here : files.at? place = some (.directory entries))
    (looked_up : entries.lookup (Utf8.ofString name) = some (.link next)) :
    files.follow .target 0 place [.name (Utf8.ofString name)] = .error .tooManyLinks := by
  rw [follow, advance_link here looked_up]

/-- Following a link to another name of its directory uses up one link. -/
theorem follow_link_succ {place : Place} {next : String} {links : Nat}
    (here : files.at? place = some (.directory entries))
    (looked_up : entries.lookup (Utf8.ofString name) = some (.link next))
    (entry_name : IsEntryName (Utf8.ofString next)) :
    files.follow .target (links + 1) place [.name (Utf8.ofString name)] =
      files.follow .target links place [.name (Utf8.ofString next)] := by
  obtain ⟨steps, relative⟩ := stepsOf_entryName entry_name
  rw [follow, advance_link here looked_up]
  simp only [relative, steps, List.append_nil, Bool.false_eq_true, if_false]

/-- Following links that lead to each other uses up all that may be followed. -/
theorem follow_circle {place : Place} {names : List String} {links : Nat}
    (here : files.at? place = some (.directory entries))
    (circle : ∀ name ∈ names, IsEntryName (Utf8.ofString name) ∧
      ∃ next ∈ names, entries.lookup (Utf8.ofString name) = some (.link next))
    (member : name ∈ names) :
    files.follow .target links place [.name (Utf8.ofString name)] = .error .tooManyLinks := by
  induction links generalizing name with
  | zero =>
    obtain ⟨-, next, -, looked_up⟩ := circle name member
    exact follow_link_zero here looked_up
  | succ links ih =>
    obtain ⟨-, next, inside, looked_up⟩ := circle name member
    rw [follow_link_succ here looked_up (circle next inside).1]
    exact ih inside

/-- Links of a directory that only lead to each other lead nowhere. -/
theorem node_circle {names : List String} (proper : files.Proper)
    (found : files.node dir = .ok (.directory entries))
    (circle : ∀ name ∈ names, ∃ next ∈ names, (Utf8.ofString name, .link next) ∈ entries)
    (member : name ∈ names) :
    files.node (dir.join (.ofString name)) = .error .tooManyLinks := by
  obtain ⟨place, located⟩ := locate_of_node found
  obtain ⟨links, leads⟩ := exists_leadsTo located
  have here := at?_of_locate (by simp) located
  have entries_proper : ProperEntries entries := proper place entries here
  have looked_up : ∀ name ∈ names, IsEntryName (Utf8.ofString name) ∧
      ∃ next ∈ names, entries.lookup (Utf8.ofString name) = some (.link next) := by
    intro name member
    obtain ⟨next, inside, entry⟩ := circle name member
    exact ⟨entries_proper.names _ entry, next, inside,
      Node.lookup_of_mem entries_proper.unique entry⟩
  rw [node, locate, NativePath.ofString, leads.resolve_child (by simp) (looked_up name member).1,
    follow_circle here looked_up member]
  rfl

/-! ## Kinds of entries -/

/-- Whether a node is a directory, or a link whose path leads to one. -/
def LeadsToDirectory (files : FileSystem) (path : NativePath) (node : Node) : Prop :=
  node.isDirectory = true ∨
    ∃ target led, node = .link target ∧ files.node path = .ok led ∧ led.isDirectory = true

/-- Whether a node is a regular file, or a link whose path leads to one. -/
def LeadsToFile (files : FileSystem) (path : NativePath) (node : Node) : Prop :=
  node.isFile = true ∨
    ∃ target led, node = .link target ∧ files.node path = .ok led ∧ led.isFile = true

/-- Whether the entry of a name is a link. -/
def isLinkIn (entries : NodeEntries) (name : String) : Bool :=
  ((entries.lookup (Utf8.ofString name)).map Node.isLink).getD false

theorem kindIn_directory_iff {node : Node} :
    (files.kindIn dir name node = .directory ∨ files.kindIn dir name node = .linkedDirectory) ↔
      files.LeadsToDirectory (dir.join (.ofString name)) node := by
  rw [LeadsToDirectory, kindIn]
  cases node with
  | link target =>
    rw [entryKind]
    cases files.node (dir.join (.ofString name)) with
    | error problem => simp [Node.isDirectory]
    | ok led => cases led <;> simp [Node.isDirectory, Node.isFile]
  | _ => simp [entryKind, Node.isDirectory, Node.isFile]

theorem kindIn_file_iff {node : Node} :
    files.kindIn dir name node = .file ↔ files.LeadsToFile (dir.join (.ofString name)) node := by
  rw [LeadsToFile, kindIn]
  cases node with
  | link target =>
    rw [entryKind]
    cases files.node (dir.join (.ofString name)) with
    | error problem => simp [Node.isFile]
    | ok led => cases led <;> simp [Node.isDirectory, Node.isFile]
  | _ => simp [entryKind, Node.isDirectory, Node.isFile]

theorem kindIn_linkedDirectory_iff (files : FileSystem) (dir : NativePath) (name : String)
    {node : Node} :
    files.kindIn dir name node = .linkedDirectory ↔
      (files.kindIn dir name node = .directory ∨ files.kindIn dir name node = .linkedDirectory) ∧
        node.isLink = true := by
  rw [kindIn]
  cases node with
  | link target =>
    rw [entryKind]
    cases files.node (dir.join (.ofString name)) with
    | error problem => simp
    | ok led => cases led <;> simp [Node.isDirectory, Node.isFile, Node.isLink]
  | _ => simp [entryKind, Node.isDirectory, Node.isFile, Node.isLink]

/-! ## The partition -/

/-- How a listing splits the entries of a directory at a path. -/
structure Splits (files : FileSystem) (dir : NativePath) (entries : NodeEntries)
    (listing : Listing) : Prop where
  subdirs : ∀ name, name ∈ listing.subdirs ↔ ∃ node, (Utf8.ofString name, node) ∈ entries ∧
    files.LeadsToDirectory (dir.join (.ofString name)) node
  files : ∀ name, name ∈ listing.files ↔ ∃ node, (Utf8.ofString name, node) ∈ entries ∧
    files.LeadsToFile (dir.join (.ofString name)) node
  linked : listing.linked = listing.subdirs.filter (isLinkIn entries)

/-- The entries that no listing shows: those whose names are no texts, pipes and devices, and links
that lead nowhere, or to a pipe or a device. -/
inductive Unlisted (files : FileSystem) (dir : NativePath) : Bytes × Node → Prop where
  | unreadable (bytes : Bytes) (node : Node) (no_text : Utf8.string? bytes = none) :
      Unlisted files dir (bytes, node)
  | pipe (bytes : Bytes) : Unlisted files dir (bytes, .pipe)
  | device (bytes : Bytes) (room : Option Nat) : Unlisted files dir (bytes, .device room)
  | link (name : String) (target : NativePath)
      (lost : ∀ node, files.node (dir.join (.ofString name)) = .ok node →
        node = .pipe ∨ ∃ room, node = .device room) :
      Unlisted files dir (Utf8.ofString name, .link target)

theorem linked_eq_filter (unique : (entries.map Prod.fst).Nodup) (rel : String)
    (found : files.listable dir = entries) :
    (files.list dir rel).1.linked = (files.list dir rel).1.subdirs.filter (isLinkIn entries) := by
  simp only [list_eq rel found, namesWhere]
  rw [List.filter_map, List.filter_filter]
  congr 1
  apply List.filter_congr
  intro entry member
  obtain ⟨node, inside, kind⟩ := mem_readable.1 member
  have looked_up : isLinkIn entries entry.name = node.isLink := by
    rw [isLinkIn, Node.lookup_of_mem unique inside]
    rfl
  rw [Function.comp_apply, looked_up, kind, Bool.eq_iff_iff, Bool.and_eq_true, and_comm]
  simpa using kindIn_linkedDirectory_iff files dir entry.name

theorem splits_list (unique : (entries.map Prod.fst).Nodup) (rel : String)
    (found : files.listable dir = entries) :
    files.Splits dir entries (files.list dir rel).1 where
  subdirs name := by simp only [mem_subdirs_iff found, kindIn_directory_iff]
  files name := by simp only [mem_files_iff found, kindIn_file_iff]
  linked := linked_eq_filter unique rel found

theorem not_isFile_of_isDirectory {node : Node} (directory : node.isDirectory = true) :
    node.isFile = false := by
  cases node <;> first | rfl | cases directory

theorem not_leadsToFile_of_directory {node : Node} (leads : files.LeadsToDirectory path node) :
    ¬files.LeadsToFile path node := by
  rcases leads with directory | ⟨target, led, rfl, found, directory⟩
  · rintro (file | ⟨target, led, rfl, -, -⟩)
    · rw [not_isFile_of_isDirectory directory] at file
      cases file
    · cases directory
  · rintro (file | ⟨-, other, -, other_found, file⟩)
    · cases file
    · cases found.symm.trans other_found
      rw [not_isFile_of_isDirectory directory] at file
      cases file

theorem disjoint_list (unique : (entries.map Prod.fst).Nodup) (rel : String)
    (found : files.listable dir = entries) :
    ∀ name ∈ (files.list dir rel).1.subdirs, name ∉ (files.list dir rel).1.files := by
  intro name subdir file
  have splits := splits_list unique rel found
  obtain ⟨node, inside, directory⟩ := (splits.subdirs name).1 subdir
  obtain ⟨other, other_inside, leads⟩ := (splits.files name).1 file
  have same : node = other := Option.some.inj
    ((Node.lookup_of_mem unique inside).symm.trans (Node.lookup_of_mem unique other_inside))
  exact not_leadsToFile_of_directory directory (same ▸ leads)

theorem mem_names_iff {listing : Listing} (splits : files.Splits dir entries listing) :
    name ∈ listing.names ↔ ∃ node, (Utf8.ofString name, node) ∈ entries ∧
      (files.LeadsToDirectory (dir.join (.ofString name)) node ∨
        files.LeadsToFile (dir.join (.ofString name)) node) := by
  rw [Listing.names, List.mem_append, List.mem_append, splits.linked, List.mem_filter,
    splits.subdirs, splits.files]
  constructor
  · rintro ((⟨node, inside, leads⟩ | ⟨node, inside, leads⟩) | ⟨⟨node, inside, leads⟩, -⟩)
    · exact ⟨node, inside, Or.inl leads⟩
    · exact ⟨node, inside, Or.inr leads⟩
    · exact ⟨node, inside, Or.inl leads⟩
  · rintro ⟨node, inside, leads | leads⟩
    · exact Or.inl (Or.inl ⟨node, inside, leads⟩)
    · exact Or.inl (Or.inr ⟨node, inside, leads⟩)

/-- No name of an entry that is neither a directory nor a file, links followed, is listed. -/
theorem Splits.ne_of_unlisted {listing : Listing} {entry : Bytes × Node}
    (splits : files.Splits dir entries listing) (unique : (entries.map Prod.fst).Nodup)
    (inside : entry ∈ entries) (unlisted : files.Unlisted dir entry) :
    ∀ name ∈ listing.names, Utf8.ofString name ≠ entry.1 := by
  intro name listed same
  obtain ⟨node, member, leads⟩ := (mem_names_iff splits).1 listed
  have same_node : node = entry.2 := by
    apply Option.some.inj
    rw [← Node.lookup_of_mem unique member, same]
    exact Node.lookup_of_mem unique inside
  subst same_node
  cases unlisted with
  | unreadable bytes node no_text =>
    rw [Utf8.string?_eq_some_iff.2 same.symm] at no_text
    cases no_text
  | pipe | device => simp [LeadsToDirectory, LeadsToFile, Node.isDirectory, Node.isFile] at leads
  | link other target lost =>
    obtain rfl := Utf8.ofString_inj same
    obtain ⟨led, found, kind⟩ : ∃ led, files.node (dir.join (.ofString name)) = .ok led ∧
        (led.isDirectory = true ∨ led.isFile = true) := by
      rcases leads with (directory | ⟨-, led, -, found, directory⟩) |
        (file | ⟨-, led, -, found, file⟩)
      · cases directory
      · exact ⟨led, found, Or.inl directory⟩
      · cases file
      · exact ⟨led, found, Or.inr file⟩
    rcases lost led found with rfl | ⟨room, rfl⟩ <;> simp [Node.isDirectory, Node.isFile] at kind

/-- A listing is a sorted partition of a directory. Its subdirectories and its files are in strict
order of the bytes of their names and have no name in common. They are exactly the entries with
readable names that are, or as links lead to, directories and regular files, and the linked ones
are those of the subdirectories that are links. Unreadable names, pipes, devices and links that lead
nowhere are in none of the lists, nor are links that only lead to each other. What is no readable
directory has an empty listing. -/
theorem list_sorted_partition (files : FileSystem) (proper : files.Proper) (dir : NativePath)
    (rel : String) :
    ((files.list dir rel).1.subdirs.Pairwise NameBefore ∧
      (files.list dir rel).1.files.Pairwise NameBefore ∧
      ∀ name ∈ (files.list dir rel).1.subdirs, name ∉ (files.list dir rel).1.files) ∧
    (∀ entries, files.node dir = .ok (.directory entries) →
      files.Splits dir entries (files.list dir rel).1 ∧
      (∀ entry ∈ entries, files.Unlisted dir entry →
        ∀ name ∈ (files.list dir rel).1.names, Utf8.ofString name ≠ entry.1) ∧
      ∀ circle : List String,
        (∀ name ∈ circle, ∃ next ∈ circle, (Utf8.ofString name, .link next) ∈ entries) →
        ∀ name ∈ circle, name ∉ (files.list dir rel).1.names) ∧
    ((∀ entries, files.node dir ≠ .ok (.directory entries)) →
      (files.list dir rel).1 = ⟨rel, dir, [], [], []⟩) := by
  refine ⟨?_, ?_, ?_⟩
  · have unique := nodup_listable proper dir
    exact ⟨sorted_subdirs unique rel rfl, sorted_files unique rel rfl, disjoint_list unique rel rfl⟩
  · intro entries directory
    have found := listable_of_entries (directoryEntries_of_node directory)
    have unique : (entries.map Prod.fst).Nodup := found ▸ nodup_listable proper dir
    have splits := splits_list unique rel found
    refine ⟨splits, fun entry inside unlisted => splits.ne_of_unlisted unique inside unlisted, ?_⟩
    intro circle closed name member listed
    obtain ⟨next, -, inside⟩ := closed name member
    refine splits.ne_of_unlisted unique inside ?_ name listed rfl
    apply Unlisted.link
    intro node leads
    rw [node_circle proper directory closed member] at leads
    cases leads
  · intro no_directory
    refine list_of_nothing rel (Classical.byContradiction fun nonempty => ?_)
    exact no_directory _ (node_of_listable nonempty rfl)

/-- A directory with an entry of each kind, links in chains and in circles and some that are locked
among them. -/
def assorted : FileSystem where
  root := .directory
    [(Utf8.ofString "zz", .directory []),
      (Utf8.ofString "src", .directory [(Utf8.ofString "x.c", .file [])]),
      (Utf8.ofString "b.c", .file []),
      (Utf8.ofString "a.c", .file []),
      (Utf8.ofString "alias.c", .link "a.c"),
      (Utf8.ofString "lib", .link "ext"),
      (Utf8.ofString "ext", .link "./src/"),
      (Utf8.ofString "dangling.c", .link "gone.c"),
      (Utf8.ofString "loop", .link "pool"),
      (Utf8.ofString "pool", .link "loop"),
      (Utf8.ofString "pipe.c", .pipe),
      (Utf8.ofString "shut", .lockedDirectory [(Utf8.ofString "y.c", .file [])]),
      (Utf8.ofString "shut.c", .lockedFile []),
      ([0xFF], .file [])]
  working := []

theorem list_sorted_partition_assorted :
    assorted.Proper ∧
    assorted.node (.ofString "/") = .ok assorted.root ∧
    (assorted.list (.ofString "/") ".").1 =
      ⟨".", .ofString "/", ["ext", "lib", "shut", "src", "zz"],
        ["a.c", "alias.c", "b.c", "shut.c"], ["ext", "lib"]⟩ ∧
    (assorted.list (.ofString "/") ".").1.subdirs.Pairwise NameBefore ∧
    assorted.Splits (.ofString "/") assorted.root.entries (assorted.list (.ofString "/") ".").1 ∧
    "pool" ∉ (assorted.list (.ofString "/") ".").1.names ∧
    (assorted.list (.ofString "/shut") ".").1 = ⟨".", .ofString "/shut", [], [], []⟩ := by
  have proper : assorted.Proper := Node.everyDirectory_of_check (by decide +kernel)
  have found : assorted.node (.ofString "/") = .ok assorted.root := rfl
  obtain ⟨⟨sorted, -, -⟩, listed, -⟩ := list_sorted_partition assorted proper (.ofString "/") "."
  obtain ⟨splits, -, circles⟩ := listed assorted.root.entries found
  have unlisted := (list_sorted_partition assorted proper (.ofString "/shut") ".").2.2
  refine ⟨proper, found, by decide +kernel, sorted, splits, ?_, unlisted fun entries found => ?_⟩
  · refine circles ["loop", "pool"] ?_ "pool" (by simp)
    intro name member
    simp only [List.mem_cons, List.not_mem_nil, or_false] at member
    rcases member with rfl | rfl
    · exact ⟨"pool", by simp, by simp [assorted, Node.entries]⟩
    · exact ⟨"loop", by simp, by simp [assorted, Node.entries]⟩
  · cases found

end FileSystem
end TreeBundle
