import TreeBundle.Proofs.FileSystem.Tree
import TreeBundle.Proofs.Text.Utf8
import TreeBundle.Walk

/-!
# What a listing holds

The names of a listing are those of the entries that are texts, in the order of their bytes and
without repetition. A name can be entered exactly if it is that of a directory that is no link.
-/
namespace TreeBundle
set_option autoImplicit false

/-- The order of names in a listing. -/
def NameBefore (left right : String) : Prop :=
  Utf8.ofString left < Utf8.ofString right

theorem NameBefore.irrefl (name : String) : ¬NameBefore name name :=
  List.lt_irrefl _

instance : Std.Irrefl NameBefore :=
  ⟨NameBefore.irrefl⟩

instance : Std.Antisymm NameBefore :=
  ⟨fun name _ before after => absurd (List.lt_trans before after) (NameBefore.irrefl name)⟩

namespace FileSystem

variable {files : FileSystem} {dir : NativePath} {entries : NodeEntries} {name : String}

/-- The entries that a listing of a path goes by: none where the path cannot be listed. -/
def listable (files : FileSystem) (dir : NativePath) : NodeEntries :=
  match files.directoryEntries dir with
  | .ok entries => entries
  | .error _ => []

theorem listable_of_entries (found : files.directoryEntries dir = .ok entries) :
    files.listable dir = entries := by
  rw [listable, found]

/-- What a listing keeps of entries: those with readable names, sorted by name. -/
def readable (files : FileSystem) (dir : NativePath) (entries : NodeEntries) : List Entry :=
  ((Sorting.sort byName entries).map (files.readEntry dir)).filterMap Prod.fst

/-- The kind of an entry of a directory. -/
def kindIn (files : FileSystem) (dir : NativePath) (name : String) (node : Node) : EntryKind :=
  files.entryKind (dir.join (.ofString name)) node

/-- An entry whose name is a text is read under that name. -/
theorem readEntry_ofString (text : String) (node : Node) :
    (files.readEntry dir (Utf8.ofString text, node)).1 =
      some ⟨text, files.kindIn dir text node⟩ := by
  have decoded : Utf8.string? (Utf8.ofString text) = some text := Utf8.string?_eq_some_iff.2 rfl
  simp only [readEntry, decoded, kindIn, NativePath.ofString]
  split
  · next same => rw [same]
  · rfl

theorem readEntry_eq_some_iff {entry : Bytes × Node} {found : Entry} :
    (files.readEntry dir entry).1 = some found ↔
      entry.1 = Utf8.ofString found.name ∧ found.kind = files.kindIn dir found.name entry.2 := by
  obtain ⟨bytes, node⟩ := entry
  constructor
  · intro read
    cases decoded : Utf8.string? bytes with
    | none => simp [readEntry, decoded] at read
    | some text =>
      obtain rfl := Utf8.string?_eq_some_iff.1 decoded
      rw [readEntry_ofString] at read
      obtain rfl := Option.some.inj read
      exact ⟨rfl, rfl⟩
  · rintro ⟨rfl, kind⟩
    rw [readEntry_ofString, ← kind]

theorem mem_readable {found : Entry} :
    found ∈ files.readable dir entries ↔
      ∃ node, (Utf8.ofString found.name, node) ∈ entries ∧
        found.kind = files.kindIn dir found.name node := by
  simp only [readable, List.mem_filterMap, List.mem_map]
  constructor
  · rintro ⟨-, ⟨⟨bytes, node⟩, inside, rfl⟩, read⟩
    obtain ⟨rfl, kind⟩ := readEntry_eq_some_iff.1 read
    exact ⟨node, (Sorting.perm_sort byName entries).mem_iff.1 inside, kind⟩
  · rintro ⟨node, inside, kind⟩
    exact ⟨_, ⟨_, (Sorting.perm_sort byName entries).mem_iff.2 inside, rfl⟩,
      readEntry_eq_some_iff.2 ⟨rfl, kind⟩⟩

theorem mem_namesWhere {choose : EntryKind → Bool} :
    name ∈ namesWhere choose (files.readable dir entries) ↔
      ∃ node, (Utf8.ofString name, node) ∈ entries ∧
        choose (files.kindIn dir name node) = true := by
  simp only [namesWhere, List.mem_map, List.mem_filter]
  constructor
  · rintro ⟨found, ⟨inside, chosen⟩, rfl⟩
    obtain ⟨node, inside, kind⟩ := mem_readable.1 inside
    exact ⟨node, inside, kind ▸ chosen⟩
  · rintro ⟨node, inside, chosen⟩
    exact ⟨⟨name, _⟩, ⟨mem_readable.2 ⟨node, inside, rfl⟩, chosen⟩, rfl⟩

theorem sorted_sort (unique : (entries.map Prod.fst).Nodup) :
    (Sorting.sort byName entries).Pairwise fun left right => left.1 < right.1 := by
  have ordered := @Sorting.pairwise_sort _ byName
    (fun a b c before after => decide_eq_true
      (List.le_trans (of_decide_eq_true before) (of_decide_eq_true after)))
    (fun a b => (List.le_total a.1 b.1).imp decide_eq_true decide_eq_true) entries
  have distinct : (Sorting.sort byName entries).Pairwise fun left right => left.1 ≠ right.1 :=
    List.pairwise_map.1 (((Sorting.perm_sort byName entries).map Prod.fst).nodup_iff.2 unique)
  exact (ordered.and distinct).imp fun ⟨before, different⟩ =>
    Std.lt_of_le_of_ne (of_decide_eq_true before) different

/-- The names in a listing come in the order of their bytes, each of them once. -/
theorem sorted_namesWhere (unique : (entries.map Prod.fst).Nodup) (choose : EntryKind → Bool) :
    (namesWhere choose (files.readable dir entries)).Pairwise NameBefore := by
  have sorted : (files.readable dir entries).Pairwise
      fun left right => NameBefore left.name right.name := by
    rw [readable, List.filterMap_map]
    refine List.Pairwise.filterMap _ ?_ (sorted_sort unique)
    intro left right before found_left read_left found_right read_right
    rw [NameBefore, ← (readEntry_eq_some_iff.1 read_left).1,
      ← (readEntry_eq_some_iff.1 read_right).1]
    exact before
  exact List.pairwise_map.2 (sorted.filter _)

theorem kindIn_eq_directory_iff {node : Node} :
    files.kindIn dir name node = .directory ↔ node.isDirectory = true := by
  cases node with
  | link target =>
    rw [kindIn, entryKind]
    repeat' split
    all_goals simp [Node.isDirectory]
  | _ => simp [kindIn, entryKind, Node.isDirectory, Node.isFile]

theorem rel_list (dir : NativePath) (rel : String) : (files.list dir rel).1.rel = rel := by
  rw [list]
  split <;> rfl

theorem path_list (dir : NativePath) (rel : String) : (files.list dir rel).1.path = dir := by
  rw [list]
  split <;> rfl

/-- A listing, by the entries that it goes by. -/
theorem list_eq (rel : String) (found : files.listable dir = entries) :
    (files.list dir rel).1 =
      ⟨rel, dir,
        namesWhere (fun kind => kind == .directory || kind == .linkedDirectory)
          (files.readable dir entries),
        namesWhere (· == .file) (files.readable dir entries),
        namesWhere (· == .linkedDirectory) (files.readable dir entries)⟩ := by
  rw [← found, list, listable]
  cases files.directoryEntries dir <;> rfl

theorem list_of_nothing (rel : String) (found : files.listable dir = []) :
    (files.list dir rel).1 = ⟨rel, dir, [], [], []⟩ :=
  list_eq rel found

theorem sorted_files (unique : (entries.map Prod.fst).Nodup) (rel : String)
    (found : files.listable dir = entries) :
    (files.list dir rel).1.files.Pairwise NameBefore := by
  simp only [list_eq rel found]
  exact sorted_namesWhere unique _

theorem sorted_subdirs (unique : (entries.map Prod.fst).Nodup) (rel : String)
    (found : files.listable dir = entries) :
    (files.list dir rel).1.subdirs.Pairwise NameBefore := by
  simp only [list_eq rel found]
  exact sorted_namesWhere unique _

theorem mem_files_iff {rel : String} (found : files.listable dir = entries) :
    name ∈ (files.list dir rel).1.files ↔
      ∃ node, (Utf8.ofString name, node) ∈ entries ∧ files.kindIn dir name node = .file := by
  rw [list_eq rel found]
  simp only [mem_namesWhere, beq_iff_eq]

theorem mem_subdirs_iff {rel : String} (found : files.listable dir = entries) :
    name ∈ (files.list dir rel).1.subdirs ↔
      ∃ node, (Utf8.ofString name, node) ∈ entries ∧
        (files.kindIn dir name node = .directory ∨
          files.kindIn dir name node = .linkedDirectory) := by
  rw [list_eq rel found]
  simp only [mem_namesWhere, Bool.or_eq_true, beq_iff_eq]

theorem entries_of_listable (nonempty : entries ≠ []) (found : files.listable dir = entries) :
    files.directoryEntries dir = .ok entries := by
  rw [listable] at found
  split at found
  · next entries listed => rw [listed, found]
  · exact absurd found.symm nonempty

/-- The subdirectories that a walk can enter are the directories that are no links. -/
theorem canEnter_iff {rel : String} (unique : (entries.map Prod.fst).Nodup)
    (found : files.listable dir = entries) :
    (files.list dir rel).1.canEnter name = true ↔
      ∃ node, entries.lookup (Utf8.ofString name) = some node ∧ node.isDirectory = true := by
  rw [list_eq rel found, Listing.canEnter]
  simp only [Bool.and_eq_true, Bool.not_eq_true', List.contains_iff_mem, mem_namesWhere,
    Bool.or_eq_true, beq_iff_eq]
  constructor
  · rintro ⟨⟨node, inside, kind⟩, not_linked⟩
    rcases kind with kind | kind
    · exact ⟨node, Node.lookup_of_mem unique inside, kindIn_eq_directory_iff.1 kind⟩
    · have linked : name ∈ namesWhere (· == .linkedDirectory) (files.readable dir entries) :=
        mem_namesWhere.2 ⟨node, inside, by simp [kind]⟩
      simp [linked] at not_linked
  · rintro ⟨node, looked_up, is_directory⟩
    have kind : files.kindIn dir name node = .directory := kindIn_eq_directory_iff.2 is_directory
    refine ⟨⟨node, Node.mem_of_lookup looked_up, Or.inl kind⟩, ?_⟩
    have not_linked : name ∉ namesWhere (· == .linkedDirectory) (files.readable dir entries) := by
      intro linked
      obtain ⟨other, member, linked⟩ := mem_namesWhere.1 linked
      have same := (Node.lookup_of_mem unique member).symm.trans looked_up
      cases Option.some.inj same
      simp [kind] at linked
    simpa using not_linked

end FileSystem
end TreeBundle
