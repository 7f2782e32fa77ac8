import Mathlib.Data.List.Basic
import TreeBundle.Proofs.Decide.Prune
import TreeBundle.Proofs.FileSystem.Locate
import TreeBundle.Proofs.Pack.Passes

/-!
# The files that a walk selects

In a tree without backslashes in its names the walk writes exactly the files that it selects:
those below directories that are no links and not excluded, which the rules admit. They come in
the order of the tree, a directory's files before those of its subdirectories.
-/
namespace TreeBundle
set_option autoImplicit false

/-- The order of the files of a tree. In each directory its own files come first, by their names,
and then what lies in its subdirectories, by the names of these. -/
def Trail.Precedes : Trail → Trail → Prop
  | [left], [right] => NameBefore left right
  | [_], _ :: _ :: _ => True
  | left :: next :: rest, right :: other :: more =>
    NameBefore left right ∨ left = right ∧ Precedes (next :: rest) (other :: more)
  | _, _ => False

theorem Trail.Precedes.irrefl (trail : Trail) : ¬trail.Precedes trail := by
  induction trail with
  | nil => exact id
  | cons name rest ih =>
    cases rest with
    | nil => exact NameBefore.irrefl name
    | cons next others =>
      rintro (before | ⟨-, before⟩)
      · exact NameBefore.irrefl name before
      · exact ih before

namespace PackJob

variable {σ δ : Type}

/-- Whether the walk selects the file at a trail below the directory at `dirs`. The tree holding
something there means that all directories on the way are no links. -/
structure Selects (job : PackJob σ δ) (files : FileSystem) (top : Node) (dirs trail : Trail) :
    Prop where
  held : (top.at? (dirs ++ trail).place).isSome = true
  readable : files.isReadable (job.filePath (dirs ++ trail).rel) = true
  not_excluded : ∀ front back, trail = front ++ back → back ≠ [] →
    job.rules.isExcludedDir (Trail.rel (dirs ++ front)) = false
  admitted : ∃ front name, trail = front ++ [name] ∧
    job.rules.admits files name (job.filePath (Trail.rel (dirs ++ front))) = true
  not_skipped : job.isSkipped (job.filePath (dirs ++ trail).rel) = false

/-- The trails of the files that the walk writes below a directory, going at most `depth` deep. -/
def trails (job : PackJob σ δ) (files : FileSystem) : Nat → Trail → List Trail
  | 0, _ => []
  | depth + 1, dirs =>
    (job.chosenIn files (job.listing files dirs.rel)).map (fun name => [name]) ++
      (job.entered (job.listing files dirs.rel)).flatMap fun name =>
        (trails job files depth (dirs ++ [name])).map (name :: ·)

/-- The trails below a directory of the names that are picked from each directory that the walk goes
on to, going at most `depth` deep. -/
def gather (job : PackJob σ δ) (files : FileSystem) (pick : String → List String) :
    Nat → Trail → List Trail
  | 0, _ => []
  | depth + 1, dirs =>
    (pick dirs.rel).map (fun name => [name]) ++
      (job.entered (job.listing files dirs.rel)).flatMap fun name =>
        (gather job files pick depth (dirs ++ [name])).map (name :: ·)

/-- Whether the walk goes down along some names from a directory. -/
def GoesDown (job : PackJob σ δ) (files : FileSystem) (dirs : Trail) : Trail → Prop
  | [] => True
  | name :: rest =>
    name ∈ job.entered (job.listing files dirs.rel) ∧ GoesDown job files (dirs ++ [name]) rest

section Directory

variable {job : PackJob σ δ} {files : FileSystem} {place : Place} {links : Nat} {top : Node}
  {dirs : Trail} {entries : NodeEntries} {name : String}

/-! ## One directory -/

theorem filePath_rel (proper : ∀ name ∈ dirs, IsFileName name) :
    job.filePath dirs.rel = job.root.join (.ofParts dirs.place) := by
  rw [filePath, Trail.ofRelative_rel proper]

/-- A file is looked at where it is listed and written from the same path. -/
theorem join_filePath_rel (proper : ∀ name ∈ dirs, IsFileName name)
    (name_proper : IsFileName name) :
    (job.filePath dirs.rel).join (.ofString name) = job.filePath (dirs ++ [name]).rel := by
  have both := Trail.isFileName_concat proper name_proper
  have name_part : NativePath.IsPart (Utf8.ofString name) :=
    NativePath.isPart_of_plain name_proper.1
  rw [filePath_rel proper, filePath_rel both, NativePath.ofString,
    NativePath.join_ofParts_join _ (Trail.isPart proper) name_part, Trail.place_append]
  rfl

variable (rooted : files.RootedAt job.root place links top)
  (at_dirs : top.ShowsAt dirs.place entries)

include rooted at_dirs

theorem properEntries_of_shown : ProperEntries entries :=
  rooted.proper.shown properEntries_nil at_dirs

theorem isFileName_of_shown : ∀ name ∈ dirs, IsFileName name := by
  obtain ⟨node, held, -⟩ := at_dirs
  exact Trail.isFileName_of_at? rooted.proper rooted.no_backslash held

theorem isFileName_of_lookup {child : Node}
    (looked_up : entries.lookup (Utf8.ofString name) = some child) : IsFileName name :=
  isFileName_of_entry (properEntries_of_shown rooted at_dirs)
    (rooted.no_backslash.shown noBackslashIn_nil at_dirs) (Node.mem_of_lookup looked_up)

/-- An entry is known by the path of its trail. -/
theorem join_rel_of_lookup {child : Node}
    (looked_up : entries.lookup (Utf8.ofString name) = some child) :
    RelPath.join dirs.rel name = (dirs ++ [name]).rel :=
  Trail.join_rel (isFileName_of_shown rooted at_dirs) (isFileName_of_lookup rooted at_dirs looked_up)

theorem join_filePath_of_lookup {child : Node}
    (looked_up : entries.lookup (Utf8.ofString name) = some child) :
    (job.filePath dirs.rel).join (.ofString name) = job.filePath (dirs ++ [name]).rel :=
  join_filePath_rel (isFileName_of_shown rooted at_dirs)
    (isFileName_of_lookup rooted at_dirs looked_up)

theorem listable_filePath : files.listable (job.filePath dirs.rel) = entries := by
  have proper := isFileName_of_shown rooted at_dirs
  obtain ⟨node, held, is_directory, rfl⟩ := at_dirs
  have not_creation : FileSystem.Purpose.itself ≠ .creation := by simp
  have located := rooted.leads.locate_directory not_creation rooted.held proper held is_directory
  rw [filePath_rel proper, FileSystem.listable, FileSystem.directoryEntries, located]
  cases node with
  | directory entries => rfl
  | lockedDirectory entries => rfl
  | _ => cases is_directory

/-- The path of an entry that is no link leads to it. -/
theorem node_of_lookup {child : Node} (looked_up : entries.lookup (Utf8.ofString name) = some child)
    (no_link : ∀ target, child ≠ .link target) :
    files.node (job.filePath (dirs ++ [name]).rel) = .ok child := by
  have proper := isFileName_of_shown rooted at_dirs
  have name_proper := isFileName_of_lookup rooted at_dirs looked_up
  obtain ⟨node, held, is_directory, rfl⟩ := at_dirs
  cases node with
  | directory entries =>
    rw [filePath_rel (Trail.isFileName_concat proper name_proper), FileSystem.node,
      rooted.leads.locate_entry (by simp) rooted.held proper name_proper held looked_up
        (Or.inr no_link)]
    rfl
  | _ => cases looked_up

/-- An entry is listed as what its path leads to. -/
theorem kindIn_iff {child : Node}
    (looked_up : entries.lookup (Utf8.ofString name) = some child) :
    (files.kindIn (job.filePath dirs.rel) name child = .file ↔
      files.isFile (job.filePath (dirs ++ [name]).rel) = true) ∧
    (files.kindIn (job.filePath dirs.rel) name child = .directory ∨
        files.kindIn (job.filePath dirs.rel) name child = .linkedDirectory ↔
      ∃ node, files.node (job.filePath (dirs ++ [name]).rel) = .ok node ∧
        node.isDirectory = true) := by
  rw [FileSystem.kindIn, join_filePath_of_lookup rooted at_dirs looked_up]
  by_cases no_link : ∀ target, child ≠ .link target
  · have found : files.node (job.filePath (dirs ++ [name]).rel) = .ok child :=
      node_of_lookup rooted at_dirs looked_up no_link
    rw [FileSystem.isFile, found]
    cases child with
    | link target => exact absurd rfl (no_link target)
    | _ => simp [FileSystem.entryKind, Node.isFile, Node.isDirectory]
  · obtain ⟨target, rfl⟩ : ∃ target, child = .link target := by simpa using no_link
    rw [FileSystem.entryKind, FileSystem.isFile]
    cases files.node (job.filePath (dirs ++ [name]).rel) with
    | error problem => simp
    | ok led => cases led <;> simp [Node.isFile, Node.isDirectory]

theorem mem_files_listing :
    name ∈ (job.listing files dirs.rel).files ↔
      (∃ child, entries.lookup (Utf8.ofString name) = some child) ∧
        files.isFile (job.filePath (dirs ++ [name]).rel) = true := by
  have unique := (properEntries_of_shown rooted at_dirs).unique
  rw [listing, FileSystem.mem_files_iff (listable_filePath rooted at_dirs)]
  constructor
  · rintro ⟨child, inside, kind⟩
    have looked_up := Node.lookup_of_mem unique inside
    exact ⟨⟨child, looked_up⟩, (kindIn_iff rooted at_dirs looked_up).1.1 kind⟩
  · rintro ⟨⟨child, looked_up⟩, is_file⟩
    exact ⟨child, Node.mem_of_lookup looked_up,
      (kindIn_iff rooted at_dirs looked_up).1.2 is_file⟩

theorem mem_subdirs_listing :
    name ∈ (job.listing files dirs.rel).subdirs ↔
      (∃ child, entries.lookup (Utf8.ofString name) = some child) ∧
        ∃ node, files.node (job.filePath (dirs ++ [name]).rel) = .ok node ∧
          node.isDirectory = true := by
  have unique := (properEntries_of_shown rooted at_dirs).unique
  rw [listing, FileSystem.mem_subdirs_iff (listable_filePath rooted at_dirs)]
  constructor
  · rintro ⟨child, inside, kind⟩
    have looked_up := Node.lookup_of_mem unique inside
    exact ⟨⟨child, looked_up⟩, (kindIn_iff rooted at_dirs looked_up).2.1 kind⟩
  · rintro ⟨⟨child, looked_up⟩, is_directory⟩
    exact ⟨child, Node.mem_of_lookup looked_up,
      (kindIn_iff rooted at_dirs looked_up).2.2 is_directory⟩

theorem normalize_rel_of_shown : RelPath.normalize dirs.rel = dirs.rel :=
  Trail.normalize_rel (isFileName_of_shown rooted at_dirs)

/-- The files of a directory that are written. -/
theorem mem_chosenIn_iff :
    name ∈ job.chosenIn files (job.listing files dirs.rel) ↔
      job.rules.isExcludedDir dirs.rel = false ∧
      (∃ child, entries.lookup (Utf8.ofString name) = some child) ∧
      files.isReadable (job.filePath (dirs ++ [name]).rel) = true ∧
      job.rules.admits files name (job.filePath dirs.rel) = true ∧
      job.isSkipped (job.filePath (dirs ++ [name]).rel) = false := by
  have known_as : (job.listing files dirs.rel).rel = dirs.rel := FileSystem.rel_list _ _
  have found_at : (job.listing files dirs.rel).path = job.filePath dirs.rel :=
    FileSystem.path_list _ _
  rw [chosenIn, RuleSet.processCurrent_prune, known_as, normalize_rel_of_shown rooted at_dirs]
  cases excluded : job.rules.isExcludedDir dirs.rel with
  | true => simp
  | false =>
    simp only [Bool.not_false, if_true, List.mem_filter, mem_files_listing rooted at_dirs,
      writes, known_as, found_at, Bool.and_eq_true, Bool.not_eq_true', true_and]
    constructor
    · rintro ⟨⟨⟨child, looked_up⟩, -⟩, ⟨not_skipped, admitted⟩, readable⟩
      rw [join_rel_of_lookup rooted at_dirs looked_up] at not_skipped readable
      exact ⟨⟨child, looked_up⟩, readable, admitted, not_skipped⟩
    · rintro ⟨⟨child, looked_up⟩, readable, admitted, not_skipped⟩
      rw [join_rel_of_lookup rooted at_dirs looked_up]
      exact ⟨⟨⟨child, looked_up⟩, FileSystem.isFile_of_isReadable readable⟩,
        ⟨not_skipped, admitted⟩, readable⟩

/-- The subdirectories that the walk goes on to. -/
theorem mem_entered_iff :
    name ∈ job.entered (job.listing files dirs.rel) ↔
      job.rules.isExcludedDir dirs.rel = false ∧
      job.rules.isExcludedDir (dirs ++ [name]).rel = false ∧
      ∃ child, entries.lookup (Utf8.ofString name) = some child ∧ child.isDirectory = true := by
  have known_as : (job.listing files dirs.rel).rel = dirs.rel := FileSystem.rel_list _ _
  have can_enter : (job.listing files dirs.rel).canEnter name = true ↔
      ∃ child, entries.lookup (Utf8.ofString name) = some child ∧ child.isDirectory = true :=
    FileSystem.canEnter_iff (properEntries_of_shown rooted at_dirs).unique
      (listable_filePath rooted at_dirs)
  rw [entered, List.mem_filter, RuleSet.mem_kept_prune, can_enter, known_as,
    normalize_rel_of_shown rooted at_dirs]
  constructor
  · rintro ⟨⟨not_excluded, -, kept⟩, child, looked_up, is_directory⟩
    rw [join_rel_of_lookup rooted at_dirs looked_up] at kept
    exact ⟨not_excluded, kept, child, looked_up, is_directory⟩
  · rintro ⟨not_excluded, kept, child, looked_up, is_directory⟩
    rw [join_rel_of_lookup rooted at_dirs looked_up]
    have entering := can_enter.2 ⟨child, looked_up, is_directory⟩
    rw [Listing.canEnter, Bool.and_eq_true, List.contains_iff_mem] at entering
    exact ⟨⟨not_excluded, entering.1, kept⟩, child, looked_up, is_directory⟩

theorem sorted_chosenIn :
    (job.chosenIn files (job.listing files dirs.rel)).Pairwise NameBefore := by
  rw [chosenIn]
  split
  · exact (FileSystem.sorted_files (properEntries_of_shown rooted at_dirs).unique _
      (listable_filePath rooted at_dirs)).filter _
  · exact List.Pairwise.nil

theorem sorted_entered : (job.entered (job.listing files dirs.rel)).Pairwise NameBefore := by
  have subdirs_sorted : (job.listing files dirs.rel).subdirs.Pairwise NameBefore :=
    FileSystem.sorted_subdirs (properEntries_of_shown rooted at_dirs).unique _
      (listable_filePath rooted at_dirs)
  exact (subdirs_sorted.sublist RuleSet.kept_prune_sublist).filter _

omit rooted in
theorem at?_child_trail :
    top.at? (dirs ++ [name]).place = entries.lookup (Utf8.ofString name) := by
  rw [Trail.place_append]
  exact at_dirs.at?_concat (Utf8.ofString name)

omit rooted in
theorem showsAt_child_trail {child : Node}
    (looked_up : entries.lookup (Utf8.ofString name) = some child)
    (is_directory : child.isDirectory = true) :
    top.ShowsAt (dirs ++ [name]).place child.entries := by
  rw [Trail.place_append]
  exact at_dirs.child looked_up is_directory

end Directory

/-! ## All of a tree -/

section Tree

variable {job : PackJob σ δ} {files : FileSystem} {place : Place} {links : Nat} {top : Node}
  {dirs : Trail} {entries : NodeEntries}

theorem size_lt_of_entered {child : Node} {name : String}
    (looked_up : entries.lookup (Utf8.ofString name) = some child) :
    (Node.directory child.entries).size < (Node.directory entries).size :=
  Nat.lt_of_le_of_lt child.size_directory_entries_le (Node.size_lt_of_lookup looked_up)

/-- The walk ends: each step leads to a smaller directory. -/
theorem endsWithin_of_size (rooted : files.RootedAt job.root place links top) {depth : Nat}
    (at_dirs : top.ShowsAt dirs.place entries)
    (small : (Node.directory entries).size ≤ depth) :
    job.endsWithin files depth dirs.rel = true := by
  induction depth generalizing dirs entries with
  | zero =>
    rw [Node.size] at small
    omega
  | succ depth ih =>
    rw [endsWithin, List.all_eq_true]
    intro name member
    obtain ⟨-, -, child, looked_up, is_directory⟩ := (mem_entered_iff rooted at_dirs).1 member
    have smaller := size_lt_of_entered looked_up
    rw [join_rel_of_lookup rooted at_dirs looked_up]
    exact ih (showsAt_child_trail at_dirs looked_up is_directory) (by omega)

/-- What the walk writes are the files at the trails. -/
theorem walked_eq_map_trails (rooted : files.RootedAt job.root place links top) {depth : Nat}
    (at_dirs : top.ShowsAt dirs.place entries) :
    job.walked files depth dirs.rel =
      (job.trails files depth dirs).map fun trail => (dirs ++ trail).rel := by
  induction depth generalizing dirs entries with
  | zero => rfl
  | succ depth ih =>
    rw [walked, trails, List.map_append, List.map_map, List.map_flatMap]
    congr 1
    · refine List.map_congr_left fun name member => ?_
      obtain ⟨-, ⟨child, looked_up⟩, -⟩ := (mem_chosenIn_iff rooted at_dirs).1 member
      exact join_rel_of_lookup rooted at_dirs looked_up
    · refine List.flatMap_congr fun name member => ?_
      obtain ⟨-, -, child, looked_up, is_directory⟩ := (mem_entered_iff rooted at_dirs).1 member
      rw [join_rel_of_lookup rooted at_dirs looked_up,
        ih (showsAt_child_trail at_dirs looked_up is_directory), List.map_map]
      refine List.map_congr_left fun trail _ => ?_
      rw [List.append_assoc]
      rfl

/-! ## Going down -/

/-- The walk goes down along directories that are no links and not excluded. -/
theorem goesDown_iff (rooted : files.RootedAt job.root place links top) {front : Trail}
    (at_dirs : top.ShowsAt dirs.place entries) :
    job.GoesDown files dirs front ↔
      (∃ below, top.ShowsAt (dirs ++ front).place below) ∧
        (front ≠ [] → ∀ above rest, front = above ++ rest →
          job.rules.isExcludedDir (Trail.rel (dirs ++ above)) = false) := by
  induction front generalizing dirs entries with
  | nil =>
    rw [List.append_nil]
    simp only [GoesDown, ne_eq, not_true_eq_false, false_implies, and_true, true_iff]
    exact ⟨entries, at_dirs⟩
  | cons name front ih =>
    rw [GoesDown, mem_entered_iff rooted at_dirs, List.append_cons dirs name front]
    constructor
    · rintro ⟨⟨here, kept, child, looked_up, is_directory⟩, down⟩
      obtain ⟨held, not_excluded⟩ :=
        (ih (showsAt_child_trail at_dirs looked_up is_directory)).1 down
      refine ⟨held, fun _ above rest split => ?_⟩
      cases above with
      | nil => rwa [List.append_nil]
      | cons first others =>
        obtain ⟨rfl, front_split⟩ := List.cons.inj split
        rw [List.append_cons]
        by_cases last : front = []
        · obtain ⟨rfl, -⟩ := List.append_eq_nil_iff.1 (front_split.symm.trans last)
          rwa [List.append_nil]
        · exact not_excluded last others rest front_split
    · rintro ⟨held, not_excluded⟩
      have here := not_excluded (by simp) [] _ rfl
      have kept := not_excluded (by simp) [name] front rfl
      rw [List.append_nil] at here
      obtain ⟨child, looked_up, is_directory⟩ : ∃ child,
          entries.lookup (Utf8.ofString name) = some child ∧ child.isDirectory = true := by
        obtain ⟨below, node, at_front, is_directory, -⟩ := held
        rw [Trail.place_append, Node.at?_append, at?_child_trail at_dirs,
          Option.bind_eq_some_iff] at at_front
        obtain ⟨child, looked_up, at_front⟩ := at_front
        refine ⟨child, looked_up, ?_⟩
        cases front with
        | nil => rwa [Option.some.inj at_front]
        | cons next others =>
          obtain ⟨entries, -, rfl, -, -⟩ := Node.directory_of_at?_cons at_front
          rfl
      have at_child := showsAt_child_trail at_dirs looked_up is_directory
      refine ⟨⟨here, kept, child, looked_up, is_directory⟩, (ih at_child).2 ⟨held, ?_⟩⟩
      intro _ above rest split
      rw [← List.append_cons]
      exact not_excluded (by simp) (name :: above) rest (by rw [split]; rfl)

/-- Going down from where the walk ends stays within its depth. -/
theorem length_lt_of_endsWithin (rooted : files.RootedAt job.root place links top)
    {front : Trail} {depth : Nat} (at_dirs : top.ShowsAt dirs.place entries)
    (ends : job.endsWithin files depth dirs.rel = true) (down : job.GoesDown files dirs front) :
    front.length < depth := by
  induction depth generalizing dirs entries front with
  | zero => cases ends
  | succ depth ih =>
    cases front with
    | nil => exact Nat.succ_pos _
    | cons name front =>
      obtain ⟨entered, down⟩ := down
      obtain ⟨-, -, child, looked_up, is_directory⟩ := (mem_entered_iff rooted at_dirs).1 entered
      rw [endsWithin, List.all_eq_true] at ends
      have below_ends := ends name entered
      rw [join_rel_of_lookup rooted at_dirs looked_up] at below_ends
      exact Nat.succ_lt_succ
        (ih (showsAt_child_trail at_dirs looked_up is_directory) below_ends down)

/-! ## What is gathered -/

variable {pick : String → List String} {depth : Nat}

theorem mem_gather_iff {trail : Trail} :
    trail ∈ job.gather files pick depth dirs ↔
      ∃ front name, trail = front ++ [name] ∧ front.length < depth ∧
        job.GoesDown files dirs front ∧ name ∈ pick (Trail.rel (dirs ++ front)) := by
  induction depth generalizing dirs trail with
  | zero => simp [gather]
  | succ depth ih =>
    rw [gather, List.mem_append, List.mem_map, List.mem_flatMap]
    constructor
    · rintro (⟨name, member, rfl⟩ | ⟨name, entered, member⟩)
      · exact ⟨[], name, rfl, Nat.succ_pos _, trivial, by rwa [List.append_nil]⟩
      · obtain ⟨rest, gathered, rfl⟩ := List.mem_map.1 member
        obtain ⟨front, last, rfl, short, down, picked⟩ := ih.1 gathered
        rw [List.append_assoc] at picked
        exact ⟨name :: front, last, rfl, Nat.succ_lt_succ short, ⟨entered, down⟩, picked⟩
    · rintro ⟨front, name, rfl, short, down, member⟩
      cases front with
      | nil =>
        rw [List.append_nil] at member
        exact Or.inl ⟨name, member, rfl⟩
      | cons first others =>
        obtain ⟨entered, down⟩ := down
        refine Or.inr ⟨first, entered, List.mem_map.2 ⟨others ++ [name], ?_, rfl⟩⟩
        refine ih.2 ⟨others, name, rfl, Nat.lt_of_succ_lt_succ short, down, ?_⟩
        rwa [List.append_assoc]

theorem gather_ne_nil {trail : Trail} (member : trail ∈ job.gather files pick depth dirs) :
    trail ≠ [] := by
  obtain ⟨front, name, rfl, -⟩ := mem_gather_iff.1 member
  simp

/-- What is gathered comes in the order of the tree, if what is picked from each directory comes in
the order of names. -/
theorem pairwise_precedes_gather (rooted : files.RootedAt job.root place links top)
    (at_dirs : top.ShowsAt dirs.place entries)
    (sorted : ∀ dirs entries, top.ShowsAt (Trail.place dirs) entries →
      (pick (Trail.rel dirs)).Pairwise NameBefore) :
    (job.gather files pick depth dirs).Pairwise Trail.Precedes := by
  induction depth generalizing dirs entries with
  | zero => exact List.Pairwise.nil
  | succ depth ih =>
    rw [gather, List.pairwise_append, List.pairwise_flatMap]
    refine ⟨List.pairwise_map.2 (sorted _ _ at_dirs), ⟨?_, ?_⟩, ?_⟩
    · intro name member
      obtain ⟨-, -, child, looked_up, is_directory⟩ := (mem_entered_iff rooted at_dirs).1 member
      have in_order := ih (showsAt_child_trail at_dirs looked_up is_directory)
      refine List.pairwise_map.2 (in_order.imp_of_mem
        fun {left right} left_member right_member before => ?_)
      obtain ⟨next, rest, rfl⟩ := List.exists_cons_of_ne_nil (gather_ne_nil left_member)
      obtain ⟨other, more, rfl⟩ := List.exists_cons_of_ne_nil (gather_ne_nil right_member)
      exact Or.inr ⟨rfl, before⟩
    · refine (sorted_entered rooted at_dirs).imp ?_
      intro name dir before left left_member right right_member
      obtain ⟨left, left_below, rfl⟩ := List.mem_map.1 left_member
      obtain ⟨right, right_below, rfl⟩ := List.mem_map.1 right_member
      obtain ⟨next, rest, rfl⟩ := List.exists_cons_of_ne_nil (gather_ne_nil left_below)
      obtain ⟨other, more, rfl⟩ := List.exists_cons_of_ne_nil (gather_ne_nil right_below)
      exact Or.inl before
    · intro left left_member right right_member
      obtain ⟨name, -, rfl⟩ := List.mem_map.1 left_member
      obtain ⟨dir, -, right_inside⟩ := List.mem_flatMap.1 right_member
      obtain ⟨right, right_below, rfl⟩ := List.mem_map.1 right_inside
      obtain ⟨other, more, rfl⟩ := List.exists_cons_of_ne_nil (gather_ne_nil right_below)
      exact trivial

/-! ## What is selected -/

theorem trails_eq_gather :
    job.trails files depth dirs =
      job.gather files (fun rel => job.chosenIn files (job.listing files rel)) depth dirs := by
  induction depth generalizing dirs with
  | zero => rfl
  | succ depth ih =>
    rw [trails, gather]
    simp only [ih]

theorem selects_iff (rooted : files.RootedAt job.root place links top) {trail : Trail}
    (at_dirs : top.ShowsAt dirs.place entries) :
    job.Selects files top dirs trail ↔
      ∃ front name, trail = front ++ [name] ∧ job.GoesDown files dirs front ∧
        name ∈ job.chosenIn files (job.listing files (Trail.rel (dirs ++ front))) := by
  constructor
  · rintro ⟨held, readable, not_excluded, ⟨front, name, rfl, admitted⟩, not_skipped⟩
    rw [← List.append_assoc] at held readable not_skipped
    obtain ⟨child, held⟩ := Option.isSome_iff_exists.1 held
    rw [Trail.place_append, Node.at?_append, Option.bind_eq_some_iff] at held
    obtain ⟨dir, at_front, at_name⟩ := held
    obtain ⟨below, other, rfl, looked_up, -⟩ := Node.directory_of_at?_cons at_name
    have shows_front := Node.showsAt_of_at? at_front
    have down : job.GoesDown files dirs front := by
      refine (goesDown_iff rooted at_dirs).2 ⟨⟨below, shows_front⟩, fun _ above rest split => ?_⟩
      exact not_excluded above (rest ++ [name]) (by rw [split, List.append_assoc]) (by simp)
    refine ⟨front, name, rfl, down, (mem_chosenIn_iff rooted shows_front).2 ?_⟩
    exact ⟨not_excluded front [name] rfl (by simp), ⟨other, looked_up⟩, readable,
      admitted, not_skipped⟩
  · rintro ⟨front, name, rfl, down, chosen⟩
    obtain ⟨⟨below, at_front⟩, not_excluded⟩ := (goesDown_iff rooted at_dirs).1 down
    obtain ⟨here, ⟨child, looked_up⟩, readable, admitted, not_skipped⟩ :=
      (mem_chosenIn_iff rooted at_front).1 chosen
    rw [List.append_assoc] at readable not_skipped
    refine ⟨?_, readable, ?_, ⟨front, name, rfl, admitted⟩, not_skipped⟩
    · rw [← List.append_assoc, at?_child_trail at_front, looked_up]
      rfl
    · intro above rest split nonempty
      obtain ⟨more, front_split⟩ := Trail.exists_front_of_concat split nonempty
      by_cases root : front = []
      · obtain ⟨rfl, -⟩ := List.append_eq_nil_iff.1 (front_split.symm.trans root)
        rwa [root] at here
      · exact not_excluded root above more front_split

/-- The trails are those of the selected files. -/
theorem mem_trails_iff (rooted : files.RootedAt job.root place links top) {trail : Trail}
    (at_dirs : top.ShowsAt dirs.place entries)
    (ends : job.endsWithin files depth dirs.rel = true) :
    trail ∈ job.trails files depth dirs ↔ job.Selects files top dirs trail := by
  rw [trails_eq_gather, mem_gather_iff, selects_iff rooted at_dirs]
  constructor
  · rintro ⟨front, name, rfl, -, down, chosen⟩
    exact ⟨front, name, rfl, down, chosen⟩
  · rintro ⟨front, name, rfl, down, chosen⟩
    exact ⟨front, name, rfl, length_lt_of_endsWithin rooted at_dirs ends down, down, chosen⟩

/-- The trails come in the order of the tree. -/
theorem pairwise_precedes_trails (rooted : files.RootedAt job.root place links top)
    (at_dirs : top.ShowsAt dirs.place entries) :
    (job.trails files depth dirs).Pairwise Trail.Precedes := by
  rw [trails_eq_gather]
  exact pairwise_precedes_gather rooted at_dirs fun _ _ held => sorted_chosenIn rooted held

end Tree

end PackJob
end TreeBundle
