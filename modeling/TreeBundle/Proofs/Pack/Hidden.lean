import Mathlib.Data.List.Sort
import TreeBundle.Proofs.FileSystem.Alike
import TreeBundle.Proofs.Pack.Roots

/-!
# What is hidden from a run

What lies below an excluded directory is hidden: where trees without links differ only there, what
is not hidden is listed in the same way, and the same files are chosen and the same directories cut.
So runs over them do the same, as long as the files to include always hold the same.
-/
namespace TreeBundle
set_option autoImplicit false

/-- Whether a directory on the way to the entry at a trail, the root included, is excluded. -/
def RuleSet.Hides (rules : RuleSet) (trail : Trail) : Prop :=
  ∃ front back, trail = front ++ back ∧ back ≠ [] ∧ rules.isExcludedDir (Trail.rel front) = true

namespace RuleSet

variable {rules : RuleSet} {dirs : Trail} {name : String}

theorem not_hides_root : ¬rules.Hides [] := by
  rintro ⟨front, back, split, nonempty, -⟩
  exact nonempty (List.append_eq_nil_iff.1 split.symm).2

/-- The entries of a directory are hidden if it is hidden itself or excluded. -/
theorem hides_concat_iff :
    rules.Hides (dirs ++ [name]) ↔
      rules.Hides dirs ∨ rules.isExcludedDir (Trail.rel dirs) = true := by
  constructor
  · rintro ⟨front, back, split, nonempty, excluded⟩
    obtain ⟨more, rfl⟩ := Trail.exists_front_of_concat split nonempty
    by_cases last : more = []
    · rw [last, List.append_nil]
      exact Or.inr excluded
    · exact Or.inl ⟨front, more, rfl, last, excluded⟩
  · rintro (⟨front, back, rfl, nonempty, excluded⟩ | excluded)
    · exact ⟨front, back ++ [name], List.append_assoc _ _ _, by simp, excluded⟩
    · exact ⟨dirs, [name], rfl, by simp, excluded⟩

/-- Whether a file is admitted depends on its own bytes only. -/
theorem admits_of_regularBytes {left right : FileSystem} {dir : NativePath}
    (same : left.regularBytes (dir.join (.ofString name)) =
      right.regularBytes (dir.join (.ofString name))) :
    rules.admits left name dir = rules.admits right name dir := by
  rw [admits, admits, decide_of_regularBytes same]

end RuleSet

namespace PackJob

variable {σ δ : Type}

/-- What two trees must agree on for a run to be the same over both: what is not hidden, with no
links among it, and the files to include always. -/
structure Agree (job : PackJob σ δ) (left right : FileSystem) (left_top right_top : Node) :
    Prop where
  entries : ∀ trail : Trail, ¬job.rules.Hides trail →
    (left_top.at? trail.place).map Node.shallow = (right_top.at? trail.place).map Node.shallow
  no_links : ∀ (trail : Trail) (target : NativePath), ¬job.rules.Hides trail →
    left_top.at? trail.place ≠ some (.link target)
  always : ∀ rel ∈ job.rules.alwaysIncludeFiles,
    (left.regularBytes (job.filePath rel)).toOption =
      (right.regularBytes (job.filePath rel)).toOption

theorem Agree.symm {job : PackJob σ δ} {left right : FileSystem} {left_top right_top : Node}
    (agree : job.Agree left right left_top right_top) :
    job.Agree right left right_top left_top where
  entries trail seen := (agree.entries trail seen).symm
  no_links trail target seen held := by
    have same := agree.entries trail seen
    rw [held] at same
    obtain ⟨node, found, shallow⟩ := Option.map_eq_some_iff.1 same
    cases node with
    | link other => exact agree.no_links trail other seen found
    | _ => cases shallow
  always rel member := (agree.always rel member).symm

/-! ## One directory -/

/-- A directory of both trees that is not hidden. -/
structure Shared (job : PackJob σ δ) (left_top right_top : Node) (dirs : Trail)
    (left_entries right_entries : NodeEntries) : Prop where
  at_left : left_top.ShowsAt dirs.place left_entries
  at_right : right_top.ShowsAt dirs.place right_entries
  seen : ¬job.rules.Hides dirs

section Directory

variable {job : PackJob σ δ} {left right : FileSystem} {left_place right_place : Place}
  {left_links right_links : Nat} {left_top right_top : Node} {dirs : Trail}
  {left_entries right_entries : NodeEntries} {name : String}

theorem Shared.symm (shared : job.Shared left_top right_top dirs left_entries right_entries) :
    job.Shared right_top left_top dirs right_entries left_entries :=
  ⟨shared.at_right, shared.at_left, shared.seen⟩

variable (shared : job.Shared left_top right_top dirs left_entries right_entries)
  (not_excluded : job.rules.isExcludedDir dirs.rel = false)

include shared not_excluded

theorem Shared.seen_below : ¬job.rules.Hides (dirs ++ [name]) := by
  rw [RuleSet.hides_concat_iff, not_excluded]
  exact fun hidden => hidden.elim shared.seen Bool.noConfusion

variable (agree : job.Agree left right left_top right_top)

include agree

/-- The entries of a shared directory that is not excluded are there in both trees. -/
theorem Shared.exists_lookup {child : Node}
    (looked_up : left_entries.lookup (Utf8.ofString name) = some child) :
    ∃ other, right_entries.lookup (Utf8.ofString name) = some other ∧
      child.shallow = other.shallow ∧ ∀ target, child ≠ .link target := by
  have seen : ¬job.rules.Hides (dirs ++ [name]) := shared.seen_below not_excluded
  have held : left_top.at? (dirs ++ [name]).place = some child :=
    (at?_child_trail shared.at_left).trans looked_up
  have same := agree.entries _ seen
  rw [held, at?_child_trail shared.at_right, Option.map_some] at same
  obtain ⟨other, found, shallow⟩ := Option.map_eq_some_iff.1 same.symm
  refine ⟨other, found, shallow.symm, ?_⟩
  rintro target rfl
  exact agree.no_links _ target seen held

/-- Its subdirectories are shared. -/
theorem Shared.exists_below {child : Node}
    (looked_up : left_entries.lookup (Utf8.ofString name) = some child)
    (is_directory : child.isDirectory = true) :
    ∃ other, job.Shared left_top right_top (dirs ++ [name]) child.entries other := by
  obtain ⟨node, found, shallow, -⟩ := shared.exists_lookup not_excluded agree looked_up
  have node_directory : node.isDirectory = true := by
    rwa [← Node.isDirectory_shallow, ← shallow, Node.isDirectory_shallow]
  exact ⟨node.entries, showsAt_child_trail shared.at_left looked_up is_directory,
    showsAt_child_trail shared.at_right found node_directory, shared.seen_below not_excluded⟩

variable (left_rooted : left.RootedAt job.root left_place left_links left_top)

include left_rooted

theorem Shared.mem_namesWhere {choose : EntryKind → Bool}
    (member : name ∈ FileSystem.namesWhere choose
      (left.readable (job.filePath dirs.rel) left_entries)) :
    name ∈ FileSystem.namesWhere choose
      (right.readable (job.filePath dirs.rel) right_entries) := by
  obtain ⟨child, inside, chosen⟩ := FileSystem.mem_namesWhere.1 member
  have unique := (properEntries_of_shown left_rooted shared.at_left).unique
  have looked_up := Node.lookup_of_mem unique inside
  obtain ⟨other, found, shallow, no_link⟩ := shared.exists_lookup not_excluded agree looked_up
  refine FileSystem.mem_namesWhere.2 ⟨other, Node.mem_of_lookup found, ?_⟩
  rwa [FileSystem.kindIn, ← FileSystem.entryKind_of_shallow shallow no_link]

variable (right_rooted : right.RootedAt job.root right_place right_links right_top)

include right_rooted

/-- It is listed in the same way. -/
theorem Shared.listing_eq : job.listing left dirs.rel = job.listing right dirs.rel := by
  have names : ∀ choose : EntryKind → Bool,
      FileSystem.namesWhere choose (left.readable (job.filePath dirs.rel) left_entries) =
        FileSystem.namesWhere choose (right.readable (job.filePath dirs.rel) right_entries) := by
    intro choose
    have unique := (properEntries_of_shown left_rooted shared.at_left).unique
    have right_unique := (properEntries_of_shown right_rooted shared.at_right).unique
    refine List.Pairwise.eq_of_mem_iff (FileSystem.sorted_namesWhere unique choose)
      (FileSystem.sorted_namesWhere right_unique choose) fun name => ?_
    exact ⟨shared.mem_namesWhere not_excluded agree left_rooted,
      shared.symm.mem_namesWhere not_excluded agree.symm right_rooted⟩
  rw [listing, listing,
    FileSystem.list_eq _ (listable_filePath left_rooted shared.at_left),
    FileSystem.list_eq _ (listable_filePath right_rooted shared.at_right),
    names, names, names]

/-- The files that are listed hold the same. -/
theorem Shared.regularBytes_eq (listed : name ∈ (job.listing left dirs.rel).files) :
    left.regularBytes (job.filePath (RelPath.join dirs.rel name)) =
      right.regularBytes (job.filePath (RelPath.join dirs.rel name)) := by
  obtain ⟨⟨child, looked_up⟩, -⟩ := (mem_files_listing left_rooted shared.at_left).1 listed
  obtain ⟨other, found, shallow, no_link⟩ := shared.exists_lookup not_excluded agree looked_up
  obtain ⟨-, -, -, other_no_link⟩ :=
    shared.symm.exists_lookup not_excluded agree.symm found
  rw [join_rel_of_lookup left_rooted shared.at_left looked_up]
  exact FileSystem.regularBytes_of_shallow
    (node_of_lookup left_rooted shared.at_left looked_up no_link)
    (node_of_lookup right_rooted shared.at_right found other_no_link) shallow

/-- The same files of it are written. -/
theorem Shared.chosenIn_eq :
    job.chosenIn left (job.listing left dirs.rel) =
      job.chosenIn right (job.listing right dirs.rel) := by
  have known_as : (job.listing left dirs.rel).rel = dirs.rel := FileSystem.rel_list _ _
  have found_at : (job.listing left dirs.rel).path = job.filePath dirs.rel :=
    FileSystem.path_list _ _
  rw [← shared.listing_eq not_excluded agree left_rooted right_rooted, chosenIn, chosenIn]
  split
  · refine List.filter_congr fun name listed => ?_
    have bytes := shared.regularBytes_eq not_excluded agree left_rooted right_rooted listed
    obtain ⟨⟨child, looked_up⟩, -⟩ := (mem_files_listing left_rooted shared.at_left).1 listed
    have path : (job.filePath dirs.rel).join (.ofString name) =
        job.filePath (RelPath.join dirs.rel name) := by
      rw [join_filePath_of_lookup left_rooted shared.at_left looked_up,
        join_rel_of_lookup left_rooted shared.at_left looked_up]
    rw [writes, writes, known_as, found_at, isReadable_eq, isReadable_eq, ← bytes,
      RuleSet.admits_of_regularBytes (path.symm ▸ bytes)]
  · rfl

/-- The acts of the walk at it are the same. -/
theorem Shared.listedActs_eq :
    job.listedActs left (job.listing left dirs.rel) =
      job.listedActs right (job.listing right dirs.rel) := by
  have known_as : (job.listing left dirs.rel).rel = dirs.rel := FileSystem.rel_list _ _
  rw [listedActs, listedActs, ← shared.chosenIn_eq not_excluded agree left_rooted right_rooted,
    ← shared.listing_eq not_excluded agree left_rooted right_rooted, known_as]
  refine congrArg (List.cons _) (List.map_congr_left fun name chosen => ?_)
  have listed : name ∈ (job.listing left dirs.rel).files := chosenIn_subset_files _ chosen
  rw [packedAt, packedAt, bytesAt_eq, bytesAt_eq,
    shared.regularBytes_eq not_excluded agree left_rooted right_rooted listed]

end Directory

/-! ## A run -/

section Run

variable {job : PackJob σ δ} {left right : FileSystem} {left_place right_place : Place}
  {left_links right_links : Nat} {left_top right_top : Node} {dirs : Trail}
  {left_entries right_entries : NodeEntries}
  (agree : job.Agree left right left_top right_top)

include agree

/-- Going equally deep from a shared directory, the walk does the same in both trees. -/
theorem Agree.walkActs_eq (left_rooted : left.RootedAt job.root left_place left_links left_top)
    (right_rooted : right.RootedAt job.root right_place right_links right_top)
    (shared : job.Shared left_top right_top dirs left_entries right_entries) (depth : Nat) :
    job.walkActs left depth dirs.rel = job.walkActs right depth dirs.rel := by
  induction depth generalizing dirs left_entries right_entries with
  | zero => rfl
  | succ depth ih =>
    -- An excluded directory is cut in both trees, and nothing below it has to agree.
    cases excluded : job.rules.isExcludedDir dirs.rel with
    | true =>
      rw [← normalize_rel_of_shown left_rooted shared.at_left] at excluded
      rw [walkActs_of_excluded excluded, walkActs_of_excluded excluded]
    | false =>
      rw [walkActs, walkActs, shared.listedActs_eq excluded agree left_rooted right_rooted,
        ← shared.listing_eq excluded agree left_rooted right_rooted]
      congr 1
      refine List.flatMap_congr fun name entered => ?_
      obtain ⟨-, -, child, looked_up, is_directory⟩ :=
        (mem_entered_iff left_rooted shared.at_left).1 entered
      obtain ⟨other, shared_below⟩ := shared.exists_below excluded agree looked_up is_directory
      rw [join_rel_of_lookup left_rooted shared.at_left looked_up]
      exact ih shared_below

omit agree in
/-- The second pass goes by the files to include always alone. -/
theorem forceActs_congr {rels : List String} (seen : List NativePath)
    (same : ∀ rel ∈ rels, (left.regularBytes (job.filePath rel)).toOption =
      (right.regularBytes (job.filePath rel)).toOption) :
    job.forceActs left seen rels = job.forceActs right seen rels := by
  induction rels generalizing seen with
  | nil => rfl
  | cons rel rest ih =>
    have here := same rel List.mem_cons_self
    have readable : left.isReadable (job.filePath rel) = right.isReadable (job.filePath rel) := by
      rw [isReadable_eq, isReadable_eq, here]
    have packed_same : job.packedAt left rel = job.packedAt right rel := by
      rw [packedAt, packedAt, bytesAt_eq, bytesAt_eq, here]
    have rest_same := fun seen =>
      ih seen fun other member => same other (List.mem_cons_of_mem _ member)
    simp only [forceActs, readable, packed_same, rest_same]

/-- Runs over both trees that go equally deep have the same acts. -/
theorem Agree.runActs_eq (left_rooted : left.RootedAt job.root left_place left_links left_top)
    (right_rooted : right.RootedAt job.root right_place right_links right_top)
    (shared : job.Shared left_top right_top [] left_entries right_entries) (depth : Nat) :
    job.runActs left depth = job.runActs right depth := by
  have walks : job.walkActs left depth RelPath.root = job.walkActs right depth RelPath.root :=
    agree.walkActs_eq left_rooted right_rooted shared depth
  rw [runActs, runActs, addedActs, addedActs, walks, forceActs_congr _ agree.always]

end Run

/-- The same job reading other files, which show nothing of what is written. -/
def reading (job : PackJob σ δ) (files : FileSystem) : PackJob σ δ :=
  job.into { job.output with files := fun _ => files } job.diagnostics

theorem perform_reading (job : PackJob σ δ) (files : FileSystem) (acts : List Act)
    (state : PackState σ δ) : (job.reading files).perform acts state = job.perform acts state := by
  induction acts generalizing state with
  | nil => rfl
  | cons act acts ih =>
    rw [perform, perform, funext ih]
    cases act <;> rfl

/-- A run over files whose walk ends comes to what performing its acts comes to. -/
theorem performs_reading {depth : Nat} (job : PackJob σ δ) (files : FileSystem) (out : σ)
    (diag : δ) (ends : job.endsWithin files depth RelPath.root = true) :
    (job.reading files).run out diag ≠ .tooDeep ∧
      ((job.reading files).run out diag).map PackState.unlogged =
        job.perform (job.runActs files depth) (.initial out diag) := by
  have static : (job.reading files).output.Static files out := fun _ => rfl
  have performs := performs_into job job.diagnostics static depth diag
  have performed : ((job.reading files).runWithin depth (.initial out diag)).map
      PackState.unlogged = job.perform (job.runActs files depth) (.initial out diag) := by
    rw [← perform_reading job files]
    exact performs
  have ends_within : (job.reading files).runWithin depth (.initial out diag) ≠ .tooDeep :=
    performs.ne_tooDeep (stop_not_mem_runActs ends)
  rw [run_of_runWithin ends_within]
  exact ⟨ends_within, performed⟩

variable {job : PackJob σ δ}

/-- What is hidden below excluded directories has no influence on a run. Over trees without links
that differ only there, and with the files to include always holding the same, a run comes to the
same end with any output and diagnostics: the same is written and told, and the same is reported. -/
theorem run_of_agree {left right : FileSystem} {left_entries right_entries : NodeEntries}
    (left_proper : left.Proper) (right_proper : right.Proper)
    (left_no_backslash : left.NoBackslash) (right_no_backslash : right.NoBackslash)
    (left_found : left.node job.root = .ok (.directory left_entries))
    (right_found : right.node job.root = .ok (.directory right_entries))
    (agree : job.Agree left right (.directory left_entries) (.directory right_entries))
    (out : σ) (diag : δ) :
    (job.reading left).run out diag ≠ .tooDeep ∧
      ((job.reading left).run out diag).map PackState.unlogged =
        ((job.reading right).run out diag).map PackState.unlogged := by
  obtain ⟨left_place, left_links, left_rooted⟩ :=
    FileSystem.exists_rootedAt left_proper left_no_backslash left_found
  obtain ⟨right_place, right_links, right_rooted⟩ :=
    FileSystem.exists_rootedAt right_proper right_no_backslash right_found
  have left_ends := endsWithin_of_le (endsWithin_root job left_proper left_no_backslash)
    (Nat.le_max_left _ right.root.size)
  have right_ends := endsWithin_of_le (endsWithin_root job right_proper right_no_backslash)
    (Nat.le_max_right left.root.size _)
  have same_acts := agree.runActs_eq left_rooted right_rooted
    ⟨showsAt_root, showsAt_root, RuleSet.not_hides_root⟩ (max left.root.size right.root.size)
  obtain ⟨left_ran, left_performs⟩ := performs_reading job left out diag left_ends
  obtain ⟨-, right_performs⟩ := performs_reading job right out diag right_ends
  exact ⟨left_ran, by rw [left_performs, right_performs, same_acts]⟩

/-- Own sources. -/
def ownEntries : NodeEntries :=
  [(Utf8.ofString "src", .directory [(Utf8.ofString "x.c", .file (Utf8.ofString "own"))])]

/-- A tree with own sources and some vendored files. -/
def vendoring (vendored : NodeEntries) : FileSystem where
  root := .directory (ownEntries ++ [(Utf8.ofString "vendor", .directory vendored)])
  working := []

def oneVendored : NodeEntries :=
  [(Utf8.ofString "x.c", .file (Utf8.ofString "other"))]

/-- The same vendored file, with a directory and a link beside it. -/
def moreVendored : NodeEntries :=
  [(Utf8.ofString "deep", .directory [(Utf8.ofString "y.c", .file (Utf8.ofString "more"))]),
    (Utf8.ofString "lib", .link (.ofString "/src")),
    (Utf8.ofString "x.c", .file (Utf8.ofString "other"))]

/-- Packs own sources and a vendored file that is always included. -/
def oneAlways : PackJob Memory Unit :=
  { ownSources with rules := { RuleSet.forOwnSources with alwaysIncludeFiles := ["vendor/x.c"] } }

theorem at?_ownEntries_ne_link (place : Place) (target : NativePath) :
    (Node.directory ownEntries).at? place ≠ some (.link target) := by
  have files_only : ∀ place, (Node.file (Utf8.ofString "own")).at? place ≠ some (.link target) := by
    intro place held
    cases place with
    | nil => cases held
    | cons name rest => cases held
  intro held
  cases place with
  | nil => cases held
  | cons name rest =>
    obtain ⟨entries, src, same, looked_up, at_rest⟩ := Node.directory_of_at?_cons held
    cases same
    obtain ⟨-, rfl⟩ := Prod.mk.inj (List.mem_singleton.1 (Node.mem_of_lookup looked_up))
    cases rest with
    | nil => cases at_rest
    | cons next more =>
      obtain ⟨entries, file, same, looked_up, at_more⟩ := Node.directory_of_at?_cons at_rest
      cases same
      obtain ⟨-, rfl⟩ := Prod.mk.inj (List.mem_singleton.1 (Node.mem_of_lookup looked_up))
      exact files_only more at_more

/-- Apart from what is hidden, such a tree is the same whatever is vendored. -/
theorem at?_vendoring {trail : Trail} (seen : ¬oneAlways.rules.Hides trail)
    (vendored : NodeEntries) :
    trail = [] ∨ trail = ["vendor"] ∨
      (vendoring vendored).root.at? trail.place = (Node.directory ownEntries).at? trail.place := by
  cases trail with
  | nil => exact Or.inl rfl
  | cons name rest =>
    by_cases vendor : name = "vendor"
    · subst vendor
      cases rest with
      | nil => exact Or.inr (Or.inl rfl)
      | cons next more =>
        exact absurd ⟨["vendor"], next :: more, rfl, by simp, by decide⟩ seen
    · have different : (Utf8.ofString name == Utf8.ofString "vendor") = false :=
        beq_eq_false_iff_ne.2 fun same => vendor (Utf8.ofString_inj same)
      refine Or.inr (Or.inr ?_)
      simp [vendoring, ownEntries, Trail.place, Node.at?_directory_cons, List.lookup_cons,
        different]

theorem agree_vendoring :
    oneAlways.Agree (vendoring oneVendored) (vendoring moreVendored) (vendoring oneVendored).root
      (vendoring moreVendored).root where
  entries trail seen := by
    rcases at?_vendoring seen oneVendored with rfl | rfl | own
    · rfl
    · rfl
    · rcases at?_vendoring seen moreVendored with rfl | rfl | also_own
      · rfl
      · rfl
      · rw [own, also_own]
  no_links trail target seen := by
    rcases at?_vendoring seen oneVendored with rfl | rfl | own
    · exact fun held => by cases held
    · exact fun held => by cases held
    · rw [own]
      exact at?_ownEntries_ne_link _ target
  always rel member := by
    rw [List.mem_singleton.1 member]
    decide +kernel

theorem run_of_agree_vendoring :
    ∃ state other : PackState Memory Unit,
      (oneAlways.reading (vendoring oneVendored)).run (.ofLimit none) () = .done state ∧
      (oneAlways.reading (vendoring moreVendored)).run (.ofLimit none) () = .done other ∧
      state.report = ⟨2, 8, 1, 0, 1⟩ ∧
      state.out = other.out ∧ state.report = other.report := by
  have reported : ((oneAlways.reading (vendoring oneVendored)).runWithin 2
      (.initial (.ofLimit none) ())).state?.map PackState.report = some ⟨2, 8, 1, 0, 1⟩ := by
    decide +kernel
  obtain ⟨state, ran, report⟩ := exists_run_of_within reported
  obtain ⟨-, same⟩ := run_of_agree (Node.everyDirectory_of_check (by decide +kernel))
    (Node.everyDirectory_of_check (by decide +kernel))
    (Node.everyDirectory_of_check (by decide +kernel))
    (Node.everyDirectory_of_check (by decide +kernel)) rfl rfl agree_vendoring (.ofLimit none) ()
  rw [ran] at same
  obtain ⟨other, also_ran, unlogged⟩ := WalkOutcome.exists_done_of_map same.symm
  exact ⟨state, other, ran, also_ran, report, (congrArg PackState.out unlogged).symm,
    (congrArg PackState.report unlogged).symm⟩

end PackJob
end TreeBundle
