import Mathlib.Algebra.GroupWithZero.Nat
import TreeBundle.Proofs.Pack.Roots

/-!
# What the report counts

The report of a run counts its acts: the files that were packed and their bytes on disk, those that
were packed because they are always included, those that were missing, and the directories that
were cut. Each file to include always is accounted for once, and each directory is cut once.
-/
namespace TreeBundle.PackJob
set_option autoImplicit false

variable {σ δ : Type}

/-! ## Counting acts -/

namespace Act

/-- How many directories an act cuts. -/
def cuts : Act → Nat
  | .cut count => count
  | _ => 0

/-- How many files an act packs because they are always included. -/
def forces : Act → Nat
  | .pack forced _ => forced.toNat
  | _ => 0

/-- How many files to include always an act finds missing. -/
def misses : Act → Nat
  | .miss => 1
  | _ => 0

end Act

/-- What acts amount to in all. -/
def total (amount : Act → Nat) (acts : List Act) : Nat :=
  (acts.map amount).sum

theorem total_append (amount : Act → Nat) (first second : List Act) :
    total amount (first ++ second) = total amount first + total amount second := by
  rw [total, List.map_append, List.sum_append]
  rfl

theorem total_flatMap {α : Type} (amount : Act → Nat) (items : List α) (acts : α → List Act) :
    total amount (items.flatMap acts) = (items.map fun item => total amount (acts item)).sum := by
  induction items with
  | nil => rfl
  | cons item items ih => rw [List.flatMap_cons, total_append, ih, List.map_cons, List.sum_cons]

theorem total_eq_zero {amount : Act → Nat} {acts : List Act}
    (nothing : ∀ act ∈ acts, amount act = 0) : total amount acts = 0 := by
  induction acts with
  | nil => rfl
  | cons act acts ih =>
    rw [total, List.map_cons, List.sum_cons, nothing act List.mem_cons_self, Nat.zero_add]
    exact ih fun other member => nothing other (List.mem_cons_of_mem _ member)

/-- What acts add to a report, field by field. -/
theorem foldl_count (acts : List Act) (report : PackReport) :
    acts.foldl Act.count report =
      { filesWritten := report.filesWritten + (packed acts).length
        bytesWritten := report.bytesWritten + ((packed acts).map fun file => file.bytes.length).sum
        forcedWritten := report.forcedWritten + total Act.forces acts
        forcedSkipped := report.forcedSkipped + total Act.misses acts
        dirsPruned := report.dirsPruned + total Act.cuts acts } := by
  induction acts generalizing report with
  | nil => rfl
  | cons act acts ih =>
    rw [List.foldl_cons, ih]
    cases act <;>
      simp [Act.count, packed, Act.packs, total, Act.forces, Act.misses, Act.cuts] <;> omega

/-! ## Files to include always -/

section Always

variable {job : PackJob σ δ} {files : FileSystem} {tables : RuleTables}

/-- The second pass goes by the files that the walk has written. -/
theorem addedActs_eq (files : FileSystem) (compiled : RuleSet.compile tables = .ok job.rules)
    (depth : Nat) :
    job.addedActs files depth = job.rules.alwaysIncludeFiles.flatMap
      (job.forceAct files (job.walked files depth RelPath.root).reverse) := by
  have seen : (packed (job.walkActs files depth RelPath.root)).reverse.map
      (fun file => job.filePath file.rel) =
        (job.walked files depth RelPath.root).reverse.map job.filePath := by
    rw [packed_walkActs, ← List.map_reverse, List.map_map]
    rfl
  rw [addedActs, seen]
  exact forceActs_eq (RuleSet.normalize_alwaysIncludeFiles compiled)
    (RuleSet.nodup_alwaysIncludeFiles compiled)
    fun rel member => normalize_of_mem_walked (List.mem_reverse.1 member)

/-- The walk packs no file because it is always included, and misses none. -/
theorem total_walkActs (job : PackJob σ δ) (files : FileSystem) (depth : Nat) (rel : String) :
    total Act.forces (job.walkActs files depth rel) = 0 ∧
      total Act.misses (job.walkActs files depth rel) = 0 := by
  have nothing : ∀ act ∈ job.walkActs files depth rel, act.forces = 0 ∧ act.misses = 0 := by
    induction depth generalizing rel with
    | zero =>
      intro act member
      rw [List.mem_singleton.1 member]
      exact ⟨rfl, rfl⟩
    | succ depth ih =>
      intro act member
      rw [walkActs, List.mem_append, listedActs, List.mem_cons, List.mem_map,
        List.mem_flatMap] at member
      rcases member with (rfl | ⟨name, -, rfl⟩) | ⟨name, -, member⟩
      · exact ⟨rfl, rfl⟩
      · exact ⟨rfl, rfl⟩
      · exact ih _ act member
  exact ⟨total_eq_zero fun act member => (nothing act member).1,
    total_eq_zero fun act member => (nothing act member).2⟩

/-- Each file to include always is packed, missing, already written or skipped. -/
theorem total_forceAct {written : List String} {rels : List String}
    (not_skipped : ∀ rel ∈ written, job.isSkipped (job.filePath rel) = false) :
    total Act.forces (rels.flatMap (job.forceAct files written)) +
        total Act.misses (rels.flatMap (job.forceAct files written)) +
        (rels.filter written.contains).length +
        (rels.filter fun rel => job.isSkipped (job.filePath rel)).length = rels.length := by
  induction rels with
  | nil => rfl
  | cons rel rest ih =>
    rw [List.flatMap_cons, total_append, total_append, List.filter_cons, List.filter_cons,
      List.length_cons, ← ih]
    by_cases repeated : rel ∈ written
    · have unskipped := not_skipped rel repeated
      simp [forceAct_of_passed (Or.inl repeated), repeated, unskipped, total]
      omega
    by_cases skipped : job.isSkipped (job.filePath rel) = true
    · simp [forceAct_of_passed (Or.inr skipped), repeated, skipped, total]
      omega
    by_cases readable : files.isReadable (job.filePath rel) = true
    · simp [forceAct_of_readable repeated skipped readable, repeated, skipped, total, Act.forces,
        Act.misses]
      omega
    · simp [forceAct_of_unreadable repeated skipped readable, repeated, skipped, total, Act.forces,
        Act.misses]
      omega

theorem cuts_of_forceAct {written rels : List String} :
    total Act.cuts (rels.flatMap (job.forceAct files written)) = 0 := by
  refine total_eq_zero fun act member => ?_
  obtain ⟨rel, -, member⟩ := List.mem_flatMap.1 member
  rw [forceAct] at member
  split at member
  · cases member
  split at member <;> rw [List.mem_singleton.1 member] <;> rfl

/-- The second pass packs its files because they are always included. -/
theorem forces_of_forceAct {written rels : List String} :
    total Act.forces (rels.flatMap (job.forceAct files written)) =
      (packed (rels.flatMap (job.forceAct files written))).length := by
  induction rels with
  | nil => rfl
  | cons rel rest ih =>
    rw [List.flatMap_cons, total_append, packed_append, List.length_append, ih, forceAct]
    split
    · rfl
    · split <;> rfl

end Always

/-! ## Directories that are cut -/

/-- The names of the subdirectories of a directory that are cut. -/
def cutIn (job : PackJob σ δ) (files : FileSystem) (rel : String) : List String :=
  (job.listing files rel).subdirs.filter fun name =>
    job.rules.isExcludedDir (RelPath.join rel name)

/-- Whether a trail is that of an excluded directory, or of a link to one, on the way to which there
are only directories that are no links and not excluded. The root is left out of account. -/
structure Cuts (job : PackJob σ δ) (files : FileSystem) (trail : Trail) : Prop where
  nonempty : trail ≠ []
  held : ∃ top, files.node job.root = .ok top ∧ (top.at? trail.place).isSome = true
  is_directory : ∃ node, files.node (job.filePath trail.rel) = .ok node ∧ node.isDirectory = true
  excluded : job.rules.isExcludedDir trail.rel = true
  not_excluded : ∀ front back, trail = front ++ back → front ≠ [] → back ≠ [] →
    job.rules.isExcludedDir (Trail.rel front) = false

section Cut

variable {job : PackJob σ δ} {files : FileSystem} {place : Place} {links : Nat} {top : Node}
  {dirs : Trail} {entries : NodeEntries} {depth : Nat}

theorem cuts_listedActs (listing : Listing) :
    total Act.cuts (job.listedActs files listing) =
      (job.rules.prune listing.rel listing.subdirs).cut.length := by
  have packs_cut_none : total Act.cuts ((job.chosenIn files listing).map fun name =>
      .pack false (job.packedAt files (RelPath.join listing.rel name))) = 0 := by
    refine total_eq_zero fun act member => ?_
    obtain ⟨name, -, rfl⟩ := List.mem_map.1 member
    rfl
  rw [listedActs, ← List.singleton_append, total_append, packs_cut_none]
  exact Nat.add_zero _

theorem cuts_walkActs (rooted : files.RootedAt job.root place links top)
    (at_dirs : top.ShowsAt dirs.place entries)
    (not_excluded : job.rules.isExcludedDir dirs.rel = false) :
    total Act.cuts (job.walkActs files depth dirs.rel) =
      (job.gather files (job.cutIn files) depth dirs).length := by
  induction depth generalizing dirs entries with
  | zero => rfl
  | succ depth ih =>
    have known_as : (job.listing files dirs.rel).rel = dirs.rel := FileSystem.rel_list _ _
    have normal : RelPath.normalize dirs.rel = dirs.rel := normalize_rel_of_shown rooted at_dirs
    have here : (job.rules.prune dirs.rel (job.listing files dirs.rel).subdirs).cut.length =
        (job.cutIn files dirs.rel).length := by
      rw [RuleSet.length_cut_prune (normal.symm ▸ not_excluded), normal, cutIn]
    have below : ∀ name ∈ job.entered (job.listing files dirs.rel),
        total Act.cuts (job.walkActs files depth (RelPath.join dirs.rel name)) =
          ((job.gather files (job.cutIn files) depth (dirs ++ [name])).map (name :: ·)).length := by
      intro name member
      obtain ⟨-, kept, child, looked_up, is_directory⟩ := (mem_entered_iff rooted at_dirs).1 member
      rw [join_rel_of_lookup rooted at_dirs looked_up, List.length_map]
      exact ih (showsAt_child_trail at_dirs looked_up is_directory) kept
    rw [walkActs, gather, total_append, total_flatMap, cuts_listedActs, known_as, here,
      List.length_append, List.length_map, List.length_flatMap, List.map_congr_left below]

theorem mem_cutIn_iff (rooted : files.RootedAt job.root place links top)
    (at_dirs : top.ShowsAt dirs.place entries) {name : String} :
    name ∈ job.cutIn files dirs.rel ↔
      (∃ child, entries.lookup (Utf8.ofString name) = some child) ∧
      (∃ node, files.node (job.filePath (dirs ++ [name]).rel) = .ok node ∧
        node.isDirectory = true) ∧
      job.rules.isExcludedDir (dirs ++ [name]).rel = true := by
  rw [cutIn, List.mem_filter, mem_subdirs_listing rooted at_dirs, and_assoc]
  refine and_congr_right ?_
  rintro ⟨child, looked_up⟩
  rw [join_rel_of_lookup rooted at_dirs looked_up]

/-- The trails that are gathered are those of the directories that are cut. -/
theorem mem_gather_cutIn_iff (rooted : files.RootedAt job.root place links (.directory entries))
    (not_excluded : job.rules.isExcludedDir RelPath.root = false)
    (ends : job.endsWithin files depth RelPath.root = true) {trail : Trail} :
    trail ∈ job.gather files (job.cutIn files) depth [] ↔ job.Cuts files trail := by
  rw [mem_gather_iff]
  constructor
  · rintro ⟨front, name, rfl, -, down, picked⟩
    rw [List.nil_append] at picked
    obtain ⟨⟨below, at_front⟩, kept⟩ := (goesDown_iff rooted showsAt_root).1 down
    rw [List.nil_append] at at_front
    obtain ⟨⟨child, looked_up⟩, is_directory, excluded⟩ := (mem_cutIn_iff rooted at_front).1 picked
    refine ⟨by simp, ⟨_, rooted.found, ?_⟩, is_directory, excluded, ?_⟩
    · rw [at?_child_trail at_front, looked_up]
      rfl
    · intro above rest split above_nonempty nonempty
      obtain ⟨more, front_split⟩ := Trail.exists_front_of_concat split nonempty
      refine kept ?_ above more front_split
      rw [front_split]
      exact fun nothing => above_nonempty (List.append_eq_nil_iff.1 nothing).1
  · rintro ⟨nonempty, ⟨top, found, held⟩, is_directory, excluded, kept⟩
    cases found.symm.trans rooted.found
    obtain ⟨front, name, rfl⟩ := List.eq_nil_or_concat trail |>.resolve_left nonempty
    rw [List.concat_eq_append] at held is_directory excluded kept ⊢
    obtain ⟨child, held⟩ := Option.isSome_iff_exists.1 held
    rw [Trail.place_append, Node.at?_append, Option.bind_eq_some_iff] at held
    obtain ⟨dir, at_front, at_name⟩ := held
    obtain ⟨below, other, rfl, looked_up, -⟩ := Node.directory_of_at?_cons at_name
    have shown := Node.showsAt_of_at? at_front
    have down : job.GoesDown files [] front := by
      refine (goesDown_iff rooted showsAt_root).2 ⟨⟨below, shown⟩, fun _ above rest split => ?_⟩
      cases above with
      | nil => exact not_excluded
      | cons first others =>
        exact kept (first :: others) (rest ++ [name]) (by rw [split, List.append_assoc]) (by simp)
          (by simp)
    have short := length_lt_of_endsWithin rooted showsAt_root ends down
    exact ⟨front, name, rfl, short, down,
      (mem_cutIn_iff rooted shown).2 ⟨⟨other, looked_up⟩, is_directory, excluded⟩⟩

theorem nodup_gather_cutIn (rooted : files.RootedAt job.root place links (.directory entries)) :
    (job.gather files (job.cutIn files) depth []).Nodup := by
  have sorted : ∀ dirs entries', (Node.directory entries).ShowsAt (Trail.place dirs) entries' →
      (job.cutIn files (Trail.rel dirs)).Pairwise NameBefore :=
    fun dirs entries' shown =>
      (FileSystem.sorted_subdirs (properEntries_of_shown rooted shown).unique _
        (listable_filePath rooted shown)).filter _
  refine (pairwise_precedes_gather rooted showsAt_root sorted).imp ?_
  rintro left right before rfl
  exact before.irrefl

end Cut

/-! ## The report -/

section Report

variable {job : PackJob σ δ} {files : FileSystem} {tables : RuleTables} {out : σ} {depth : Nat}

theorem packed_runActs (compiled : RuleSet.compile tables = .ok job.rules)
    (ends : job.endsWithin files depth RelPath.root = true) :
    packed (job.runActs files depth) =
      (job.firstPass files ++ job.secondPass files).map (job.packedAt files) := by
  rw [runActs, packed_append, packed_walkActs, addedActs_eq files compiled, packed_forceAct,
    adds_reverse, List.map_append, secondPass, firstPass_of_ends ends]
  rfl

theorem cuts_of_excluded_root (excluded : job.rules.isExcludedDir RelPath.root = true) :
    total Act.cuts (job.walkActs files (depth + 1) RelPath.root) = 1 := by
  have normal : RelPath.normalize RelPath.root = RelPath.root := rfl
  rw [walkActs_of_excluded (normal.symm ▸ excluded)]
  rfl

/-- A walk from a root that is not excluded cuts each excluded directory that it comes to. -/
theorem exists_cuts (proper : files.Proper) (no_backslash : files.NoBackslash)
    (not_excluded : job.rules.isExcludedDir RelPath.root = false)
    (ends : job.endsWithin files (depth + 1) RelPath.root = true) :
    ∃ cuts : List Trail, cuts.Nodup ∧ (∀ trail, trail ∈ cuts ↔ job.Cuts files trail) ∧
      total Act.cuts (job.walkActs files (depth + 1) RelPath.root) = cuts.length := by
  by_cases directory : ∃ entries, files.node job.root = .ok (.directory entries)
  · obtain ⟨entries, found⟩ := directory
    obtain ⟨place, links, rooted⟩ := FileSystem.exists_rootedAt proper no_backslash found
    exact ⟨job.gather files (job.cutIn files) (depth + 1) [], nodup_gather_cutIn rooted,
      fun trail => mem_gather_cutIn_iff rooted not_excluded ends,
      cuts_walkActs rooted showsAt_root not_excluded⟩
  · have no_directory : ∀ entries, files.node job.root ≠ .ok (.directory entries) :=
      not_exists.1 directory
    refine ⟨[], List.nodup_nil, fun trail => ⟨fun member => absurd member List.not_mem_nil, ?_⟩, ?_⟩
    · rintro ⟨nonempty, ⟨top, found, held⟩, -, -, -⟩
      obtain ⟨name, rest, rfl⟩ := List.exists_cons_of_ne_nil nonempty
      obtain ⟨child, held⟩ := Option.isSome_iff_exists.1 held
      obtain ⟨entries, -, rfl, -, -⟩ := Node.directory_of_at?_cons held
      exact absurd found (no_directory entries)
    · have none_cut : (job.rules.prune RelPath.root []).cut.length = 0 :=
        RuleSet.length_cut_prune not_excluded
      rw [walkActs, entered_root no_directory, List.flatMap_nil, List.append_nil,
        cuts_listedActs, listing_root no_directory, none_cut]
      rfl

theorem forces_secondPass :
    total Act.forces (job.rules.alwaysIncludeFiles.flatMap
      (job.forceAct files (job.firstPass files).reverse)) = (job.secondPass files).length := by
  rw [forces_of_forceAct, packed_forceAct, adds_reverse, List.length_map]
  rfl

/-- The report of a run, from what its passes pack and what its walk cuts. -/
theorem count_runActs (compiled : RuleSet.compile tables = .ok job.rules)
    (ends : job.endsWithin files depth RelPath.root = true) :
    (job.runActs files depth).foldl Act.count .empty =
      { filesWritten := (job.firstPass files ++ job.secondPass files).length
        bytesWritten := (((job.firstPass files ++ job.secondPass files).map
          (job.packedAt files)).map fun file => file.bytes.length).sum
        forcedWritten := (job.secondPass files).length
        forcedSkipped := total Act.misses (job.rules.alwaysIncludeFiles.flatMap
          (job.forceAct files (job.firstPass files).reverse))
        dirsPruned := total Act.cuts (job.walkActs files depth RelPath.root) } := by
  have added := addedActs_eq files compiled depth
  rw [← firstPass_of_ends ends] at added
  obtain ⟨none_forced, none_missed⟩ := total_walkActs job files depth RelPath.root
  rw [foldl_count, packed_runActs compiled ends, runActs, added, total_append, total_append,
    total_append, none_forced, none_missed, cuts_of_forceAct]
  simp only [PackReport.empty, Nat.zero_add, Nat.add_zero, List.length_map]
  rw [← forces_secondPass]

/-- Each file to include always was written in either pass, is missing or is skipped. -/
theorem always_accounted :
    (job.secondPass files).length +
        total Act.misses (job.rules.alwaysIncludeFiles.flatMap
          (job.forceAct files (job.firstPass files).reverse)) +
        (job.rules.alwaysIncludeFiles.filter (job.firstPass files).contains).length +
        (job.rules.alwaysIncludeFiles.filter fun rel => job.isSkipped (job.filePath rel)).length =
      job.rules.alwaysIncludeFiles.length := by
  have contains : (job.firstPass files).reverse.contains = (job.firstPass files).contains :=
    funext fun rel => List.contains_reverse
  rw [← forces_secondPass, ← contains]
  exact total_forceAct fun rel member => (written_of_mem_walked (List.mem_reverse.1 member)).1

/-- The report of a run from any root accounts for all that it wrote, for each file to include
always, and for each directory that it cut. Files count with their bytes on disk, whatever text
their blocks show of them. -/
theorem report_accounts (compiled : RuleSet.compile tables = .ok job.rules)
    (proper : files.Proper) (no_backslash : files.NoBackslash)
    (takes : job.output.TakesAll files out) (diag : δ) :
    ∃ (plain : PackState σ δ) (middle state : PackState (σ × List Bytes) δ) (written : List Packed),
      job.run out diag = .done plain ∧
      walk job.recorded.visitor job.root files.root.size (.initial (out, []) diag) =
        .done middle ∧
      job.recorded.emitForced job.rules.alwaysIncludeFiles middle = .done state ∧
      job.recorded.run (out, []) diag = .done state ∧
      plain.out = state.out.1 ∧
      Block.headers state.out.2 = written.map (fun file => Utf8.ofString file.rel) ∧
      (∀ file ∈ written, files.regularBytes (job.filePath file.rel) = .ok file.bytes) ∧
      plain.report.filesWritten = (Block.read state.out.2).length ∧
      plain.report.bytesWritten = (written.map fun file => file.bytes.length).sum ∧
      plain.report.forcedWritten =
        (Block.read (state.out.2.drop middle.out.2.length)).length ∧
      plain.report.forcedWritten + plain.report.forcedSkipped +
          (job.rules.alwaysIncludeFiles.filter fun rel =>
            (Block.headers middle.out.2).contains (Utf8.ofString rel)).length +
          (job.rules.alwaysIncludeFiles.filter fun rel =>
            job.isSkipped (job.filePath rel)).length =
        job.rules.alwaysIncludeFiles.length ∧
      (job.rules.isExcludedDir RelPath.root = true → plain.report.dirsPruned = 1) ∧
      (job.rules.isExcludedDir RelPath.root = false → ∃ cuts : List Trail, cuts.Nodup ∧
        (∀ trail, trail ∈ cuts ↔ job.Cuts files trail) ∧
        plain.report.dirsPruned = cuts.length) := by
  have ends := endsWithin_root job proper no_backslash
  obtain ⟨middle, state, recorded⟩ := recordedRun_of_ends diag compiled takes ends
  obtain ⟨plain, ran, performed⟩ := exists_performed job diag takes ends
  have report : plain.report = (job.runActs files files.root.size).foldl Act.count .empty :=
    congrArg PackState.report performed
  rw [count_runActs compiled ends] at report
  obtain ⟨depth, size⟩ := files.root.exists_size_eq_succ
  have record : state.out.2 =
      (job.firstPass files ++ job.secondPass files).flatMap (job.blockOf files) := by
    rw [recorded.second, recorded.first, List.flatMap_append]
  have first_headers : ∀ rel, (Block.headers middle.out.2).contains (Utf8.ofString rel) =
      (job.firstPass files).contains rel := by
    intro rel
    rw [(recorded.headers_passes compiled).1, Bool.eq_iff_iff, List.contains_iff_mem,
      List.contains_iff_mem, ofString_mem_map]
  refine ⟨plain, middle, state, (job.firstPass files ++ job.secondPass files).map
    (job.packedAt files), ran, recorded.walked, recorded.added, recorded.ran,
    (recorded.of_plain takes ran).1, ?_, ?_, ?_, ?_, ?_, ?_, ?_, ?_⟩
  · rw [record, headers_flatMap_blockOf (proper_of_mem_passes files compiled),
      List.map_map]
    rfl
  · intro file member
    rw [← packed_runActs compiled ends] at member
    exact regularBytes_of_packed member
  · rw [report, record, read_flatMap_blockOf, List.length_map]
  · rw [report]
  · rw [report, recorded.second, List.drop_left, read_flatMap_blockOf, List.length_map]
  · rw [report]
    simp only [first_headers]
    exact always_accounted
  · intro excluded
    rw [report, size]
    exact cuts_of_excluded_root excluded
  · intro not_excluded
    rw [report, size]
    exact exists_cuts proper no_backslash not_excluded (by rwa [← size])

end Report

/-- Packs own sources into `out.md`, with some files besides: one of the own ones, a vendored one,
one that is missing, and the artifact. -/
def withNotices : PackJob Memory Unit :=
  { ownSources with
    rules :=
      { RuleSet.forOwnSources with
        alwaysIncludeFiles := ["src/x.c", "vendor/x.c", "NOTICE", "out.md"] }
    skip := some (.ofString "/out.md") }

theorem compile_withNotices :
    RuleSet.compile
      { RuleSet.ownSources with
        alwaysIncludeFiles := ["src/x.c", "vendor/x.c", "NOTICE", "out.md"] } =
      .ok withNotices.rules := by
  rfl

theorem report_accounts_withNotices :
    ∃ (plain : PackState Memory Unit) (middle state : PackState (Memory × List Bytes) Unit)
      (written : List Packed) (cuts : List Trail),
      withNotices.run (.ofLimit none) () = .done plain ∧
      walk withNotices.recorded.visitor withNotices.root FileSystem.vendored.root.size
        (.initial (.ofLimit none, []) ()) = .done middle ∧
      withNotices.recorded.run (.ofLimit none, []) () = .done state ∧
      plain.report = ⟨2, 8, 1, 1, 1⟩ ∧
      (Block.read state.out.2).length = 2 ∧
      (written.map fun file => file.bytes.length).sum = 8 ∧
      (Block.read (state.out.2.drop middle.out.2.length)).length = 1 ∧
      cuts.length = 1 ∧
      ∀ trail, trail ∈ cuts ↔ withNotices.Cuts .vendored trail := by
  obtain ⟨plain, middle, state, written, ran, walked, -, recorded, -, -, -, files_written,
    bytes_written, forced_written, -, -, pruned⟩ :=
    report_accounts compile_withNotices FileSystem.proper_vendored
      FileSystem.noBackslash_vendored (Memory.takesAll_output _) ()
  obtain ⟨cuts, -, mem_cuts, dirs_pruned⟩ := pruned (by decide +kernel)
  have reported : (withNotices.runWithin 2 (.initial (.ofLimit none) ())).state?.map
      PackState.report = some ⟨2, 8, 1, 1, 1⟩ := by decide +kernel
  obtain ⟨last, last_ran, report⟩ := exists_run_of_within reported
  obtain rfl : plain = last := WalkOutcome.done.inj (ran.symm.trans last_ran)
  rw [report] at files_written bytes_written forced_written dirs_pruned
  exact ⟨plain, middle, state, written, cuts, ran, walked, recorded, report, files_written.symm,
    bytes_written.symm, forced_written.symm, dirs_pruned.symm, mem_cuts⟩

end TreeBundle.PackJob
