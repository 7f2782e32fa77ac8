import TreeBundle.Proofs.FileSystem.Entry
import TreeBundle.Proofs.Pack.Invariant
import TreeBundle.Proofs.Pack.Run
import TreeBundle.Proofs.Pack.Selection
import TreeBundle.Proofs.Path.OnDisk
import TreeBundle.Proofs.Rules.RuleSet

/-!
# What an artifact holds

A pack run into an output that takes everything ends, and the artifact is the blocks of the
selected files in the order of the tree, followed by those of the files that are always included
and were not among them.
-/
namespace TreeBundle.PackJob
set_option autoImplicit false

variable {σ δ : Type}

section Passes

variable (job : PackJob σ δ) (files : FileSystem)

/-- A depth that is enough for the walk, if any is. -/
noncomputable def depthOf : Nat :=
  Classical.epsilon fun depth => job.endsWithin files depth RelPath.root = true

/-- The files that the walk of a run writes. -/
noncomputable def firstPass : List String :=
  job.walked files (job.depthOf files) RelPath.root

/-- The trails of the files that the walk of a run writes. -/
noncomputable def selected : List Trail :=
  job.trails files (job.depthOf files) []

/-- The files that are written after the walk. -/
noncomputable def secondPass : List String :=
  job.forced files (job.firstPass files)

/-- The block of a file, headed by its path. -/
def block (rel : String) : Bytes :=
  Block.bytes rel (shownText files (job.filePath rel))

end Passes

variable {job : PackJob σ δ} {files : FileSystem} {tables : RuleTables} {out : σ} {diag : δ}

theorem normalize_of_mem_walked {depth : Nat} {dir rel : String}
    (member : rel ∈ job.walked files depth dir) : RelPath.normalize rel = rel := by
  induction depth generalizing dir with
  | zero => cases member
  | succ depth ih =>
    rw [walked, List.mem_append] at member
    rcases member with member | member
    · obtain ⟨name, -, rfl⟩ := List.mem_map.1 member
      exact RelPath.normalize_normalize _
    · obtain ⟨name, -, member⟩ := List.mem_flatMap.1 member
      exact ih member

/-! ## The end of the walk -/

theorem endsWithin_depthOf_iff :
    job.endsWithin files (job.depthOf files) RelPath.root = true ↔
      ∃ depth, job.endsWithin files depth RelPath.root = true :=
  ⟨fun ends => ⟨_, ends⟩, Classical.epsilon_spec⟩

/-- At any depth that is enough the walk writes the files of the first pass. -/
theorem firstPass_of_ends {depth : Nat}
    (ends : job.endsWithin files depth RelPath.root = true) :
    job.firstPass files = job.walked files depth RelPath.root := by
  have enough := endsWithin_depthOf_iff.2 ⟨depth, ends⟩
  rw [firstPass, ← walked_of_ends enough (Nat.le_max_left _ depth),
    walked_of_ends ends (Nat.le_max_right _ depth)]

/-- The walk of a run into an output that takes everything ends if the run does. -/
theorem endsWithin_of_run {state : PackState σ δ} (takes : job.output.TakesAll files out)
    (ran : job.run out diag = .done state) :
    job.endsWithin files (job.depthOf files) RelPath.root = true := by
  obtain ⟨depth, middle, walked, -⟩ := exists_walked_of_run ran
  refine endsWithin_depthOf_iff.2 ⟨depth, ?_⟩
  cases ends : job.endsWithin files depth RelPath.root with
  | true => rfl
  | false =>
    rw [walk, walkFrom_of_not_ends (.initial out diag) takes ends] at walked
    cases walked

/-- A run whose walk ends writes the files of the walk and then those of the second pass. -/
theorem exists_passes {depth : Nat} (compiled : RuleSet.compile tables = .ok job.rules)
    (takes : job.output.TakesAll files out)
    (ends : job.endsWithin files depth RelPath.root = true) :
    ∃ middle state,
      walk job.visitor job.root depth (.initial out diag) = .done middle ∧
      job.emitForced job.rules.alwaysIncludeFiles middle = .done state ∧
      job.run out diag = .done state ∧
      job.Wrote files (job.firstPass files) (.initial out diag) middle ∧
      job.Wrote files (job.secondPass files) middle state := by
  obtain ⟨middle, walked, wrote⟩ := walkFrom_spec (.initial out diag) takes ends
  rw [← firstPass_of_ends ends] at wrote
  have seen : middle.seen = (job.firstPass files).reverse.map job.filePath := by
    rw [wrote.seen]
    exact List.append_nil _
  obtain ⟨state, added, then_wrote⟩ := emitForced_spec middle
    (RuleSet.normalize_alwaysIncludeFiles compiled) (RuleSet.nodup_alwaysIncludeFiles compiled)
    (fun rel member => normalize_of_mem_walked (List.mem_reverse.1 member)) seen
    (wrote.takesAll takes)
  refine ⟨middle, state, walked, added, ?_, wrote, ?_⟩
  · have within : job.runWithin depth (.initial out diag) = .done state := by
      rw [runWithin, walk, walked]
      exact added
    exact run_of_done within
  · rw [secondPass, forced]
    rwa [adds_reverse] at then_wrote

/-! ## Blocks and their headers -/

theorem flatten_blockOf {rel : String} (normal : RelPath.normalize rel = rel)
    (not_root : rel ≠ RelPath.root) : (job.blockOf files rel).flatten = job.block files rel := by
  rw [blockOf, NativePath.text_ofRelative normal not_root]
  rfl

theorem flatten_flatMap_blockOf {rels : List String}
    (proper : ∀ rel ∈ rels, RelPath.normalize rel = rel ∧ rel ≠ RelPath.root) :
    (rels.flatMap (job.blockOf files)).flatten = (rels.map (job.block files)).flatten := by
  induction rels with
  | nil => rfl
  | cons rel rels ih =>
    obtain ⟨normal, not_root⟩ := proper rel List.mem_cons_self
    rw [List.flatMap_cons, List.flatten_append, flatten_blockOf normal not_root, List.map_cons,
      List.flatten_cons, ih fun other member => proper other (List.mem_cons_of_mem _ member)]

/-! ## Paths of files -/

/-- The path of the root itself leads to no file. -/
theorem isReadable_root : files.isReadable (job.filePath RelPath.root) = false := by
  rw [Bool.eq_false_iff, Ne, FileSystem.isReadable_iff_located]
  rintro ⟨place, contents, located⟩
  cases (FileSystem.isDirectory_of_join_nothing located).1

/-- Readable files have paths in normal form, none of them the root's. -/
theorem proper_of_isReadable {rel : String} (normal : RelPath.normalize rel = rel)
    (readable : files.isReadable (job.filePath rel) = true) :
    RelPath.normalize rel = rel ∧ rel ≠ RelPath.root := by
  refine ⟨normal, ?_⟩
  rintro rfl
  rw [isReadable_root] at readable
  cases readable

/-- The files that the walk writes have paths in normal form, and none is the root. -/
theorem proper_of_mem_walked {depth : Nat} {dir rel : String}
    (member : rel ∈ job.walked files depth dir) :
    RelPath.normalize rel = rel ∧ rel ≠ RelPath.root :=
  proper_of_isReadable (normalize_of_mem_walked member) (isReadable_of_mem_walked member)

/-- So do those that the second pass adds. -/
theorem proper_of_mem_passes (files : FileSystem)
    (compiled : RuleSet.compile tables = .ok job.rules) :
    ∀ rel ∈ job.firstPass files ++ job.secondPass files,
      RelPath.normalize rel = rel ∧ rel ≠ RelPath.root := by
  intro rel member
  rcases List.mem_append.1 member with member | member
  · exact proper_of_mem_walked member
  · obtain ⟨inside, added⟩ := List.mem_filter.1 member
    rw [adds, Bool.and_eq_true] at added
    exact proper_of_isReadable (RuleSet.normalize_alwaysIncludeFiles compiled rel inside) added.2

section Rooted

variable {place : Place} {links : Nat} {entries : NodeEntries}

theorem showsAt_root : (Node.directory entries).ShowsAt (Trail.place []) entries :=
  Node.showsAt_of_at? rfl

/-- The size of the tree is deep enough. -/
theorem endsWithin_size (rooted : files.RootedAt job.root place links (.directory entries)) :
    job.endsWithin files files.root.size RelPath.root = true :=
  endsWithin_of_size rooted showsAt_root (Node.size_le_of_at? rooted.held)

theorem endsWithin_depthOf (rooted : files.RootedAt job.root place links (.directory entries)) :
    job.endsWithin files (job.depthOf files) RelPath.root = true :=
  endsWithin_depthOf_iff.2 ⟨_, endsWithin_size rooted⟩

theorem firstPass_eq_map_selected
    (rooted : files.RootedAt job.root place links (.directory entries)) :
    job.firstPass files = (job.selected files).map Trail.rel :=
  walked_eq_map_trails rooted showsAt_root

theorem mem_selected_iff {trail : Trail}
    (rooted : files.RootedAt job.root place links (.directory entries)) :
    trail ∈ job.selected files ↔ job.Selects files (.directory entries) [] trail :=
  mem_trails_iff rooted showsAt_root (endsWithin_depthOf rooted)

theorem pairwise_precedes_selected
    (rooted : files.RootedAt job.root place links (.directory entries)) :
    (job.selected files).Pairwise Trail.Precedes :=
  pairwise_precedes_trails rooted showsAt_root

theorem mem_firstPass_iff_selects {rel : String}
    (rooted : files.RootedAt job.root place links (.directory entries)) :
    rel ∈ job.firstPass files ↔
      ∃ trail : Trail, trail.rel = rel ∧ job.Selects files (.directory entries) [] trail := by
  rw [firstPass_eq_map_selected rooted, List.mem_map]
  constructor
  · rintro ⟨trail, member, same⟩
    exact ⟨trail, same, (mem_selected_iff rooted).1 member⟩
  · rintro ⟨trail, same, selects⟩
    exact ⟨trail, (mem_selected_iff rooted).2 selects, same⟩

/-- The walk writes no file twice. -/
theorem nodup_firstPass (rooted : files.RootedAt job.root place links (.directory entries)) :
    (job.firstPass files).Nodup := by
  have file_names {trail : Trail} (member : trail ∈ job.selected files) :
      ∀ name ∈ trail, IsFileName name := by
    obtain ⟨child, held⟩ := Option.isSome_iff_exists.1 ((mem_selected_iff rooted).1 member).held
    exact Trail.isFileName_of_at? rooted.proper rooted.no_backslash held
  rw [firstPass_eq_map_selected rooted, List.Nodup, List.pairwise_map]
  refine (pairwise_precedes_selected rooted).imp_of_mem ?_
  intro left right left_member right_member before same
  rw [Trail.rel_inj (file_names left_member) (file_names right_member) same] at before
  exact before.irrefl

end Rooted

/-- A pack run into an output that takes everything ends, and the bytes it wrote are the blocks of
the selected files in the order of the tree and then, in their own order, of those files to
include always that were not selected, are not the artifact and lead to files that can be read. -/
theorem run_writes_selection {entries : NodeEntries} {taken : σ → Bytes}
    (compiled : RuleSet.compile tables = .ok job.rules) (proper : files.Proper)
    (no_backslash : files.NoBackslash) (found : files.node job.root = .ok (.directory entries))
    (takes : job.output.TakesAll files out) (collects : job.output.Collects taken) :
    ∃ (state : PackState σ δ) (selected : List Trail),
      job.run out diag = .done state ∧
      (∀ trail, trail ∈ selected ↔ job.Selects files (.directory entries) [] trail) ∧
      selected.Pairwise Trail.Precedes ∧
      taken state.out = taken out ++
        ((selected.map Trail.rel ++ job.forced files (selected.map Trail.rel)).map
          (job.block files)).flatten := by
  obtain ⟨place, links, rooted⟩ := FileSystem.exists_rootedAt proper no_backslash found
  obtain ⟨middle, state, -, -, ran, wrote, then_wrote⟩ :=
    exists_passes compiled takes (endsWithin_size rooted)
  have written : state.out = (job.output.writeAll ((job.firstPass files ++
      job.secondPass files).flatMap (job.blockOf files)) out).1 :=
    (wrote.trans takes then_wrote).out
  refine ⟨state, job.selected files, ran, fun trail => mem_selected_iff rooted,
    pairwise_precedes_selected rooted, ?_⟩
  rw [← firstPass_eq_map_selected rooted, written, collects.writeAll (takes.success _),
    flatten_flatMap_blockOf (proper_of_mem_passes files compiled)]
  rfl

/-- Packs the own sources of a tree with vendored files into memory. -/
def ownSources : PackJob Memory Unit where
  rules := .forOwnSources
  root := .ofString "/"
  skip := none
  start := none
  output := Memory.output .vendored
  diagnostics := .sink

theorem run_writes_selection_ownSources :
    ∃ (state : PackState Memory Unit) (selected : List Trail),
      ownSources.run (.ofLimit none) () = .done state ∧
      (∀ trail, trail ∈ selected ↔ ownSources.Selects .vendored FileSystem.vendored.root [] trail) ∧
      selected.Pairwise Trail.Precedes ∧
      state.out.taken =
        ((selected.map Trail.rel ++ ownSources.forced .vendored (selected.map Trail.rel)).map
          (ownSources.block .vendored)).flatten :=
  run_writes_selection RuleSet.compile_ownSources FileSystem.proper_vendored
    FileSystem.noBackslash_vendored rfl (Memory.takesAll_output _) (Memory.collects_output _)

end TreeBundle.PackJob
