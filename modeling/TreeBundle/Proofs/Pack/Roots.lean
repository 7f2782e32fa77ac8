import TreeBundle.Proofs.Pack.Record

/-!
# Runs from any root

A root that is no directory has nothing listed below it, so that a walk from it writes nothing. In a
tree without backslashes in its names a run from any root ends, though files to include always may
be found below one that is no directory, where it has no name.
-/
namespace TreeBundle.PackJob
set_option autoImplicit false

variable {σ δ : Type} {job : PackJob σ δ} {files : FileSystem} {tables : RuleTables} {out : σ}
  {diag : δ}

/-- What is listed at the root are the entries of a directory that it leads to. -/
theorem directory_of_listable (nonempty : files.listable (job.filePath RelPath.root) ≠ []) :
    ∃ entries, files.node job.root = .ok (.directory entries) := by
  have listed := FileSystem.entries_of_listable nonempty rfl
  obtain ⟨place, located⟩ := FileSystem.locate_of_entries nonempty listed
  exact ⟨_, FileSystem.node_of_locate (FileSystem.isDirectory_of_join_nothing located).2⟩

/-- Nothing is listed at a root that is no directory or may not be listed. -/
theorem listing_root (no_directory : ∀ entries, files.node job.root ≠ .ok (.directory entries)) :
    job.listing files RelPath.root = ⟨RelPath.root, job.filePath RelPath.root, [], [], []⟩ := by
  refine FileSystem.list_of_nothing _ (Classical.byContradiction fun nonempty => ?_)
  obtain ⟨entries, found⟩ := directory_of_listable nonempty
  exact no_directory entries found

theorem entered_root (no_directory : ∀ entries, files.node job.root ≠ .ok (.directory entries)) :
    job.entered (job.listing files RelPath.root) = [] := by
  rw [listing_root no_directory, entered, List.sublist_nil.1 RuleSet.kept_prune_sublist]
  rfl

/-- The walk from any root ends within the size of the tree. -/
theorem endsWithin_root (job : PackJob σ δ) (proper : files.Proper)
    (no_backslash : files.NoBackslash) :
    job.endsWithin files files.root.size RelPath.root = true := by
  by_cases directory : ∃ entries, files.node job.root = .ok (.directory entries)
  · obtain ⟨entries, found⟩ := directory
    obtain ⟨place, links, rooted⟩ := FileSystem.exists_rootedAt proper no_backslash found
    exact endsWithin_size rooted
  · obtain ⟨depth, size⟩ := files.root.exists_size_eq_succ
    rw [size, endsWithin, entered_root (not_exists.1 directory)]
    rfl

/-- A run whose walk ends performs all its acts. -/
theorem exists_performed {depth : Nat} (job : PackJob σ δ) (diag : δ)
    (takes : job.output.TakesAll files out)
    (ends : job.endsWithin files depth RelPath.root = true) :
    ∃ state, job.run out diag = .done state ∧
      state.unlogged = job.performed (job.runActs files depth) (.initial out diag) := by
  have performs := performs_runWithin takes.static depth diag
  obtain ⟨state, ran, performed⟩ :=
    performs.done (stop_not_mem_runActs ends) (takes.success _)
  exact ⟨state, run_of_done ran, performed⟩

/-- A recorded run and a plain one are the same but for the record. -/
theorem RecordedRun.of_plain {depth : Nat} {middle state : PackState (σ × List Bytes) δ}
    {plain : PackState σ δ} (recorded : RecordedRun job files out diag depth middle state)
    (takes : job.output.TakesAll files out) (ran : job.run out diag = .done plain) :
    plain.out = state.out.1 ∧ plain.report = state.report := by
  have ends := (record_of_walk takes recorded.walked).1
  obtain ⟨plain', plain_ran, plain_performed⟩ := exists_performed job diag takes ends
  cases ran.symm.trans plain_ran
  obtain ⟨state', state_ran, state_performed⟩ :=
    exists_performed job.recorded diag (takes.recorded []) (endsWithin_recorded.trans ends)
  cases recorded.ran.symm.trans state_ran
  have same_acts : job.recorded.runActs files depth = job.runActs files depth := runActs_into
  rw [same_acts] at state_performed
  constructor
  · have plain_out : plain.out = (job.output.writeAll _ out).1 :=
      congrArg PackState.out plain_performed
    have state_out : state.out = (job.output.recorded.writeAll _ (out, [])).1 :=
      congrArg PackState.out state_performed
    rw [plain_out, state_out, Output.writeAll_recorded _ (takes.success _)]
  · exact (congrArg PackState.report plain_performed).trans
      (congrArg PackState.report state_performed).symm

end TreeBundle.PackJob
