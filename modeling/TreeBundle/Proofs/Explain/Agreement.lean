import TreeBundle.Proofs.Explain.FirstPass

/-!
# Explanations agree with runs

Where no link and no `..` is on the way to a path, its explanation says that it is written exactly
if a run writes a block under it, and tells which pass writes the block.
-/
namespace TreeBundle
set_option autoImplicit false

/-- Whether no directory on the way to a relative path is a link. -/
def ClearWay (top : Node) (rel : String) : Prop :=
  ∀ front back, RelPath.parts rel = front ++ back → front ≠ [] → back ≠ [] →
    ∀ target, top.at? (front.map Utf8.encode) ≠ some (.link target)

namespace PackJob

variable {σ δ : Type} {job : PackJob σ δ} {files : FileSystem} {tables : RuleTables} {out : σ}
  {diag : δ} {place : Place} {links : Nat} {entries : NodeEntries}

/-- Where the way is clear, the tree itself holds what a path leads to. -/
theorem holdsAt_of_isReadable {rel : String}
    (rooted : files.RootedAt job.root place links (.directory entries))
    (normal : RelPath.normalize rel = rel) (no_up : RelPath.up ∉ RelPath.parts rel)
    (clear : ClearWay (.directory entries) rel)
    (readable : files.isReadable (job.filePath rel) = true) :
    HoldsAt (.directory entries) rel := by
  have proper := NativePath.isPart_of_parts rel
  by_cases empty : RelPath.parts rel = []
  · rw [HoldsAt, empty]
    rfl
  obtain ⟨found, bytes, located⟩ := FileSystem.isReadable_iff_located.1 readable
  rw [filePath_of_normal normal] at located
  have zero_free : ∀ part ∈ (RelPath.parts rel).map Utf8.encode, 0 ∉ part := fun part member =>
    FileSystem.zero_free_of_located member proper located
  have resolved := FileSystem.resolve_of_locate located
  rw [rooted.leads.resolve_join (by simp) proper zero_free,
    FileSystem.stepsBelow_of_no_up (by simpa using empty)
      (mt NativePath.up_mem_map_encode.1 no_up)] at resolved
  refine FileSystem.isSome_at?_of_follow rooted.held ?_ resolved
  intro front back split front_nonempty back_nonempty target
  obtain ⟨before, after, parts_split, rfl, rfl⟩ := List.map_eq_append_iff.1 split
  exact clear before after parts_split (by simpa using front_nonempty)
    (by simpa using back_nonempty) target

/-- The explanation of a path is given under its relative form. It says that the path is written
exactly if a run writes a block under this form, unless there is a file that may not be opened. The
walk writes the block if nothing cuts the path off and the rules admit it, and otherwise it is the
second pass. -/
theorem explain_agrees_with_run {path : NativePath} {told : Explanation}
    (compiled : RuleSet.compile tables = .ok job.rules) (proper : files.Proper)
    (no_backslash : files.NoBackslash) (found : files.node job.root = .ok (.directory entries))
    (takes : job.output.TakesAll files out) (unskipped : job.skip = none)
    (explained : (explain job.rules files job.root path).1 = told)
    (no_up : RelPath.up ∉ RelPath.parts (relativeForm job.root path))
    (clear : ClearWay (.directory entries) (relativeForm job.root path))
    (opens : files.isFile (job.filePath (relativeForm job.root path)) = true →
      files.isReadable (job.filePath (relativeForm job.root path)) = true) :
    told.path = relativeForm job.root path ∧
    ∃ middle state : PackState (σ × List Bytes) δ,
      walk job.recorded.visitor job.root files.root.size (.initial (out, []) diag) =
        .done middle ∧
      job.recorded.emitForced job.rules.alwaysIncludeFiles middle = .done state ∧
      job.recorded.run (out, []) diag = .done state ∧
      (told.written = true ↔ Utf8.ofString told.path ∈ Block.headers state.out.2) ∧
      (told.written = true →
        (Utf8.ofString told.path ∈ Block.headers middle.out.2 ↔
          told.prunedBy = none ∧ told.decision.verdict = .admitted) ∧
        (Utf8.ofString told.path ∈ Block.headers (state.out.2.drop middle.out.2.length) ↔
          ¬(told.prunedBy = none ∧ told.decision.verdict = .admitted))) := by
  have told_path : told.path = relativeForm job.root path := explained ▸ rfl
  rw [← told_path] at no_up clear opens
  obtain ⟨place, links, rooted⟩ := FileSystem.exists_rootedAt proper no_backslash found
  obtain ⟨middle, state, run⟩ :=
    recordedRun_of_ends diag compiled takes (endsWithin_size rooted)
  obtain ⟨walk_headers, added_headers, run_headers⟩ := run.headers_passes compiled
  have normal : RelPath.normalize told.path = told.path := by
    rw [told_path]
    exact normalize_relativeForm _ _
  have holds (readable : files.isReadable (job.filePath told.path) = true) :
      HoldsAt (.directory entries) told.path :=
    holdsAt_of_isReadable rooted normal no_up clear readable
  refine ⟨told_path, middle, state, run.walked, run.added, run.ran, ?_, fun written => ⟨?_, ?_⟩⟩
  · rw [run_headers, ofString_mem_map, mem_passes_iff rooted unskipped explained]
    constructor
    · intro written
      have readable := opens ((written_iff explained).1 written).1
      exact ⟨written, readable, Or.inr (holds readable)⟩
    · exact And.left
  · rw [walk_headers, ofString_mem_map, mem_firstPass_iff rooted unskipped explained]
    have readable := opens ((written_iff explained).1 written).1
    constructor
    · exact fun told_so => told_so.2.2
    · exact fun admitted => ⟨holds readable, readable, admitted⟩
  · rw [added_headers, ofString_mem_map, mem_secondPass_iff unskipped,
      mem_firstPass_iff rooted unskipped explained]
    obtain ⟨is_file, reason⟩ := (written_iff explained).1 written
    have readable := opens is_file
    constructor
    · rintro ⟨-, not_first, -⟩ admitted
      exact not_first ⟨holds readable, readable, admitted⟩
    · intro not_admitted
      exact ⟨reason.resolve_left not_admitted, fun first => not_admitted first.2.2, readable⟩

theorem clearWay_src : ClearWay FileSystem.vendored.root "src/x.c" := by
  have parts : RelPath.parts "src/x.c" = ["src".toList, "x.c".toList] := by decide +kernel
  intro front back split front_nonempty back_nonempty target
  rw [parts] at split
  cases front with
  | nil => exact absurd rfl front_nonempty
  | cons first rest =>
    obtain ⟨rfl, below⟩ := List.cons.inj split
    cases rest with
    | nil =>
      have held : FileSystem.vendored.root.at? (["src".toList].map Utf8.encode) =
        some (.directory [(Utf8.ofString "x.c", .file (Utf8.ofString "own"))]) := rfl
      rw [held]
      rintro ⟨⟩
    | cons second others =>
      obtain ⟨-, nothing⟩ := List.cons.inj below
      exact absurd (List.append_eq_nil_iff.1 nothing.symm).2 back_nonempty

theorem explain_agrees_with_run_own :
    relativeForm ownSources.root (.ofString "./src//x.c") = "src/x.c" ∧
    ∃ middle state : PackState (Memory × List Bytes) Unit,
      walk ownSources.recorded.visitor ownSources.root FileSystem.vendored.root.size
        (.initial (.ofLimit none, []) ()) = .done middle ∧
      ownSources.recorded.run (.ofLimit none, []) () = .done state ∧
      Utf8.ofString "src/x.c" ∈ Block.headers middle.out.2 ∧
      Utf8.ofString "src/x.c" ∈ Block.headers state.out.2 := by
  have form : relativeForm ownSources.root (.ofString "./src//x.c") = "src/x.c" := by
    decide +kernel
  obtain ⟨-, middle, state, walked, -, ran, agrees, passes⟩ :=
    explain_agrees_with_run RuleSet.compile_ownSources FileSystem.proper_vendored
      FileSystem.noBackslash_vendored rfl (Memory.takesAll_output _) rfl
      (show (explain .forOwnSources .vendored ownSources.root (.ofString "./src//x.c")).1 =
        ⟨"src/x.c", none, .byRule .includeExtension, false, true⟩ by decide +kernel)
      (by decide +kernel) (form ▸ clearWay_src) (fun _ => by decide +kernel)
  exact ⟨form, middle, state, walked, ran, (passes rfl).1.2 ⟨rfl, rfl⟩, agrees.1 rfl⟩

end PackJob
end TreeBundle
