import TreeBundle.Proofs.Pack.Contents

/-!
# Recorded runs

A run into a recorded output tells which blocks each of its passes wrote, block by block.
-/
namespace TreeBundle
set_option autoImplicit false

namespace PackJob

variable {σ δ : Type}

/-- The same job, with the pieces that are written recorded. -/
def recorded (job : PackJob σ δ) : PackJob (σ × List Bytes) δ where
  rules := job.rules
  root := job.root
  skip := job.skip
  start := job.start
  output := job.output.recorded
  diagnostics := job.diagnostics

variable {job : PackJob σ δ} {files : FileSystem} {tables : RuleTables} {out : σ} {diag : δ}
  {entries : NodeEntries}

/-! ## Recording changes nothing -/

theorem walked_recorded {depth : Nat} {rel : String} :
    job.recorded.walked files depth rel = job.walked files depth rel :=
  walked_into

theorem endsWithin_recorded {depth : Nat} {rel : String} :
    job.recorded.endsWithin files depth rel = job.endsWithin files depth rel :=
  endsWithin_into

theorem depthOf_recorded : job.recorded.depthOf files = job.depthOf files := by
  have same : (fun depth => job.recorded.endsWithin files depth RelPath.root = true) =
      fun depth => job.endsWithin files depth RelPath.root = true := by
    funext depth
    rw [endsWithin_recorded]
  exact congrArg Classical.epsilon same

theorem firstPass_recorded : job.recorded.firstPass files = job.firstPass files := by
  rw [firstPass, firstPass, depthOf_recorded, walked_recorded]

theorem secondPass_recorded : job.recorded.secondPass files = job.secondPass files := by
  rw [secondPass, secondPass, firstPass_recorded]
  rfl

/-! ## What is recorded -/

theorem Wrote.record {rels : List String} {before after : PackState (σ × List Bytes) δ}
    (wrote : job.recorded.Wrote files rels before after)
    (takes : job.output.TakesAll files before.out.1) :
    after.out.2 = before.out.2 ++ rels.flatMap (job.blockOf files) := by
  have written := wrote.out
  rw [show before.out = (before.out.1, before.out.2) from rfl, show job.recorded.output =
    job.output.recorded from rfl, Output.writeAll_recorded _ (takes.success _)] at written
  rw [written]
  rfl

/-- A recorded walk that comes to its end has the blocks of the files that it wrote on record. -/
theorem record_of_walk {depth : Nat} {middle : PackState (σ × List Bytes) δ}
    (takes : job.output.TakesAll files out)
    (walked : walk job.recorded.visitor job.root depth (.initial (out, []) diag) =
      .done middle) :
    job.endsWithin files depth RelPath.root = true ∧
      middle.out.2 = (job.walked files depth RelPath.root).flatMap (job.blockOf files) := by
  have recorded_takes : job.recorded.output.TakesAll files
    (PackState.initial (out, ([] : List Bytes)) diag).out := takes.recorded []
  cases ends : job.recorded.endsWithin files depth RelPath.root with
  | true =>
    obtain ⟨after, done, wrote⟩ := walkFrom_spec (.initial (out, []) diag) recorded_takes ends
    obtain rfl : middle = after := WalkOutcome.done.inj (walked.symm.trans done)
    refine ⟨endsWithin_recorded.symm.trans ends, ?_⟩
    rw [wrote.record takes, walked_recorded]
    rfl
  | false =>
    have too_deep := walkFrom_of_not_ends (.initial (out, []) diag) recorded_takes ends
    cases walked.symm.trans too_deep

/-- The states of a recorded run after the walk, which ends within a depth, and at the run's end.
The record holds the blocks of the walk and then those of the second pass. -/
structure RecordedRun (job : PackJob σ δ) (files : FileSystem) (out : σ) (diag : δ) (depth : Nat)
    (middle state : PackState (σ × List Bytes) δ) : Prop where
  walked : walk job.recorded.visitor job.root depth (.initial (out, []) diag) = .done middle
  added : job.recorded.emitForced job.rules.alwaysIncludeFiles middle = .done state
  ran : job.recorded.run (out, []) diag = .done state
  first : middle.out.2 = (job.firstPass files).flatMap (job.blockOf files)
  second : state.out.2 = middle.out.2 ++ (job.secondPass files).flatMap (job.blockOf files)

theorem recordedRun_of_ends {depth : Nat} (diag : δ)
    (compiled : RuleSet.compile tables = .ok job.rules) (takes : job.output.TakesAll files out)
    (ends : job.endsWithin files depth RelPath.root = true) :
    ∃ middle state, RecordedRun job files out diag depth middle state := by
  have recorded_takes : job.recorded.output.TakesAll files (out, []) := takes.recorded []
  have recorded_compiled : RuleSet.compile tables = .ok job.recorded.rules := compiled
  obtain ⟨middle, state, walked, added, ran, wrote, then_wrote⟩ :=
    exists_passes recorded_compiled recorded_takes (endsWithin_recorded.trans ends)
  have middle_takes : job.output.TakesAll files middle.out.1 := by
    have written := wrote.out
    rw [show (PackState.initial (out, ([] : List Bytes)) diag).out = (out, []) from rfl,
      show job.recorded.output = job.output.recorded from rfl,
      Output.writeAll_recorded _ (takes.success _)] at written
    rw [written]
    exact takes.after _
  refine ⟨middle, state, walked, added, ran, ?_, ?_⟩
  · rw [(record_of_walk takes walked).2, firstPass_of_ends ends]
  · rw [then_wrote.record middle_takes, secondPass_recorded]

theorem recordedRun_of_run {state : PackState (σ × List Bytes) δ}
    (compiled : RuleSet.compile tables = .ok job.rules) (takes : job.output.TakesAll files out)
    (ran : job.recorded.run (out, []) diag = .done state) :
    ∃ depth middle, RecordedRun job files out diag depth middle state := by
  have recorded_takes : job.recorded.output.TakesAll files (out, []) := takes.recorded []
  have ends := endsWithin_of_run recorded_takes ran
  obtain ⟨middle, last, run⟩ :=
    recordedRun_of_ends diag compiled takes (endsWithin_recorded.symm.trans ends)
  have same : last = state := WalkOutcome.done.inj (run.ran.symm.trans ran)
  exact ⟨_, middle, same ▸ run⟩

/-- The blocks of files, read back. -/
theorem read_flatMap_blockOf (rels : List String) :
    Block.read (rels.flatMap (job.blockOf files)) = rels.map fun rel =>
      (Utf8.ofString (NativePath.ofRelative rel).text,
        Utf8.ofString (shownText files (job.filePath rel))) :=
  Block.read_flatMap _ _ rels

/-- The headers of blocks are the paths of their files. -/
theorem headers_flatMap_blockOf {rels : List String}
    (proper : ∀ rel ∈ rels, RelPath.normalize rel = rel ∧ rel ≠ RelPath.root) :
    Block.headers (rels.flatMap (job.blockOf files)) = rels.map Utf8.ofString := by
  rw [Block.headers, read_flatMap_blockOf, List.map_map]
  refine List.map_congr_left fun rel member => ?_
  obtain ⟨normal, not_root⟩ := proper rel member
  rw [Function.comp_apply, NativePath.text_ofRelative normal not_root]

section Headers

variable {depth : Nat} {middle state : PackState (σ × List Bytes) δ}

/-- A recorded run tells which files each of its passes wrote. -/
theorem RecordedRun.headers_passes (run : RecordedRun job files out diag depth middle state)
    (compiled : RuleSet.compile tables = .ok job.rules) :
    Block.headers middle.out.2 = (job.firstPass files).map Utf8.ofString ∧
      Block.headers (state.out.2.drop middle.out.2.length) =
        (job.secondPass files).map Utf8.ofString ∧
      Block.headers state.out.2 =
        (job.firstPass files ++ job.secondPass files).map Utf8.ofString := by
  have proper := proper_of_mem_passes files compiled
  refine ⟨?_, ?_, ?_⟩
  · rw [run.first]
    exact headers_flatMap_blockOf fun rel member => proper rel (List.mem_append_left _ member)
  · rw [run.second, List.drop_left]
    exact headers_flatMap_blockOf fun rel member => proper rel (List.mem_append_right _ member)
  · rw [run.second, run.first, ← List.flatMap_append]
    exact headers_flatMap_blockOf proper

end Headers

theorem ofString_mem_map {rel : String} {rels : List String} :
    Utf8.ofString rel ∈ rels.map Utf8.ofString ↔ rel ∈ rels := by
  constructor
  · intro member
    obtain ⟨other, inside, same⟩ := List.mem_map.1 member
    exact Utf8.ofString_inj same ▸ inside
  · exact List.mem_map_of_mem

end PackJob
end TreeBundle
