import TreeBundle.Proofs.Pack.Script

/-!
# The two passes of a pack run

With an output that takes everything, a pack run does nothing but write blocks. Which blocks the
walk writes, and in which order, is a function of the tree; so is what the second pass adds to
them. Each pass is described by the files it wrote.
-/
namespace TreeBundle.PackJob
set_option autoImplicit false

variable {σ δ : Type}

/-- Nothing changes from one state to another but that the blocks of some files are written. -/
structure Wrote (job : PackJob σ δ) (files : FileSystem) (rels : List String)
    (before after : PackState σ δ) : Prop where
  out : after.out = (job.output.writeAll (rels.flatMap (job.blockOf files)) before.out).1
  seen : after.seen = rels.reverse.map job.filePath ++ before.seen

variable {job : PackJob σ δ} {files : FileSystem} {before after : PackState σ δ}

theorem Wrote.takesAll {rels : List String} (wrote : job.Wrote files rels before after)
    (takes : job.output.TakesAll files before.out) : job.output.TakesAll files after.out := by
  rw [wrote.out]
  exact takes.after _

theorem Wrote.trans {first second : List String} {middle : PackState σ δ}
    (takes : job.output.TakesAll files before.out) (wrote : job.Wrote files first before middle)
    (then_wrote : job.Wrote files second middle after) :
    job.Wrote files (first ++ second) before after where
  out := by
    rw [then_wrote.out, wrote.out, List.flatMap_append,
      job.output.writeAll_append (takes.success _)]
  seen := by
    rw [then_wrote.seen, wrote.seen, List.reverse_append, List.map_append, List.append_assoc]

theorem flatMap_pieces_packedAt {acts : List Act} {rels : List String}
    (files_packed : packed acts = rels.map (job.packedAt files)) :
    acts.flatMap Act.pieces = rels.flatMap (job.blockOf files) := by
  rw [flatMap_pieces, files_packed, List.flatMap_map]
  exact congrArg (List.flatMap · rels) (funext fun rel => pieces_packedAt)

/-- Acts that pack some files and come to an end have written these files. -/
theorem Performs.wrote {acts : List Act} {rels : List String}
    {outcome : WalkOutcome (PackState σ δ) IoError} (performs : job.Performs acts before outcome)
    (goes_on : .stop ∉ acts) (files_packed : packed acts = rels.map (job.packedAt files))
    (takes : job.output.TakesAll files before.out) :
    ∃ after, outcome = .done after ∧ job.Wrote files rels before after := by
  obtain ⟨after, rfl, same⟩ := performs.done goes_on (takes.success _)
  refine ⟨after, rfl, ?_, ?_⟩
  · rw [← flatMap_pieces_packedAt files_packed]
    exact congrArg PackState.out same
  · have seen : after.seen = (packed acts).reverse.map (fun file => job.filePath file.rel) ++
        before.seen := congrArg PackState.seen same
    rw [seen, files_packed, ← List.map_reverse, List.map_map]
    rfl

/-- A walk that ends has written what the tree has it write. -/
theorem walkFrom_spec {depth : Nat} {rel : String} (state : PackState σ δ)
    (takes : job.output.TakesAll files state.out)
    (ends : job.endsWithin files depth rel = true) :
    ∃ after, walkFrom job.visitor job.root depth rel state = .done after ∧
      job.Wrote files (job.walked files depth rel) state after := by
  have goes_on : .stop ∉ job.walkActs files depth rel := by
    rw [stop_mem_walkActs_iff, ends]
    exact Bool.noConfusion
  exact (performs_walkFrom depth rel state takes.static).wrote goes_on
    (packed_walkActs depth rel) takes

/-- A walk that does not end goes deeper than allowed. -/
theorem walkFrom_of_not_ends {depth : Nat} {rel : String} (state : PackState σ δ)
    (takes : job.output.TakesAll files state.out)
    (endless : job.endsWithin files depth rel = false) :
    walkFrom job.visitor job.root depth rel state = .tooDeep := by
  exact (performs_walkFrom depth rel state takes.static).tooDeep (stop_mem_walkActs_iff.2 endless)
    (takes.success _)

theorem adds_reverse (written : List String) :
    job.adds files written.reverse = job.adds files written := by
  funext rel
  rw [adds, adds, List.contains_reverse]

/-- The second pass writes, in their order, the files that were not written before. -/
theorem emitForced_spec {rels written : List String} (state : PackState σ δ)
    (normal : ∀ rel ∈ rels, RelPath.normalize rel = rel) (unique : rels.Nodup)
    (written_normal : ∀ rel ∈ written, RelPath.normalize rel = rel)
    (seen : state.seen = written.map job.filePath)
    (takes : job.output.TakesAll files state.out) :
    ∃ after, job.emitForced rels state = .done after ∧
      job.Wrote files (rels.filter (job.adds files written)) state after := by
  have performs := performs_emitForced rels state takes.static
  refine performs.wrote (stop_not_mem_forceActs _ _) ?_ takes
  rw [seen, forceActs_eq normal unique written_normal, packed_forceAct]

end TreeBundle.PackJob
