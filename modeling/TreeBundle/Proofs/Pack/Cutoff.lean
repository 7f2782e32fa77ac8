import TreeBundle.Proofs.Pack.Record

/-!
# Runs into outputs that fail

An output that takes only so many bytes cuts a run off at the block in which they run out. What it
has taken is the beginning of what the run would have written, and the diagnostics tell of the
blocks up to that one and of nothing after it.
-/
namespace TreeBundle.PackJob
set_option autoImplicit false

variable {σ δ τ ε : Type}

/-- The block of a file. -/
def Packed.block (file : Packed) : Bytes :=
  Block.bytes (NativePath.ofRelative file.rel).text (Utf8.lossyString file.bytes)

theorem flatten_pieces (acts : List Act) :
    (acts.flatMap Act.pieces).flatten = (packed acts).flatMap Packed.block := by
  rw [flatMap_pieces, List.flatMap_def, List.flatten_flatten, List.map_map, List.flatMap_def]
  rfl

variable {job : PackJob σ δ} {files : FileSystem} {out : σ} {diag : δ} {taken : σ → Bytes}
  {told : δ → Bytes}

/-- A line tells the size of a file, ten places wide, and then the path that is shown for it: the
path below the start if it lies there, and without a start the one that heads the block. -/
theorem line_eq (job : PackJob σ δ) (file : Packed) :
    job.line file = Utf8.ofString
      (String.ofList ((toString file.bytes.length).toList.leftpad 10 ' ') ++ " " ++
        (job.start.elim (.ofRelative file.rel) fun start =>
          ((job.filePath file.rel).stripPrefix? start).getD (job.filePath file.rel)).text ++
        "\n") := by
  have shown : job.label (job.filePath file.rel) (.ofRelative file.rel) =
      job.start.elim (.ofRelative file.rel) fun start =>
        ((job.filePath file.rel).stripPrefix? start).getD (job.filePath file.rel) := by
    rw [label]
    cases job.start <;> rfl
  have padded : paddedSize file.bytes.length =
      String.ofList ((toString file.bytes.length).toList.leftpad 10 ' ') := by
    rw [paddedSize, List.leftpad, String.ofList_append, String.ofList_toList]
    rfl
  rw [line, diagnosticsLine, padded, shown]

/-- Diagnostics that keep everything keep a line for each file. -/
theorem told_foldl_tell (job : PackJob σ δ) (keeps : job.diagnostics.KeepsAll told diag)
    (files : List Packed) :
    told (files.foldl job.tell diag) = told diag ++ files.flatMap job.line := by
  have lines : files.foldl job.tell diag =
      (files.map job.line).foldl (fun diag line => (job.diagnostics.write diag line).1) diag := by
    rw [List.foldl_map]
    rfl
  rw [lines, job.diagnostics.foldl_write (keeps.success _), keeps.kept, List.flatMap_def]

/-- With an output that takes everything, a run that does not go too deep performs all its acts. -/
theorem runWithin_of_takesAll {depth : Nat} (takes : job.output.TakesAll files out)
    (ends : job.runWithin depth (.initial out diag) ≠ .tooDeep) :
    .stop ∉ job.runActs files depth ∧
    ∃ state, job.runWithin depth (.initial out diag) = .done state ∧
      state.unlogged = job.performed (job.runActs files depth) (.initial out diag) := by
  have performs := performs_runWithin takes.static depth diag
  have goes_on : .stop ∉ job.runActs files depth :=
    fun stops => ends (performs.tooDeep stops (takes.success _))
  exact ⟨goes_on, performs.done goes_on (takes.success _)⟩

section Limited

variable {output : Output τ} {diagnostics : Writer ε} {short : τ} {memo : ε} {held : τ → Bytes}
  {noted : ε → Bytes} {depth limit : Nat}

/-- An output that takes only the first bytes is no different as long as these are enough. -/
theorem runWithin_of_fits (static : output.Static files short)
    (takes_first : output.TakesFirst held limit short)
    (keeps : diagnostics.KeepsAll noted memo) (goes_on : .stop ∉ job.runActs files depth)
    (fits : ((packed (job.runActs files depth)).flatMap Packed.block).length ≤ limit) :
    ∃ after, (job.into output diagnostics).runWithin depth (.initial short memo) = .done after ∧
      after.report = (job.runActs files depth).foldl Act.count .empty ∧
      held after.out = (packed (job.runActs files depth)).flatMap Packed.block ∧
      noted after.diag = noted memo ++ (packed (job.runActs files depth)).flatMap job.line := by
  have performs := performs_into job diagnostics static depth memo
  rw [← flatten_pieces] at fits
  have success := (takes_first.success_iff _).2 fits
  obtain ⟨after, done, performed⟩ := performs.done goes_on success
  refine ⟨after, done, congrArg PackState.report performed, ?_, ?_⟩
  · have written : after.out = (output.writeAll _ short).1 := congrArg PackState.out performed
    rw [written, takes_first.taken, List.take_of_length_le fits, flatten_pieces]
  · have told_by : after.diag = List.foldl (job.into output diagnostics).tell memo _ :=
      congrArg PackState.diag performed
    rw [told_by]
    exact told_foldl_tell (job.into output diagnostics) keeps _

/-- Otherwise a run fails at the first block that does not fit. -/
theorem runWithin_of_cut (static : output.Static files short)
    (takes_first : output.TakesFirst held limit short)
    (keeps : diagnostics.KeepsAll noted memo) (goes_on : .stop ∉ job.runActs files depth)
    (short_of : limit < ((packed (job.runActs files depth)).flatMap Packed.block).length) :
    ∃ after problem front file back,
      (job.into output diagnostics).runWithin depth (.initial short memo) =
        .failed after problem ∧
      held after.out = ((packed (job.runActs files depth)).flatMap Packed.block).take limit ∧
      packed (job.runActs files depth) = front ++ file :: back ∧
      (front.flatMap Packed.block).length ≤ limit ∧
      limit < ((front ++ [file]).flatMap Packed.block).length ∧
      noted after.diag = noted memo ++ (front ++ [file]).flatMap job.line := by
  have performs := performs_into job diagnostics static depth memo
  rw [← flatten_pieces] at short_of
  obtain ⟨problem, failure⟩ : ∃ problem,
      (output.writeAll ((job.runActs files depth).flatMap Act.pieces) short).2 = some problem :=
    Option.ne_none_iff_exists'.1 fun success =>
      absurd ((takes_first.success_iff _).1 success) (Nat.not_le.2 short_of)
  obtain ⟨front, forced, file, back, after, acts, success, fails, failed, written, lines⟩ :=
    performs.failed goes_on failure
  have whole := (takes_first.success_iff _).1 success
  have broken := mt (takes_first.success_iff _).2 (Option.ne_none_iff_exists'.2 ⟨problem, fails⟩)
  rw [flatten_pieces] at whole broken
  refine ⟨after, problem, packed front, file, packed back, failed, ?_, ?_, whole, ?_, ?_⟩
  · rw [written, ← flatten_pieces]
    exact takes_first.taken _
  · rw [acts, packed_append]
    rfl
  · rw [packed_append] at broken
    exact Nat.not_le.1 broken
  · rw [lines]
    exact told_foldl_tell (job.into output diagnostics) keeps _

end Limited

/-- A run that ends writes the blocks of its files and tells a line for each. With an output that
takes only the first `limit` bytes, it does the same if they suffice. Otherwise it fails, the output
holds just these bytes, and the diagnostics hold the lines up to that of the first file whose block
was not taken as a whole. -/
theorem run_cut_off {limit : Nat} (takes : job.output.TakesAll files out)
    (collects : job.output.Collects taken) (empty : taken out = [])
    (keeps : job.diagnostics.KeepsAll told diag) (silent : told diag = [])
    (ends : job.run out diag ≠ .tooDeep)
    {output : Output τ} {diagnostics : Writer ε} {short : τ} {memo : ε} {held : τ → Bytes}
    {noted : ε → Bytes} (static : output.Static files short)
    (takes_first : output.TakesFirst held limit short)
    (also_keeps : diagnostics.KeepsAll noted memo) (also_silent : noted memo = []) :
    ∃ (state : PackState σ δ) (written : List Packed),
      job.run out diag = .done state ∧
      (∀ file ∈ written, files.regularBytes (job.filePath file.rel) = .ok file.bytes) ∧
      (∀ file ∈ written, job.line file = Utf8.ofString
        (String.ofList ((toString file.bytes.length).toList.leftpad 10 ' ') ++ " " ++
          (job.start.elim (.ofRelative file.rel) fun start =>
            ((job.filePath file.rel).stripPrefix? start).getD (job.filePath file.rel)).text ++
          "\n")) ∧
      taken state.out = written.flatMap Packed.block ∧
      told state.diag = written.flatMap job.line ∧
      ((taken state.out).length ≤ limit → ∃ after,
        (job.into output diagnostics).run short memo = .done after ∧
        after.report = state.report ∧
        held after.out = taken state.out ∧
        noted after.diag = told state.diag) ∧
      (limit < (taken state.out).length → ∃ after problem front file back,
        (job.into output diagnostics).run short memo = .failed after problem ∧
        held after.out = (taken state.out).take limit ∧
        written = front ++ file :: back ∧
        (front.flatMap Packed.block).length ≤ limit ∧
        limit < ((front ++ [file]).flatMap Packed.block).length ∧
        noted after.diag = (front ++ [file]).flatMap job.line) := by
  obtain ⟨depth, same⟩ := exists_runWithin_of_run ends
  obtain ⟨goes_on, state, done, performed⟩ := runWithin_of_takesAll takes (same ▸ ends)
  have blocks : taken state.out = (packed (job.runActs files depth)).flatMap Packed.block := by
    have written : state.out = (job.output.writeAll _ out).1 := congrArg PackState.out performed
    rw [written, collects.writeAll (takes.success _), flatten_pieces, empty, List.nil_append]
  have lines : told state.diag = (packed (job.runActs files depth)).flatMap job.line := by
    have told_by : state.diag = List.foldl job.tell diag _ := congrArg PackState.diag performed
    rw [told_by, told_foldl_tell job keeps, silent, List.nil_append]
  refine ⟨state, packed (job.runActs files depth), run_of_done done,
    fun _ => regularBytes_of_packed, fun file _ => line_eq job file, blocks, lines, ?_, ?_⟩
  · intro fits
    rw [blocks] at fits
    obtain ⟨after, also_done, report, held_all, noted_all⟩ :=
      runWithin_of_fits static takes_first also_keeps goes_on fits
    rw [also_silent, List.nil_append] at noted_all
    exact ⟨after, run_of_done also_done, report.trans (congrArg PackState.report performed).symm,
      held_all.trans blocks.symm, noted_all.trans lines.symm⟩
  · intro short_of
    rw [blocks] at short_of ⊢
    obtain ⟨after, problem, front, file, back, failed, held_first, split, whole, broken,
      noted_eq⟩ :=
      runWithin_of_cut static takes_first also_keeps goes_on short_of
    rw [also_silent, List.nil_append] at noted_eq
    exact ⟨after, problem, front, file, back, run_of_failed failed, held_first, split, whole,
      broken, noted_eq⟩

/-- Packs the own sources of a tree with vendored files, keeping the diagnostics. -/
def toldSources : PackJob Memory Memory :=
  ownSources.into (Memory.output .vendored) Memory.writer

theorem run_cut_off_toldSources :
    ∃ (state after : PackState Memory Memory) (problem : IoError) (front : List Packed)
      (file : Packed) (back : List Packed),
      toldSources.run (.ofLimit none) (.ofLimit none) = .done state ∧
      state.out.taken = (front ++ file :: back).flatMap Packed.block ∧
      state.diag.taken = Utf8.ofString "         3 src/x.c\n" ∧
      toldSources.run (.ofLimit (some 20)) (.ofLimit none) = .failed after problem ∧
      after.out.taken = state.out.taken.take 20 ∧
      (front.flatMap Packed.block).length ≤ 20 ∧
      20 < ((front ++ [file]).flatMap Packed.block).length ∧
      after.diag.taken = (front ++ [file]).flatMap toldSources.line := by
  have viewed : (toldSources.runWithin 2 (.initial (.ofLimit none) (.ofLimit none))).state?.map
      (fun state => (state.out.taken.length, state.diag.taken)) =
        some (24, Utf8.ofString "         3 src/x.c\n") := by
    decide +kernel
  obtain ⟨state, ran, seen⟩ := exists_run_of_within viewed
  have long : state.out.taken.length = 24 := congrArg Prod.fst seen
  have ends : toldSources.run (.ofLimit none) (.ofLimit none) ≠ .tooDeep := by simp [ran]
  obtain ⟨other, written, done, -, -, blocks, -, -, cut⟩ :=
    run_cut_off (Memory.takesAll_output _) (Memory.collects_output _) rfl Memory.keepsAll_writer
      rfl ends (fun _ => rfl) (Memory.takesFirst_output _ 20) Memory.keepsAll_writer rfl
  obtain rfl : state = other := WalkOutcome.done.inj (ran.symm.trans done)
  obtain ⟨after, problem, front, file, back, failed, held, rfl, whole, broken, lines⟩ :=
    cut (by omega)
  exact ⟨state, after, problem, front, file, back, ran, blocks, congrArg Prod.snd seen, failed,
    held, whole, broken, lines⟩

end TreeBundle.PackJob
