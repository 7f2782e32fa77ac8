import TreeBundle.Proofs.Pack.Choice
import TreeBundle.Proofs.Pack.Writer
import TreeBundle.Proofs.Walk.Outcome

/-!
# The acts of a run

As long as no file shows what is written, all that a run does is fixed beforehand, its log apart:
how many directories it cuts, which files it packs in which pass, which files are missing, and where
a walk goes deeper than it may. A run performs these acts one after another up to the first failure
of its output, whatever its output and its diagnostics are.
-/
namespace TreeBundle
set_option autoImplicit false

/-- A state without what was logged. -/
def PackState.unlogged {σ δ : Type} (state : PackState σ δ) : PackState σ δ :=
  { state with log := [] }

namespace PackJob

variable {σ δ : Type}

/-- A file that is packed: its path below the root, and what it holds on disk. -/
structure Packed where
  rel : String
  bytes : Bytes

/-- The pieces of the block of a file. -/
def Packed.pieces (file : Packed) : List Bytes :=
  Block.pieces (NativePath.ofRelative file.rel).text (Utf8.lossyString file.bytes)

/-- What a run does at a time. -/
inductive Act where
  /-- Some directories are cut. -/
  | cut (count : Nat)
  /-- A file is packed, because it is always included if `forced`. -/
  | pack (forced : Bool) (file : Packed)
  /-- A file to include always is missing. -/
  | miss
  /-- The walk would go deeper than it may. -/
  | stop

namespace Act

/-- The file that an act packs, if any. -/
def packs : Act → List Packed
  | .pack _ file => [file]
  | _ => []

def pieces (act : Act) : List Bytes :=
  act.packs.flatMap Packed.pieces

/-- What an act adds to a report. -/
def count (report : PackReport) : Act → PackReport
  | .cut count => { report with dirsPruned := report.dirsPruned + count }
  | .pack forced file =>
    { report with
      filesWritten := report.filesWritten + 1
      bytesWritten := report.bytesWritten + file.bytes.length
      forcedWritten := report.forcedWritten + forced.toNat }
  | .miss => { report with forcedSkipped := report.forcedSkipped + 1 }
  | .stop => report

end Act

/-- The files that some acts pack. -/
def packed (acts : List Act) : List Packed :=
  acts.flatMap Act.packs

/-! ## Performing acts -/

section Perform

variable (job : PackJob σ δ)

/-- The diagnostics line of a file. -/
def line (file : Packed) : Bytes :=
  Utf8.ofString
    (job.diagnosticsLine (job.filePath file.rel) (.ofRelative file.rel) file.bytes.length)

def tell (diag : δ) (file : Packed) : δ :=
  (job.diagnostics.write diag (job.line file)).1

/-- Performs an act, logging nothing. -/
def performOne : Act → PackState σ δ → WalkOutcome (PackState σ δ) IoError
  | .cut count, state => .done (state.countPruned count)
  | .pack forced file, state =>
    let told := { state with diag := job.tell state.diag file }
    match job.output.writeAll file.pieces state.out with
    | (out, some problem) => .failed { told with out } problem
    | (out, none) =>
      let written := { told with out }.addWritten (job.filePath file.rel) file.bytes.length
      .done (if forced then written.countForced true else written)
  | .miss, state => .done (state.countForced false)
  | .stop, _ => .tooDeep

/-- Performs acts up to the first failure. -/
def perform : List Act → PackState σ δ → WalkOutcome (PackState σ δ) IoError
  | [], state => .done state
  | act :: rest, state => (job.performOne act state).andThen (perform rest)

/-- The state after acts that have all succeeded. -/
def performed (acts : List Act) (state : PackState σ δ) : PackState σ δ where
  out := (job.output.writeAll (acts.flatMap Act.pieces) state.out).1
  diag := (packed acts).foldl job.tell state.diag
  seen := (packed acts).reverse.map (fun file => job.filePath file.rel) ++ state.seen
  report := acts.foldl Act.count state.report
  log := state.log

end Perform

section Outcome

variable {job : PackJob σ δ} {files : FileSystem} {state : PackState σ δ}

theorem perform_append (first second : List Act) (state : PackState σ δ) :
    job.perform (first ++ second) state =
      (job.perform first state).andThen (job.perform second) := by
  induction first generalizing state with
  | nil => rfl
  | cons act first ih =>
    rw [List.cons_append, perform, perform, WalkOutcome.andThen_assoc]
    exact congrArg _ (funext ih)

theorem packed_append (first second : List Act) :
    packed (first ++ second) = packed first ++ packed second :=
  List.flatMap_append

theorem flatMap_pieces (acts : List Act) :
    acts.flatMap Act.pieces = (packed acts).flatMap Packed.pieces :=
  List.flatMap_assoc.symm

theorem performOne_of_success {act : Act} (goes_on : act ≠ .stop)
    (success : (job.output.writeAll act.pieces state.out).2 = none) :
    job.performOne act state = .done (job.performed [act] state) := by
  cases act with
  | stop => exact absurd rfl goes_on
  | pack forced file =>
    have pieces : [Act.pack forced file].flatMap Act.pieces = file.pieces := by
      simp [Act.pieces, Act.packs]
    rw [show (Act.pack forced file).pieces = file.pieces by simp [Act.pieces, Act.packs]] at success
    rw [performOne, performed, pieces]
    generalize job.output.writeAll file.pieces state.out = result at success
    obtain ⟨out, problem⟩ := result
    obtain rfl : problem = none := success
    cases forced <;> rfl
  | _ => rfl

theorem performOne_of_failure {act : Act} {problem : IoError}
    (failure : (job.output.writeAll act.pieces state.out).2 = some problem) :
    job.performOne act state =
      .failed { state with
        out := (job.output.writeAll act.pieces state.out).1
        diag := act.packs.foldl job.tell state.diag } problem := by
  cases act with
  | pack forced file =>
    rw [show (Act.pack forced file).pieces = file.pieces by simp [Act.pieces, Act.packs]]
      at failure ⊢
    rw [performOne]
    generalize job.output.writeAll file.pieces state.out = result at failure
    obtain ⟨out, other⟩ := result
    obtain rfl : other = some problem := failure
    rfl
  | _ => cases failure

theorem performed_cons {act : Act} {acts : List Act}
    (success : (job.output.writeAll act.pieces state.out).2 = none) :
    job.performed acts (job.performed [act] state) = job.performed (act :: acts) state := by
  have first : [act].flatMap Act.pieces = act.pieces := List.flatMap_singleton _ _
  simp only [performed, first, packed, List.flatMap_cons, List.flatMap_nil, List.append_nil,
    List.foldl_cons, List.foldl_nil, List.foldl_append, List.reverse_append, List.map_append,
    List.append_assoc, job.output.writeAll_append success]

theorem success_of_performOne {act : Act} {after : PackState σ δ}
    (done : job.performOne act state = .done after) :
    act ≠ .stop ∧ (job.output.writeAll act.pieces state.out).2 = none := by
  constructor
  · rintro rfl
    cases done
  · cases wrote : (job.output.writeAll act.pieces state.out).2 with
    | none => rfl
    | some problem =>
      rw [performOne_of_failure wrote] at done
      cases done

/-- Acts that are done have all been performed, and all their writes have succeeded. -/
theorem performed_of_done {acts : List Act} {after : PackState σ δ}
    (done : job.perform acts state = .done after) :
    (job.output.writeAll (acts.flatMap Act.pieces) state.out).2 = none ∧
      after = job.performed acts state := by
  induction acts generalizing state with
  | nil => exact ⟨rfl, (WalkOutcome.done.inj done).symm⟩
  | cons act acts ih =>
    rw [perform] at done
    cases first : job.performOne act state with
    | done next =>
      obtain ⟨goes_on, success⟩ := success_of_performOne first
      rw [performOne_of_success goes_on success] at first done
      obtain ⟨rest_success, rfl⟩ := ih done
      rw [performed, List.flatMap_singleton] at rest_success
      rw [List.flatMap_cons, job.output.writeAll_append success, performed_cons success]
      exact ⟨rest_success, rfl⟩
    | _ =>
      rw [first] at done
      cases done

/-- Acts whose writes all succeed are all performed. -/
theorem perform_of_success {acts : List Act} (goes_on : .stop ∉ acts)
    (success : (job.output.writeAll (acts.flatMap Act.pieces) state.out).2 = none) :
    job.perform acts state = .done (job.performed acts state) := by
  induction acts generalizing state with
  | nil => rfl
  | cons act acts ih =>
    have act_goes_on : act ≠ .stop := fun same => goes_on (same ▸ List.mem_cons_self)
    rw [List.flatMap_cons] at success
    cases first : (job.output.writeAll act.pieces state.out).2 with
    | some problem =>
      rw [job.output.writeAll_append_of_failure first, first] at success
      cases success
    | none =>
      rw [job.output.writeAll_append first] at success
      have rest_success :
          (job.output.writeAll (acts.flatMap Act.pieces) (job.performed [act] state).out).2 =
            none := by
        rw [performed, List.flatMap_singleton]
        exact success
      rw [perform, performOne_of_success act_goes_on first, WalkOutcome.andThen,
        ih (fun inside => goes_on (List.mem_cons_of_mem _ inside)) rest_success,
        performed_cons first]

/-- Acts with a write that fails are performed up to the first such write. -/
theorem exists_failed_of_failure {acts : List Act} {problem : IoError} (goes_on : .stop ∉ acts)
    (failure : (job.output.writeAll (acts.flatMap Act.pieces) state.out).2 = some problem) :
    ∃ front forced file back, acts = front ++ .pack forced file :: back ∧
      (job.output.writeAll (front.flatMap Act.pieces) state.out).2 = none ∧
      (job.output.writeAll ((front ++ [.pack forced file]).flatMap Act.pieces) state.out).2 =
        some problem ∧
      job.perform acts state =
        .failed { job.performed front state with
          out := (job.output.writeAll (acts.flatMap Act.pieces) state.out).1
          diag := job.tell (job.performed front state).diag file } problem := by
  induction acts generalizing state with
  | nil => cases failure
  | cons act acts ih =>
    have act_goes_on : act ≠ .stop := fun same => goes_on (same ▸ List.mem_cons_self)
    have rest_goes_on : .stop ∉ acts := fun inside => goes_on (List.mem_cons_of_mem _ inside)
    rw [List.flatMap_cons] at failure ⊢
    cases first : (job.output.writeAll act.pieces state.out).2 with
    | some other =>
      rw [job.output.writeAll_append_of_failure first] at failure ⊢
      obtain rfl : other = problem := Option.some.inj (first.symm.trans failure)
      cases act with
      | pack forced file =>
        refine ⟨[], forced, file, acts, rfl, rfl, ?_, ?_⟩
        · rw [List.nil_append, List.flatMap_singleton, first]
        · rw [perform, performOne_of_failure first]
          rfl
      | _ => cases first
    | none =>
      rw [job.output.writeAll_append first] at failure ⊢
      have next : (job.performed [act] state).out =
          (job.output.writeAll act.pieces state.out).1 := by
        rw [performed, List.flatMap_singleton]
      obtain ⟨front, forced, file, back, rfl, front_success, fails, failed⟩ :=
        ih rest_goes_on (next.symm ▸ failure)
      rw [next] at front_success fails failed
      refine ⟨act :: front, forced, file, back, rfl, ?_, ?_, ?_⟩
      · rw [List.flatMap_cons, job.output.writeAll_append first, front_success]
      · rw [List.cons_append, List.flatMap_cons, job.output.writeAll_append first, fails]
      · rw [perform, performOne_of_success act_goes_on first, WalkOutcome.andThen, failed,
          performed_cons first]

/-- A walk that may not go on comes to an end there, if no write fails before. -/
theorem perform_of_stop {acts : List Act} (stops : .stop ∈ acts)
    (success : (job.output.writeAll (acts.flatMap Act.pieces) state.out).2 = none) :
    job.perform acts state = .tooDeep := by
  induction acts generalizing state with
  | nil => cases stops
  | cons act acts ih =>
    by_cases here : act = .stop
    · subst here
      rfl
    · have later : .stop ∈ acts := (List.mem_cons.1 stops).resolve_left (Ne.symm here)
      rw [List.flatMap_cons] at success
      cases first : (job.output.writeAll act.pieces state.out).2 with
      | some problem =>
        rw [job.output.writeAll_append_of_failure first, first] at success
        cases success
      | none =>
        rw [job.output.writeAll_append first] at success
        rw [perform, performOne_of_success here first, WalkOutcome.andThen]
        refine ih later ?_
        rw [performed, List.flatMap_singleton]
        exact success

/-- Acts that go on do not go too deep, whether their writes fail or not. -/
theorem perform_ne_tooDeep {acts : List Act} (goes_on : .stop ∉ acts) :
    job.perform acts state ≠ .tooDeep := by
  cases wrote : (job.output.writeAll (acts.flatMap Act.pieces) state.out).2 with
  | none =>
    rw [perform_of_success goes_on wrote]
    simp
  | some problem =>
    obtain ⟨front, forced, file, back, -, -, -, failed⟩ := exists_failed_of_failure goes_on wrote
    rw [failed]
    simp

end Outcome

end PackJob
end TreeBundle
