import Mathlib.Data.List.Basic
import TreeBundle.Proofs.Decide.Prune
import TreeBundle.Proofs.FileSystem.Listing
import TreeBundle.Proofs.Pack.Acts
import TreeBundle.Proofs.Path.OnDisk

/-!
# The script of a run

The acts of a run are read off the files: those of the walk directory by directory, and those of the
second pass file by file. A run performs exactly these acts as long as its output presents these
files: no file that is packed, and nothing that is listed, shows what is written. An output that no
file shows presents them anyway.
-/
namespace TreeBundle.PackJob
set_option autoImplicit false

variable {σ δ : Type}

section Script

variable (job : PackJob σ δ) (files : FileSystem)

def packedAt (rel : String) : Packed :=
  ⟨rel, bytesAt files (job.filePath rel)⟩

/-- The acts of the walk at one directory. -/
def listedActs (listing : Listing) : List Act :=
  .cut (job.rules.prune listing.rel listing.subdirs).cut.length ::
    (job.chosenIn files listing).map fun name =>
      .pack false (job.packedAt files (RelPath.join listing.rel name))

/-- The acts of the walk from a directory on, going at most `depth` deep. -/
def walkActs : Nat → String → List Act
  | 0, _ => [.stop]
  | depth + 1, rel =>
    job.listedActs files (job.listing files rel) ++
      (job.entered (job.listing files rel)).flatMap fun name =>
        walkActs depth (RelPath.join rel name)

/-- The acts of the second pass, with the files already written. -/
def forceActs (seen : List NativePath) : List String → List Act
  | [] => []
  | rel :: rest =>
    let path := job.filePath rel
    if seen.any path.same then forceActs seen rest
    else if job.isSkipped path then forceActs seen rest
    else if files.isReadable path then
      .pack true (job.packedAt files rel) :: forceActs (path :: seen) rest
    else .miss :: forceActs seen rest

/-- The act for a file to include always, unless it is among those already written. -/
def forceAct (written : List String) (rel : String) : List Act :=
  if written.contains rel || job.isSkipped (job.filePath rel) then []
  else if files.isReadable (job.filePath rel) then [.pack true (job.packedAt files rel)]
  else [.miss]

/-- The acts of the second pass after a walk. -/
def addedActs (depth : Nat) : List Act :=
  job.forceActs files
    ((packed (job.walkActs files depth RelPath.root)).reverse.map fun file =>
      job.filePath file.rel)
    job.rules.alwaysIncludeFiles

/-- The acts of a run that walks at most `depth` deep. -/
def runActs (depth : Nat) : List Act :=
  job.walkActs files depth RelPath.root ++ job.addedActs files depth

/-- An outcome is that of performing some acts, the log apart. -/
def Performs (acts : List Act) (state : PackState σ δ)
    (outcome : WalkOutcome (PackState σ δ) IoError) : Prop :=
  outcome.map PackState.unlogged = job.perform acts state.unlogged

/-- What an output must show while it is written for a run to perform the acts that are read off
some files: the same listings, with the same files admitted, and the same bytes in those files that
are packed. -/
structure Presents (packs : String → Prop) (holds : σ → Prop) : Prop where
  list : ∀ out path rel, holds out →
    (job.output.files out).list (job.root.join path) rel = files.list (job.root.join path) rel
  admits : ∀ out path name, holds out →
    job.rules.admits (job.output.files out) name (job.root.join path) =
      job.rules.admits files name (job.root.join path)
  isReadable : ∀ out rel, holds out →
    (job.output.files out).isReadable (job.filePath rel) = files.isReadable (job.filePath rel)
  bytes : ∀ out rel, holds out → packs rel →
    (job.output.files out).regularBytes (job.filePath rel) =
      files.regularBytes (job.filePath rel)
  write : ∀ out (file : Packed), holds out → packs file.rel →
    (job.output.writeAll file.pieces out).2 = none →
    holds (job.output.writeAll file.pieces out).1

end Script

/-- What holds of the paths of all files that some acts pack. -/
def AllPacked (packs : String → Prop) (acts : List Act) : Prop :=
  ∀ file ∈ packed acts, packs file.rel

theorem allPacked_append {packs : String → Prop} {first second : List Act} :
    AllPacked packs (first ++ second) ↔ AllPacked packs first ∧ AllPacked packs second := by
  simp only [AllPacked, packed_append, List.mem_append, or_imp, forall_and]

theorem allPacked_cons {packs : String → Prop} {act : Act} {rest : List Act} :
    AllPacked packs (act :: rest) ↔ AllPacked packs [act] ∧ AllPacked packs rest := by
  rw [← List.singleton_append, allPacked_append]

variable {job : PackJob σ δ} {files : FileSystem} {state : PackState σ δ}

/-- An output that no file shows presents the files whatever is packed. -/
theorem presents_static (job : PackJob σ δ) (files : FileSystem) :
    job.Presents files (fun _ => True) (job.output.Static files) where
  list out path rel static := by rw [static.files_eq]
  admits out path name static := by rw [static.files_eq]
  isReadable out rel static := by rw [static.files_eq]
  bytes out rel static _ := by rw [static.files_eq]
  write out file static _ success := static.after success

theorem pieces_packedAt {rel : String} :
    (job.packedAt files rel).pieces = job.blockOf files rel := by
  have shown : Utf8.lossyString (bytesAt files (job.filePath rel)) =
      shownText files (job.filePath rel) := by
    rw [bytesAt, shownText]
    cases files.regularBytes (job.filePath rel) with
    | ok bytes => rfl
    | error problem => exact Utf8.lossyString_nil
  rw [blockOf, ← shown]
  rfl

/-! ## One act after another -/

section Acts

variable {packs : String → Prop} {holds : σ → Prop} (presents : job.Presents files packs holds)

include presents

/-- The output still presents the files after acts that are done. -/
theorem Presents.holds_of_perform {acts : List Act} {after : PackState σ δ}
    (all_packed : AllPacked packs acts) (start : holds state.out)
    (done : job.perform acts state = .done after) : holds after.out := by
  induction acts generalizing state with
  | nil =>
    cases done
    exact start
  | cons act acts ih =>
    obtain ⟨act_packed, rest_packed⟩ := allPacked_cons.1 all_packed
    rw [perform] at done
    cases first : job.performOne act state with
    | done next =>
      obtain ⟨goes_on, success⟩ := success_of_performOne first
      rw [first] at done
      rw [performOne_of_success goes_on success] at first
      cases first
      refine ih rest_packed ?_ done
      rw [performed, List.flatMap_singleton]
      cases act with
      | pack forced file =>
        rw [show (Act.pack forced file).pieces = file.pieces by simp [Act.pieces, Act.packs]]
          at success ⊢
        exact presents.write state.out file start (act_packed file List.mem_cons_self) success
      | _ => exact start
    | _ =>
      rw [first] at done
      cases done

/-- What goes on after some acts performs its own acts after them. -/
theorem Presents.andThen {first second : List Act} {outcome : WalkOutcome (PackState σ δ) IoError}
    {next : PackState σ δ → WalkOutcome (PackState σ δ) IoError}
    (performs : job.Performs first state outcome) (all_packed : AllPacked packs first)
    (start : holds state.out)
    (then_performs : ∀ after, holds after.out →
      job.perform first state.unlogged = .done after.unlogged →
      job.Performs second after (next after)) :
    job.Performs (first ++ second) state (outcome.andThen next) := by
  rw [Performs] at performs
  rw [Performs, perform_append, ← performs]
  cases outcome with
  | done after =>
    have unlogged_start : holds state.unlogged.out := start
    have done : job.perform first state.unlogged = .done after.unlogged := performs.symm
    have after_holds : holds after.unlogged.out :=
      presents.holds_of_perform all_packed unlogged_start done
    exact then_performs after after_holds done
  | _ => rfl

theorem Presents.foldl {first : List Act} {outcome : WalkOutcome (PackState σ δ) IoError}
    {next : String → PackState σ δ → WalkOutcome (PackState σ δ) IoError}
    {acts : String → List Act} {names : List String} (performs : job.Performs first state outcome)
    (all_packed : AllPacked packs (first ++ names.flatMap acts)) (start : holds state.out)
    (each : ∀ name ∈ names, AllPacked packs (acts name) → ∀ after, holds after.out →
      job.Performs (acts name) after (next name after)) :
    job.Performs (first ++ names.flatMap acts) state
      (names.foldl (fun outcome name => outcome.andThen (next name)) outcome) := by
  induction names generalizing first outcome with
  | nil => rwa [List.flatMap_nil, List.append_nil]
  | cons name names ih =>
    rw [List.flatMap_cons, ← List.append_assoc] at all_packed ⊢
    obtain ⟨first_packed, name_packed⟩ := allPacked_append.1 (allPacked_append.1 all_packed).1
    have one := presents.andThen performs first_packed start fun after after_holds _ =>
      each name List.mem_cons_self name_packed after after_holds
    rw [List.foldl_cons]
    exact ih one all_packed fun other member => each other (List.mem_cons_of_mem _ member)

end Acts

/-- What has failed performs as many acts as there are. -/
theorem Performs.append {first : List Act} {after : PackState σ δ} {problem : IoError}
    (performs : job.Performs first state (.failed after problem)) (second : List Act) :
    job.Performs (first ++ second) state (.failed after problem) := by
  rw [Performs] at performs
  rw [Performs, perform_append, ← performs]
  rfl

/-- What performs acts whose writes all succeed has them performed. -/
theorem Performs.done {acts : List Act} {outcome : WalkOutcome (PackState σ δ) IoError}
    (performs : job.Performs acts state outcome) (goes_on : .stop ∉ acts)
    (success : (job.output.writeAll (acts.flatMap Act.pieces) state.out).2 = none) :
    ∃ after, outcome = .done after ∧ after.unlogged = job.performed acts state.unlogged := by
  have unlogged_success :
      (job.output.writeAll (acts.flatMap Act.pieces) state.unlogged.out).2 = none := success
  rw [Performs, perform_of_success goes_on unlogged_success] at performs
  exact WalkOutcome.exists_done_of_map performs

/-- What performs acts with a write that fails has told of the files up to that write. -/
theorem Performs.failed {acts : List Act} {outcome : WalkOutcome (PackState σ δ) IoError}
    {problem : IoError} (performs : job.Performs acts state outcome) (goes_on : .stop ∉ acts)
    (failure : (job.output.writeAll (acts.flatMap Act.pieces) state.out).2 = some problem) :
    ∃ front forced file back after, acts = front ++ .pack forced file :: back ∧
      (job.output.writeAll (front.flatMap Act.pieces) state.out).2 = none ∧
      (job.output.writeAll ((front ++ [.pack forced file]).flatMap Act.pieces) state.out).2 =
        some problem ∧
      outcome = .failed after problem ∧
      after.out = (job.output.writeAll (acts.flatMap Act.pieces) state.out).1 ∧
      after.diag = (packed front ++ [file]).foldl job.tell state.diag := by
  have unlogged_failure :
      (job.output.writeAll (acts.flatMap Act.pieces) state.unlogged.out).2 = some problem := failure
  obtain ⟨front, forced, file, back, rfl, success, fails, failed⟩ :=
    exists_failed_of_failure goes_on unlogged_failure
  rw [Performs, failed] at performs
  obtain ⟨after, rfl, same⟩ := WalkOutcome.exists_failed_of_map performs
  refine ⟨front, forced, file, back, after, rfl, success, fails, rfl,
    congrArg PackState.out same, ?_⟩
  rw [List.foldl_append]
  exact congrArg PackState.diag same

theorem Performs.tooDeep {acts : List Act} {outcome : WalkOutcome (PackState σ δ) IoError}
    (performs : job.Performs acts state outcome) (stops : .stop ∈ acts)
    (success : (job.output.writeAll (acts.flatMap Act.pieces) state.out).2 = none) :
    outcome = .tooDeep := by
  have unlogged_success :
      (job.output.writeAll (acts.flatMap Act.pieces) state.unlogged.out).2 = none := success
  rw [Performs, perform_of_stop stops unlogged_success] at performs
  exact WalkOutcome.eq_tooDeep_of_map performs

/-- What performs acts that go on does not go too deep. -/
theorem Performs.ne_tooDeep {acts : List Act} {outcome : WalkOutcome (PackState σ δ) IoError}
    (performs : job.Performs acts state outcome) (goes_on : .stop ∉ acts) : outcome ≠ .tooDeep := by
  rintro rfl
  exact perform_ne_tooDeep goes_on performs.symm

/-! ## One file -/

/-- Emitting a regular file tells its line and writes its block. -/
theorem emit_eq (state : PackState σ δ) {rel : String} {bytes : Bytes}
    (regular : (job.output.files state.out).regularBytes (job.filePath rel) = .ok bytes) :
    ∃ told : PackState σ δ,
      told.unlogged = { state.unlogged with diag := job.tell state.diag ⟨rel, bytes⟩ } ∧
      job.emit rel (job.filePath rel) state =
        match job.output.writeAll (Packed.pieces ⟨rel, bytes⟩) state.out with
        | (out, some problem) => ({ told with out }, .failed problem)
        | (out, none) =>
          ({ told with out }.addWritten (job.filePath rel) bytes.length, .written) := by
  have found : (job.output.files state.out).content (job.filePath rel) =
      .ok (FileSystem.contentOf bytes) := by
    rw [FileSystem.content, regular]
    rfl
  refine ⟨job.announce (job.filePath rel) (.ofRelative rel) (FileSystem.contentOf bytes) state,
    ?_, ?_⟩
  · rw [announce, FileSystem.size_contentOf]
    rfl
  · rw [emit, found]
    simp only [FileSystem.text_contentOf, FileSystem.size_contentOf]
    rfl

section Shown

variable {packs : String → Prop} {holds : σ → Prop} (presents : job.Presents files packs holds)

include presents

/-- Emitting a file that can be read packs it. -/
theorem Presents.emit_cases {rel : String} (forced : Bool) (start : holds state.out)
    (packed_rel : packs rel) (readable : files.isReadable (job.filePath rel) = true) :
    (∃ after, job.emit rel (job.filePath rel) state = (after, .written) ∧
      job.Performs [.pack forced (job.packedAt files rel)] state
        (.done (if forced then after.countForced true else after))) ∨
    ∃ after problem, job.emit rel (job.filePath rel) state = (after, .failed problem) ∧
      job.Performs [.pack forced (job.packedAt files rel)] state (.failed after problem) := by
  have regular := regularBytes_of_isReadable readable
  rw [← presents.bytes state.out rel start packed_rel] at regular
  obtain ⟨told, same, emits⟩ := emit_eq state regular
  have same_out : (state.unlogged).out = state.out := rfl
  rw [emits]
  simp only [Performs, perform, performOne, same_out, packedAt]
  generalize bytesAt files (job.filePath rel) = bytes at same
  generalize job.output.writeAll (Packed.pieces ⟨rel, bytes⟩) state.out = result
  obtain ⟨out, problem⟩ := result
  have wrote : ({ told with out } : PackState σ δ).unlogged =
      { told.unlogged with out } := rfl
  cases problem with
  | some problem =>
    refine Or.inr ⟨_, problem, rfl, ?_⟩
    rw [WalkOutcome.map, wrote, same]
    rfl
  | none =>
    refine Or.inl ⟨_, rfl, ?_⟩
    have written : (({ told with out } : PackState σ δ).addWritten (job.filePath rel)
        bytes.length).unlogged =
          ({ told.unlogged with out } : PackState σ δ).addWritten (job.filePath rel)
            bytes.length := rfl
    cases forced with
    | false =>
      simp only [Bool.false_eq_true, if_false, WalkOutcome.map, WalkOutcome.andThen]
      rw [written, same]
      rfl
    | true =>
      have counted : ∀ state : PackState σ δ,
          (state.countForced true).unlogged = state.unlogged.countForced true := fun _ => rfl
      simp only [if_true, WalkOutcome.map, WalkOutcome.andThen]
      rw [counted, written, same]
      rfl

/-- Anything else is passed over. -/
theorem Presents.emit_of_unreadable {rel : String} (start : holds state.out)
    (unreadable : files.isReadable (job.filePath rel) = false) :
    ∃ event, job.emit rel (job.filePath rel) state = (state.note [event], .unreadable) := by
  rw [← presents.isReadable state.out rel start] at unreadable
  obtain ⟨problem, failed⟩ := content_of_not_isReadable unreadable
  rw [emit, failed]
  exact ⟨_, rfl⟩

/-! ## The walk -/

/-- A listed file is packed exactly if it is chosen. -/
theorem Presents.emitListed {listing : Listing} {path : NativePath}
    (found_at : listing.path = job.root.join path) (name : String) (state : PackState σ δ)
    (start : holds state.out)
    (all_packed : AllPacked packs (([name].filter (job.writes files listing)).map fun name =>
      .pack false (job.packedAt files (RelPath.join listing.rel name)))) :
    job.Performs (([name].filter (job.writes files listing)).map fun name =>
        .pack false (job.packedAt files (RelPath.join listing.rel name))) state
      (.ofResult (job.emitListed listing name state)) := by
  cases skipped : job.isSkipped (job.filePath (RelPath.join listing.rel name)) with
  | true =>
    have left_out : ¬job.writes files listing name = true := by simp [writes, skipped]
    rw [PackJob.emitListed, if_pos skipped, List.filter_cons_of_neg left_out]
    rfl
  | false =>
    have admits := presents.admits state.out path name start
    rw [← found_at] at admits
    rw [PackJob.emitListed, if_neg (by simp [skipped])]
    simp only
    generalize decided : job.rules.decide (job.output.files state.out) name listing.path = decision
    have verdict : decision.verdict.isAdmitted = job.rules.admits files name listing.path := by
      rw [← decided]
      exact admits
    rw [verdict]
    cases admitted : job.rules.admits files name listing.path with
    | false =>
      have left_out : ¬job.writes files listing name = true := by simp [writes, admitted]
      rw [List.filter_cons_of_neg left_out]
      rfl
    | true =>
      rw [if_pos rfl]
      generalize told : state.note [.classified (listing.path.join (.ofString name)) decision] =
        noted
      have same : noted.unlogged = state.unlogged := told ▸ rfl
      have noted_start : holds noted.out := told ▸ start
      rw [Performs, ← same]
      cases readable : files.isReadable (job.filePath (RelPath.join listing.rel name)) with
      | false =>
        have left_out : ¬job.writes files listing name = true := by simp [writes, readable]
        obtain ⟨event, emitted⟩ := presents.emit_of_unreadable noted_start readable
        rw [List.filter_cons_of_neg left_out, emitted]
        rfl
      | true =>
        have chosen : job.writes files listing name = true := by
          simp [writes, skipped, admitted, readable]
        rw [List.filter_cons_of_pos chosen] at all_packed ⊢
        have packed_rel : packs (RelPath.join listing.rel name) :=
          all_packed _ List.mem_cons_self
        rcases presents.emit_cases false noted_start packed_rel readable with
          ⟨after, emitted, performs⟩ | ⟨after, problem, emitted, performs⟩
        · rw [emitted]
          exact performs
        · rw [emitted]
          exact performs

theorem Presents.emitAdmitted {listing : Listing} {path : NativePath}
    (found_at : listing.path = job.root.join path) (names : List String) (state : PackState σ δ)
    (start : holds state.out)
    (all_packed : AllPacked packs ((names.filter (job.writes files listing)).map fun name =>
      .pack false (job.packedAt files (RelPath.join listing.rel name)))) :
    job.Performs ((names.filter (job.writes files listing)).map fun name =>
        .pack false (job.packedAt files (RelPath.join listing.rel name))) state
      (.ofResult (job.emitAdmitted listing names state)) := by
  induction names generalizing state with
  | nil => rfl
  | cons name rest ih =>
    have split : (name :: rest).filter (job.writes files listing) =
        [name].filter (job.writes files listing) ++ rest.filter (job.writes files listing) :=
      List.filter_append [name] rest
    rw [split, List.map_append] at all_packed ⊢
    obtain ⟨name_packed, rest_packed⟩ := allPacked_append.1 all_packed
    have first := presents.emitListed found_at name state start name_packed
    have both := presents.andThen first name_packed start
      fun after after_holds _ => ih after after_holds rest_packed
    rw [PackJob.emitAdmitted]
    generalize job.emitListed listing name state = result at both
    obtain ⟨after, problem⟩ := result
    cases problem with
    | none => exact both
    | some problem => exact both

/-- Visiting a directory performs its acts and names the subdirectories that are kept. -/
theorem Presents.visit_cases {listing : Listing} {path : NativePath}
    (found_at : listing.path = job.root.join path) (state : PackState σ δ)
    (start : holds state.out) (all_packed : AllPacked packs (job.listedActs files listing)) :
    (∃ after, job.visit state listing =
        (after, .ok (job.rules.prune listing.rel listing.subdirs).kept) ∧
      job.Performs (job.listedActs files listing) state (.done after)) ∨
    ∃ after problem, job.visit state listing = (after, .error problem) ∧
      job.Performs (job.listedActs files listing) state (.failed after problem) := by
  rw [listedActs, chosenIn] at all_packed
  rw [visit, listedActs, chosenIn]
  by_cases processed : (job.rules.prune listing.rel listing.subdirs).processCurrent = true
  · simp only [processed, if_true] at all_packed ⊢
    have performs := presents.emitAdmitted found_at listing.files
      ((state.countPruned (job.rules.prune listing.rel listing.subdirs).cut.length).note
        ((job.rules.prune listing.rel listing.subdirs).cut.map .pruned)) start
      (allPacked_cons.1 all_packed).2
    generalize job.emitAdmitted listing listing.files _ = result at performs
    obtain ⟨after, problem⟩ := result
    cases problem with
    | none => exact Or.inl ⟨after, rfl, performs⟩
    | some problem => exact Or.inr ⟨after, problem, rfl, performs⟩
  · simp only [processed, Bool.false_eq_true, if_false]
    exact Or.inl ⟨_, rfl, rfl⟩

/-- A walk performs the acts of its directories. -/
theorem Presents.walkFrom (depth : Nat) (rel : String) (state : PackState σ δ)
    (start : holds state.out) (all_packed : AllPacked packs (job.walkActs files depth rel)) :
    job.Performs (job.walkActs files depth rel) state
      (TreeBundle.walkFrom job.visitor job.root depth rel state) := by
  induction depth generalizing rel state with
  | zero => rfl
  | succ depth ih =>
    have found : ((job.visitor.files state).list (job.root.join (.ofRelative rel)) rel).1 =
        job.listing files rel := by
      rw [show (job.visitor.files state).list (job.root.join (.ofRelative rel)) rel = _ from
        presents.list state.out (.ofRelative rel) rel start]
      rfl
    have found_at : (job.listing files rel).path = job.root.join (.ofRelative rel) :=
      FileSystem.path_list _ _
    rw [walkActs] at all_packed
    rw [TreeBundle.walkFrom, walkActs, show job.visitor.visit = job.visit from rfl, found]
    rcases presents.visit_cases found_at (job.visitor.note state
        ((job.visitor.files state).list (job.root.join (.ofRelative rel)) rel).2) start
        (allPacked_append.1 all_packed).1 with
      ⟨after, visited, performs⟩ | ⟨after, problem, visited, performs⟩
    · rw [visited]
      exact presents.foldl performs all_packed start fun name _ name_packed next next_holds =>
        ih _ next next_holds name_packed
    · rw [visited]
      exact performs.append _

/-! ## The second pass -/

theorem Presents.emitForced (rels : List String) (state : PackState σ δ) (start : holds state.out)
    (all_packed : AllPacked packs (job.forceActs files state.seen rels)) :
    job.Performs (job.forceActs files state.seen rels) state (job.emitForced rels state) := by
  induction rels generalizing state with
  | nil => rfl
  | cons rel rest ih =>
    rw [forceActs] at all_packed
    rw [PackJob.emitForced, forceActs]
    by_cases seen : state.seen.any (job.filePath rel).same = true
    · rw [if_pos seen] at all_packed
      rw [if_pos seen, if_pos seen]
      exact ih (state.note [.alreadyWritten rel]) start all_packed
    rw [if_neg seen] at all_packed
    rw [if_neg seen, if_neg seen]
    by_cases skipped : job.isSkipped (job.filePath rel) = true
    · rw [if_pos skipped] at all_packed
      rw [if_pos skipped, if_pos skipped]
      exact ih state start all_packed
    rw [if_neg skipped] at all_packed
    rw [if_neg skipped, if_neg skipped]
    have shown := presents.isReadable state.out rel start
    cases readable : files.isReadable (job.filePath rel) with
    | false =>
      simp only [readable, Bool.false_eq_true, if_false] at all_packed ⊢
      have rest_packed := (allPacked_cons.1 all_packed).2
      split
      · obtain ⟨event, emitted⟩ := presents.emit_of_unreadable start readable
        rw [emitted]
        exact ih ((state.note [event]).countForced false) start rest_packed
      · exact ih ((state.note [.forcedMissing rel]).countForced false) start rest_packed
    | true =>
      have is_file := FileSystem.isFile_of_isReadable (shown.trans readable)
      simp only [readable, is_file, if_true] at all_packed ⊢
      obtain ⟨rel_packed, rest_packed⟩ := allPacked_cons.1 all_packed
      have packed_rel : packs rel := rel_packed _ List.mem_cons_self
      rcases presents.emit_cases true start packed_rel readable with
        ⟨after, emitted, performs⟩ | ⟨after, problem, emitted, performs⟩
      · rw [emitted, ← List.singleton_append]
        refine presents.andThen performs rel_packed start fun next next_holds done => ?_
        have now_seen : next.seen = job.filePath rel :: state.seen :=
          congrArg PackState.seen (performed_of_done done).2
        rw [← now_seen] at rest_packed ⊢
        exact ih next next_holds rest_packed
      · rw [emitted]
        exact performs.append _

/-- A run from nothing performs its acts, as far as its output goes along. -/
theorem Presents.runWithin {out : σ} (start : holds out) (depth : Nat) (diag : δ)
    (all_packed : AllPacked packs (job.runActs files depth)) :
    job.Performs (job.runActs files depth) (.initial out diag)
      (job.runWithin depth (.initial out diag)) := by
  obtain ⟨walk_packed, added_packed⟩ := allPacked_append.1 all_packed
  have initial_start : holds (PackState.initial (δ := δ) out diag).out := start
  have walked := presents.walkFrom depth RelPath.root _ initial_start walk_packed
  refine presents.andThen walked walk_packed initial_start fun after after_holds done => ?_
  have seen : after.seen = (packed (job.walkActs files depth RelPath.root)).reverse.map
      (fun file => job.filePath file.rel) ++ [] :=
    congrArg PackState.seen (performed_of_done done).2
  rw [List.append_nil] at seen
  rw [addedActs, ← seen] at added_packed ⊢
  exact presents.emitForced job.rules.alwaysIncludeFiles after after_holds added_packed

end Shown

/-! ## Outputs that no file shows -/

theorem performs_walkFrom (depth : Nat) (rel : String) (state : PackState σ δ)
    (static : job.output.Static files state.out) :
    job.Performs (job.walkActs files depth rel) state
      (walkFrom job.visitor job.root depth rel state) :=
  (presents_static job files).walkFrom depth rel state static fun _ _ => trivial

theorem performs_emitForced (rels : List String) (state : PackState σ δ)
    (static : job.output.Static files state.out) :
    job.Performs (job.forceActs files state.seen rels) state (job.emitForced rels state) :=
  (presents_static job files).emitForced rels state static fun _ _ => trivial

theorem performs_runWithin {out : σ} (static : job.output.Static files out) (depth : Nat)
    (diag : δ) :
    job.Performs (job.runActs files depth) (.initial out diag)
      (job.runWithin depth (.initial out diag)) :=
  (presents_static job files).runWithin static depth diag fun _ _ => trivial

/-! ## What the acts are -/

theorem packed_map {α : Type} (forced : Bool) (file : α → Packed) (items : List α) :
    packed (items.map fun item => .pack forced (file item)) = items.map file := by
  rw [packed, List.flatMap_map, List.map_eq_flatMap]
  rfl

/-- The walk packs the files that it chooses. -/
theorem packed_walkActs (depth : Nat) (rel : String) :
    packed (job.walkActs files depth rel) =
      (job.walked files depth rel).map (job.packedAt files) := by
  induction depth generalizing rel with
  | zero => rfl
  | succ depth ih =>
    have chosen : packed (job.listedActs files (job.listing files rel)) =
        ((job.chosenIn files (job.listing files rel)).map (RelPath.join rel)).map
          (job.packedAt files) := by
      have known_as : (job.listing files rel).rel = rel := FileSystem.rel_list _ rel
      rw [List.map_map, listedActs, known_as]
      exact packed_map false _ _
    have below : packed ((job.entered (job.listing files rel)).flatMap fun name =>
        job.walkActs files depth (RelPath.join rel name)) =
          ((job.entered (job.listing files rel)).flatMap fun name =>
            job.walked files depth (RelPath.join rel name)).map (job.packedAt files) := by
      rw [packed, List.flatMap_assoc, List.map_flatMap]
      exact congrArg (List.flatMap · _) (funext fun name => ih _)
    rw [walkActs, walked, packed_append, List.map_append, chosen, below]

theorem stop_not_mem_listedActs (listing : Listing) : .stop ∉ job.listedActs files listing := by
  intro inside
  rcases List.mem_cons.1 inside with same | inside
  · cases same
  · obtain ⟨name, -, same⟩ := List.mem_map.1 inside
    cases same

/-- The acts of a walk come to an end unless it would go too deep. -/
theorem stop_mem_walkActs_iff {depth : Nat} {rel : String} :
    .stop ∈ job.walkActs files depth rel ↔ job.endsWithin files depth rel = false := by
  induction depth generalizing rel with
  | zero => exact ⟨fun _ => rfl, fun _ => List.mem_singleton_self _⟩
  | succ depth ih =>
    rw [walkActs, List.mem_append, List.mem_flatMap, endsWithin, List.all_eq_false]
    simp only [ih, Bool.not_eq_true, stop_not_mem_listedActs, false_or]

/-- At an excluded directory the walk does nothing but cut it. -/
theorem walkActs_of_excluded {depth : Nat} {rel : String}
    (excluded : job.rules.isExcludedDir (RelPath.normalize rel) = true) :
    job.walkActs files (depth + 1) rel = [.cut 1] := by
  have known_as : (job.listing files rel).rel = rel := FileSystem.rel_list _ rel
  have pruned : job.rules.prune rel (job.listing files rel).subdirs =
      ⟨false, [], [RelPath.normalize rel]⟩ := RuleSet.prune_of_excluded excluded
  rw [walkActs, listedActs, chosenIn, entered, known_as, pruned]
  rfl

/-- A walk that ends does the same if it may go deeper. -/
theorem walkActs_of_ends {depth more : Nat} {rel : String}
    (ends : job.endsWithin files depth rel = true) (deeper : depth ≤ more) :
    job.walkActs files more rel = job.walkActs files depth rel := by
  induction depth generalizing more rel with
  | zero => cases ends
  | succ depth ih =>
    obtain ⟨more, rfl⟩ := Nat.exists_eq_add_of_le' (Nat.le_trans (Nat.le_add_left 1 depth) deeper)
    rw [endsWithin, List.all_eq_true] at ends
    rw [walkActs, walkActs]
    congr 1
    exact List.flatMap_congr fun name member =>
      ih (ends name member) (Nat.le_of_succ_le_succ deeper)

theorem endsWithin_of_le {depth more : Nat} {rel : String}
    (ends : job.endsWithin files depth rel = true) (deeper : depth ≤ more) :
    job.endsWithin files more rel = true := by
  rw [← Bool.not_eq_false, ← stop_mem_walkActs_iff, walkActs_of_ends ends deeper,
    stop_mem_walkActs_iff, ends]
  exact Bool.noConfusion

/-- So do the files that it writes. -/
theorem walked_of_ends {depth more : Nat} {rel : String}
    (ends : job.endsWithin files depth rel = true) (deeper : depth ≤ more) :
    job.walked files more rel = job.walked files depth rel := by
  have packed_rels : ∀ depth, job.walked files depth rel =
      (packed (job.walkActs files depth rel)).map Packed.rel := by
    intro depth
    rw [packed_walkActs, List.map_map]
    exact (List.map_id _).symm
  rw [packed_rels, packed_rels, walkActs_of_ends ends deeper]

theorem stop_not_mem_forceActs (seen : List NativePath) (rels : List String) :
    .stop ∉ job.forceActs files seen rels := by
  induction rels generalizing seen with
  | nil => exact List.not_mem_nil
  | cons rel rest ih =>
    rw [forceActs]
    split
    · exact ih seen
    split
    · exact ih seen
    split
    · exact List.not_mem_cons_of_ne_of_not_mem Act.noConfusion (ih _)
    · exact List.not_mem_cons_of_ne_of_not_mem Act.noConfusion (ih seen)

theorem stop_not_mem_runActs {depth : Nat}
    (ends : job.endsWithin files depth RelPath.root = true) :
    .stop ∉ job.runActs files depth := by
  rw [runActs, List.mem_append, not_or, stop_mem_walkActs_iff, ends]
  exact ⟨Bool.noConfusion, stop_not_mem_forceActs _ _⟩

theorem isReadable_of_mem_forceActs {seen : List NativePath} {rels : List String} {file : Packed}
    (member : file ∈ packed (job.forceActs files seen rels)) :
    ∃ rel, files.isReadable (job.filePath rel) = true ∧ file = job.packedAt files rel := by
  induction rels generalizing seen with
  | nil => cases member
  | cons rel rest ih =>
    rw [forceActs] at member
    split at member
    · exact ih member
    split at member
    · exact ih member
    split at member
    · next readable =>
      rcases List.mem_cons.1 member with rfl | member
      · exact ⟨rel, readable, rfl⟩
      · exact ih member
    · exact ih member

/-- All that is packed are readable files with what they hold. -/
theorem regularBytes_of_packed {depth : Nat} {file : Packed}
    (member : file ∈ packed (job.runActs files depth)) :
    files.regularBytes (job.filePath file.rel) = .ok file.bytes := by
  obtain ⟨rel, readable, rfl⟩ : ∃ rel, files.isReadable (job.filePath rel) = true ∧
      file = job.packedAt files rel := by
    rw [runActs, packed_append, List.mem_append, packed_walkActs, List.mem_map] at member
    rcases member with ⟨rel, walked, rfl⟩ | forced
    · exact ⟨rel, isReadable_of_mem_walked walked, rfl⟩
    · exact isReadable_of_mem_forceActs forced
  exact regularBytes_of_isReadable readable

/-! ## The same acts for other outputs -/

section Into

variable {τ ε : Type} {output : Output τ} {diagnostics : Writer ε}

theorem walkActs_into {depth : Nat} {rel : String} :
    (job.into output diagnostics).walkActs files depth rel = job.walkActs files depth rel := by
  induction depth generalizing rel with
  | zero => rfl
  | succ depth ih =>
    rw [walkActs, walkActs]
    simp only [ih]
    rfl

theorem forceActs_into {seen : List NativePath} {rels : List String} :
    (job.into output diagnostics).forceActs files seen rels = job.forceActs files seen rels := by
  induction rels generalizing seen with
  | nil => rfl
  | cons rel rest ih =>
    rw [forceActs, forceActs]
    simp only [ih]
    rfl

theorem runActs_into {depth : Nat} :
    (job.into output diagnostics).runActs files depth = job.runActs files depth := by
  rw [runActs, runActs, addedActs, addedActs, walkActs_into, forceActs_into]
  rfl

/-- So the same job performs the same acts into any output that no file shows. -/
theorem performs_into (job : PackJob σ δ) (diagnostics : Writer ε) {out : τ}
    (static : output.Static files out) (depth : Nat) (diag : ε) :
    (job.into output diagnostics).Performs (job.runActs files depth) (.initial out diag)
      ((job.into output diagnostics).runWithin depth (.initial out diag)) := by
  have into_static : (job.into output diagnostics).output.Static files out := static
  rw [← runActs_into]
  exact performs_runWithin into_static depth diag

end Into

/-! ## Files to include always -/

theorem filePath_of_normal {rel : String} (normal : RelPath.normalize rel = rel) :
    job.filePath rel = job.root.join (.ofParts ((RelPath.parts rel).map Utf8.encode)) := by
  rw [filePath, NativePath.ofRelative_eq normal]

/-- A path in normal form is told by its encoded parts. -/
theorem map_encode_parts_inj {left right : String} (left_normal : RelPath.normalize left = left)
    (right_normal : RelPath.normalize right = right) :
    (RelPath.parts left).map Utf8.encode = (RelPath.parts right).map Utf8.encode ↔
      left = right := by
  rw [List.map_inj_right fun _ _ => Utf8.encode_inj]
  constructor
  · intro same
    rw [← left_normal, ← right_normal, RelPath.normalize_eq, RelPath.normalize_eq, same]
  · exact congrArg RelPath.parts

/-- Paths in normal form are told apart on disk. -/
theorem same_filePath_iff {left right : String} (nonempty : job.root.bytes ≠ [])
    (left_normal : RelPath.normalize left = left) (right_normal : RelPath.normalize right = right) :
    (job.filePath left).same (job.filePath right) = true ↔ left = right := by
  rw [filePath_of_normal left_normal, filePath_of_normal right_normal,
    NativePath.same_join_ofParts nonempty
      (NativePath.isPart_of_normal (RelPath.isNormal_parts left))
      (NativePath.isPart_of_normal (RelPath.isNormal_parts right)),
    map_encode_parts_inj left_normal right_normal]

/-- So they are if the root has no name of its own. -/
theorem sameFile_iff {left right : String} (left_normal : RelPath.normalize left = left)
    (right_normal : RelPath.normalize right = right) :
    (job.filePath left).same (job.filePath right) = true ↔ left = right := by
  by_cases empty : job.root.bytes = []
  · have left_parts := NativePath.isPart_of_normal (RelPath.isNormal_parts left)
    have right_parts := NativePath.isPart_of_normal (RelPath.isNormal_parts right)
    rw [filePath_of_normal left_normal, filePath_of_normal right_normal,
      NativePath.join_of_ready (Or.inl empty) (NativePath.isAbsolute_ofParts left_parts),
      NativePath.join_of_ready (Or.inl empty) (NativePath.isAbsolute_ofParts right_parts), empty,
      List.nil_append, List.nil_append]
    exact (NativePath.same_ofParts left_parts right_parts).trans
      (map_encode_parts_inj left_normal right_normal)
  · exact same_filePath_iff empty left_normal right_normal

section Once

variable {written : List String} {rel : String}

theorem forceAct_of_passed (passed : rel ∈ written ∨ job.isSkipped (job.filePath rel) = true) :
    job.forceAct files written rel = [] := by
  rw [forceAct, if_pos (by simpa using passed)]

theorem forceAct_of_readable (absent : rel ∉ written)
    (not_skipped : ¬job.isSkipped (job.filePath rel) = true)
    (readable : files.isReadable (job.filePath rel) = true) :
    job.forceAct files written rel = [.pack true (job.packedAt files rel)] := by
  rw [forceAct, if_neg (by simp [absent, not_skipped]), if_pos readable]

theorem forceAct_of_unreadable (absent : rel ∉ written)
    (not_skipped : ¬job.isSkipped (job.filePath rel) = true)
    (unreadable : ¬files.isReadable (job.filePath rel) = true) :
    job.forceAct files written rel = [.miss] := by
  rw [forceAct, if_neg (by simp [absent, not_skipped]), if_neg unreadable]

end Once

/-- The second pass comes to each file once, so that it goes by what the walk has written. -/
theorem forceActs_eq {rels written : List String}
    (normal : ∀ rel ∈ rels, RelPath.normalize rel = rel) (unique : rels.Nodup)
    (written_normal : ∀ rel ∈ written, RelPath.normalize rel = rel) :
    job.forceActs files (written.map job.filePath) rels =
      rels.flatMap (job.forceAct files written) := by
  induction rels generalizing written with
  | nil => rfl
  | cons rel rest ih =>
    have rel_normal := normal rel List.mem_cons_self
    have rest_normal : ∀ other ∈ rest, RelPath.normalize other = other :=
      fun other member => normal other (List.mem_cons_of_mem _ member)
    obtain ⟨absent, rest_unique⟩ := List.nodup_cons.1 unique
    have seen_iff : (written.map job.filePath).any (job.filePath rel).same = true ↔
        rel ∈ written := by
      rw [List.any_map, List.any_eq_true]
      constructor
      · rintro ⟨other, member, same⟩
        rw [(sameFile_iff rel_normal (written_normal other member)).1 same]
        exact member
      · intro member
        exact ⟨rel, member, (sameFile_iff rel_normal rel_normal).2 rfl⟩
    rw [forceActs, List.flatMap_cons]
    by_cases repeated : rel ∈ written
    · rw [if_pos (seen_iff.2 repeated), forceAct_of_passed (Or.inl repeated)]
      exact ih rest_normal rest_unique written_normal
    rw [if_neg (mt seen_iff.1 repeated)]
    by_cases skipped : job.isSkipped (job.filePath rel) = true
    · rw [if_pos skipped, forceAct_of_passed (Or.inr skipped)]
      exact ih rest_normal rest_unique written_normal
    rw [if_neg skipped]
    by_cases readable : files.isReadable (job.filePath rel) = true
    · have now_normal : ∀ other ∈ rel :: written, RelPath.normalize other = other := by
        intro other member
        rcases List.mem_cons.1 member with rfl | member
        · exact rel_normal
        · exact written_normal other member
      -- What was just written does not come again, so the rest is chosen as before.
      have same_rest : rest.flatMap (job.forceAct files (rel :: written)) =
          rest.flatMap (job.forceAct files written) := by
        refine List.flatMap_congr fun other member => ?_
        have different : other ≠ rel := fun same => absent (same ▸ member)
        simp [forceAct, different]
      rw [if_pos readable, forceAct_of_readable repeated skipped readable, ← List.map_cons,
        ih rest_normal rest_unique now_normal, same_rest]
      rfl
    · rw [if_neg readable, forceAct_of_unreadable repeated skipped readable,
        ih rest_normal rest_unique written_normal]
      rfl

/-- The second pass packs the files that it adds. -/
theorem packed_forceAct (written rels : List String) :
    packed (rels.flatMap (job.forceAct files written)) =
      (rels.filter (job.adds files written)).map (job.packedAt files) := by
  induction rels with
  | nil => rfl
  | cons rel rest ih =>
    rw [List.flatMap_cons, packed_append, ih]
    by_cases passed : rel ∈ written ∨ job.isSkipped (job.filePath rel) = true
    · have left_out : ¬job.adds files written rel = true := by
        rcases passed with repeated | skipped
        · simp [adds, repeated]
        · simp [adds, skipped]
      rw [forceAct_of_passed passed, List.filter_cons_of_neg left_out]
      rfl
    obtain ⟨absent, not_skipped⟩ := not_or.1 passed
    by_cases readable : files.isReadable (job.filePath rel) = true
    · have added : job.adds files written rel = true := by
        simp [adds, absent, not_skipped, readable]
      rw [forceAct_of_readable absent not_skipped readable, List.filter_cons_of_pos added]
      rfl
    · have left_out : ¬job.adds files written rel = true := by simp [adds, readable]
      rw [forceAct_of_unreadable absent not_skipped readable, List.filter_cons_of_neg left_out]
      rfl

end TreeBundle.PackJob
