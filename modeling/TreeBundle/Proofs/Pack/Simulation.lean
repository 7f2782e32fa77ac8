import TreeBundle.Proofs.FileSystem.Alike
import TreeBundle.Proofs.Pack.Choice
import TreeBundle.Proofs.Pack.Run

/-!
# Two runs side by side

A run may be followed by another one of the same rules, whose output and diagnostics are of other
kinds, as long as their outputs stay alike: they fail at the same writes, and the files that they
show look alike from the root. Then both runs take the same way, and come to the same end. What
either of them tells is compared apart from that. Nothing is assumed of the files themselves, which
may change while they are packed.
-/
namespace TreeBundle
set_option autoImplicit false

variable {σ τ δ ε : Type}

namespace PackState

/-- What a run has told: its diagnostics, and its log. -/
def told (state : PackState σ δ) : δ × List Event :=
  (state.diag, state.log)

/-- Two states alike: their outputs are, and what was told, and the same was written. -/
structure Alike (outs : σ → τ → Prop) (tells : δ × List Event → ε × List Event → Prop)
    (state : PackState σ δ) (other : PackState τ ε) : Prop where
  out : outs state.out other.out
  told : tells state.told other.told
  seen : other.seen = state.seen
  report : other.report = state.report

variable {outs : σ → τ → Prop} {tells : δ × List Event → ε × List Event → Prop}
  {state : PackState σ δ} {other : PackState τ ε}

theorem Alike.addWritten (alike : state.Alike outs tells other) (path : NativePath) (size : Nat) :
    (state.addWritten path size).Alike outs tells (other.addWritten path size) where
  out := alike.out
  told := alike.told
  seen := congrArg (List.cons path) alike.seen
  report := by rw [PackState.addWritten, PackState.addWritten, alike.report]

theorem Alike.countPruned (alike : state.Alike outs tells other) (count : Nat) :
    (state.countPruned count).Alike outs tells (other.countPruned count) where
  out := alike.out
  told := alike.told
  seen := alike.seen
  report := by rw [PackState.countPruned, PackState.countPruned, alike.report]

theorem Alike.countForced (alike : state.Alike outs tells other) (written : Bool) :
    (state.countForced written).Alike outs tells (other.countForced written) where
  out := alike.out
  told := alike.told
  seen := alike.seen
  report := by rw [PackState.countForced, PackState.countForced, alike.report]

end PackState

namespace PackJob

/-- What two jobs need for their runs to stay side by side. -/
structure Simulates (job : PackJob σ δ) (other : PackJob τ ε) (outs : σ → τ → Prop)
    (tells : δ × List Event → ε × List Event → Prop) : Prop where
  rules : other.rules = job.rules
  root : other.root = job.root
  skip : other.skip = job.skip
  looks : ∀ out other_out, outs out other_out →
    (job.output.files out).LooksLike (other.output.files other_out) job.root
  write : ∀ out other_out bytes, outs out other_out →
    Leaves outs (job.output.write out bytes) (other.output.write other_out bytes)
  note : ∀ told other_told events, tells told other_told →
    tells (told.1, told.2 ++ events) (other_told.1, other_told.2 ++ events)
  announce : ∀ path header content (state : PackState σ δ) (other_state : PackState τ ε),
    tells state.told other_state.told →
    tells (job.announce path header content state).told
      (other.announce path header content other_state).told

namespace Simulates

variable {job : PackJob σ δ} {other : PackJob τ ε} {outs : σ → τ → Prop}
  {tells : δ × List Event → ε × List Event → Prop} (simulates : job.Simulates other outs tells)
  {state : PackState σ δ} {other_state : PackState τ ε}

include simulates

theorem filePath_eq (rel : String) : other.filePath rel = job.filePath rel := by
  rw [filePath, filePath, simulates.root]

theorem isSkipped_eq (path : NativePath) : other.isSkipped path = job.isSkipped path := by
  rw [isSkipped, isSkipped, simulates.skip]

theorem alike_note (alike : state.Alike outs tells other_state) (events : List Event) :
    (state.note events).Alike outs tells (other_state.note events) :=
  ⟨alike.out, simulates.note _ _ events alike.told, alike.seen, alike.report⟩

theorem regularBytes_eq (alike : state.Alike outs tells other_state) (rel : String) :
    (other.output.files other_state.out).regularBytes (job.filePath rel) =
      (job.output.files state.out).regularBytes (job.filePath rel) :=
  (simulates.looks _ _ alike.out).bytes _

theorem isFile_eq (alike : state.Alike outs tells other_state) (rel : String) :
    (other.output.files other_state.out).isFile (job.filePath rel) =
      (job.output.files state.out).isFile (job.filePath rel) :=
  (simulates.looks _ _ alike.out).isFile _

theorem writeAll (pieces : List Bytes) {out : σ} {other_out : τ} (alike : outs out other_out) :
    Leaves outs (job.output.writeAll pieces out) (other.output.writeAll pieces other_out) := by
  induction pieces generalizing out other_out with
  | nil => exact ⟨alike, rfl⟩
  | cons piece rest ih =>
    obtain ⟨now_alike, same_result⟩ := simulates.write out other_out piece alike
    rw [Writer.writeAll, Writer.writeAll]
    generalize job.output.write out piece = wrote at now_alike same_result
    generalize other.output.write other_out piece = other_wrote at now_alike same_result
    obtain ⟨next, problem⟩ := wrote
    obtain ⟨other_next, other_problem⟩ := other_wrote
    obtain rfl : other_problem = problem := same_result
    cases other_problem with
    | none => exact ih now_alike
    | some problem => exact ⟨now_alike, rfl⟩

/-! ## The walk -/

theorem emit (alike : state.Alike outs tells other_state) (rel : String) :
    Leaves (PackState.Alike outs tells) (job.emit rel (job.filePath rel) state)
      (other.emit rel (job.filePath rel) other_state) := by
  rw [PackJob.emit, PackJob.emit, FileSystem.content, FileSystem.content,
    simulates.regularBytes_eq alike]
  cases (job.output.files state.out).regularBytes (job.filePath rel) with
  | error problem => exact ⟨simulates.alike_note alike _, rfl⟩
  | ok bytes =>
    have told := simulates.announce (job.filePath rel) (.ofRelative rel)
      (FileSystem.contentOf bytes) state other_state alike.told
    obtain ⟨out_alike, same_result⟩ := simulates.writeAll
      (Block.pieces (NativePath.ofRelative rel).text (FileSystem.contentOf bytes).text) alike.out
    have same_out : (job.announce (job.filePath rel) (.ofRelative rel)
        (FileSystem.contentOf bytes) state).out = state.out := rfl
    have other_same_out : (other.announce (job.filePath rel) (.ofRelative rel)
        (FileSystem.contentOf bytes) other_state).out = other_state.out := rfl
    simp only [Except.map, same_out, other_same_out]
    generalize job.output.writeAll _ state.out = wrote at out_alike same_result
    generalize other.output.writeAll _ other_state.out = other_wrote at out_alike same_result
    obtain ⟨next, problem⟩ := wrote
    obtain ⟨other_next, other_problem⟩ := other_wrote
    obtain rfl : other_problem = problem := same_result
    have now_alike : PackState.Alike outs tells
        { job.announce (job.filePath rel) (.ofRelative rel) (FileSystem.contentOf bytes) state with
          out := next }
        { other.announce (job.filePath rel) (.ofRelative rel) (FileSystem.contentOf bytes)
          other_state with out := other_next } :=
      ⟨out_alike, told, alike.seen, alike.report⟩
    cases other_problem with
    | some problem => exact ⟨now_alike, rfl⟩
    | none => exact ⟨now_alike.addWritten _ _, rfl⟩

theorem emitListed (alike : state.Alike outs tells other_state) {listing : Listing}
    {path : NativePath} (found_at : listing.path = job.root.join path) (name : String) :
    Leaves (PackState.Alike outs tells) (job.emitListed listing name state)
      (other.emitListed listing name other_state) := by
  have entry_bytes := (simulates.looks _ _ alike.out).entry_bytes path (.ofString name)
  rw [← found_at] at entry_bytes
  rw [PackJob.emitListed, PackJob.emitListed]
  simp only [simulates.filePath_eq, simulates.isSkipped_eq, simulates.rules,
    RuleSet.decide_of_regularBytes entry_bytes]
  split
  · exact ⟨alike, rfl⟩
  have noted := simulates.alike_note alike [.classified (listing.path.join (.ofString name))
    (job.rules.decide (job.output.files state.out) name listing.path)]
  split
  · have emitted := simulates.emit noted (RelPath.join listing.rel name)
    generalize job.emit _ _ _ = result at emitted
    generalize other.emit _ _ _ = other_result at emitted
    obtain ⟨after, emitted_as⟩ := result
    obtain ⟨other_after, other_emitted_as⟩ := other_result
    obtain ⟨now_alike, same_result⟩ := emitted
    obtain rfl : other_emitted_as = emitted_as := same_result
    cases other_emitted_as <;> exact ⟨now_alike, rfl⟩
  · exact ⟨noted, rfl⟩

theorem emitAdmitted (alike : state.Alike outs tells other_state) {listing : Listing}
    {path : NativePath} (found_at : listing.path = job.root.join path) (names : List String) :
    Leaves (PackState.Alike outs tells) (job.emitAdmitted listing names state)
      (other.emitAdmitted listing names other_state) := by
  induction names generalizing state other_state with
  | nil => exact ⟨alike, rfl⟩
  | cons name rest ih =>
    have first := simulates.emitListed alike found_at name
    rw [PackJob.emitAdmitted, PackJob.emitAdmitted]
    generalize job.emitListed listing name state = result at first
    generalize other.emitListed listing name other_state = other_result at first
    obtain ⟨after, problem⟩ := result
    obtain ⟨other_after, other_problem⟩ := other_result
    obtain ⟨now_alike, same_result⟩ := first
    obtain rfl : other_problem = problem := same_result
    cases other_problem with
    | none => exact ih now_alike
    | some problem => exact ⟨now_alike, rfl⟩

theorem visit (alike : state.Alike outs tells other_state) {listing : Listing}
    {path : NativePath} (found_at : listing.path = job.root.join path) :
    Leaves (PackState.Alike outs tells) (job.visit state listing)
      (other.visit other_state listing) := by
  have counted := alike.countPruned (job.rules.prune listing.rel listing.subdirs).cut.length
  rw [PackJob.visit, PackJob.visit]
  simp only [simulates.rules]
  split
  · have emitted := simulates.emitAdmitted (simulates.alike_note counted
      ((job.rules.prune listing.rel listing.subdirs).cut.map .pruned)) found_at listing.files
    generalize job.emitAdmitted _ _ _ = result at emitted
    generalize other.emitAdmitted _ _ _ = other_result at emitted
    obtain ⟨after, problem⟩ := result
    obtain ⟨other_after, other_problem⟩ := other_result
    obtain ⟨now_alike, same_result⟩ := emitted
    obtain rfl : other_problem = problem := same_result
    cases other_problem <;> exact ⟨now_alike, rfl⟩
  · exact ⟨simulates.alike_note counted _, rfl⟩

theorem walk (alike : state.Alike outs tells other_state) (depth : Nat) :
    WalkOutcome.Related (PackState.Alike outs tells)
      (TreeBundle.walk job.visitor job.root depth state)
      (TreeBundle.walk other.visitor other.root depth other_state) := by
  rw [simulates.root]
  refine walkFrom_related ?_ ?_ ?_ depth alike
  · intro state other_state path rel alike
    exact (simulates.looks _ _ alike.out).list path rel
  · intro state other_state events alike
    exact simulates.alike_note alike events
  · intro state other_state listing path alike found_at
    exact simulates.visit alike found_at

/-! ## The second pass -/

theorem emitForced (alike : state.Alike outs tells other_state) (rels : List String) :
    WalkOutcome.Related (PackState.Alike outs tells) (job.emitForced rels state)
      (other.emitForced rels other_state) := by
  induction rels generalizing state other_state with
  | nil => exact .done alike
  | cons rel rest ih =>
    rw [PackJob.emitForced, PackJob.emitForced]
    simp only [simulates.filePath_eq, simulates.isSkipped_eq, alike.seen,
      simulates.isFile_eq alike]
    split
    · exact ih (simulates.alike_note alike _)
    split
    · exact ih alike
    split
    · have emitted := simulates.emit alike rel
      generalize job.emit _ _ _ = result at emitted
      generalize other.emit _ _ _ = other_result at emitted
      obtain ⟨after, emitted_as⟩ := result
      obtain ⟨other_after, other_emitted_as⟩ := other_result
      obtain ⟨now_alike, same_result⟩ := emitted
      obtain rfl : other_emitted_as = emitted_as := same_result
      cases other_emitted_as with
      | failed problem => exact .failed problem now_alike
      | written => exact ih (now_alike.countForced true)
      | unreadable => exact ih (now_alike.countForced false)
    · exact ih ((simulates.alike_note alike _).countForced false)

/-! ## The run -/

theorem runWithin (depth : Nat) (alike : state.Alike outs tells other_state) :
    WalkOutcome.Related (PackState.Alike outs tells) (job.runWithin depth state)
      (other.runWithin depth other_state) := by
  rw [PackJob.runWithin, PackJob.runWithin, simulates.rules]
  refine (simulates.walk alike depth).andThen ?_
  intro state other_state now_alike
  exact simulates.emitForced now_alike _

/-- Runs side by side come to the same end. -/
theorem run (out : σ) (other_out : τ) (diag : δ) (other_diag : ε) (alike : outs out other_out)
    (told : tells (diag, []) (other_diag, [])) :
    WalkOutcome.Related (PackState.Alike outs tells) (job.run out diag)
      (other.run other_out other_diag) :=
  run_related fun depth => simulates.runWithin depth ⟨alike, told, rfl, rfl⟩

end Simulates

/-- What each write keeps of the output, a run keeps: it goes side by side with itself. -/
theorem run_keeps (job : PackJob σ δ) (holds : σ → Prop)
    (write : ∀ out bytes, holds out → holds (job.output.write out bytes).1) {out : σ}
    (start : holds out) (diag : δ) : (job.run out diag).All fun state => holds state.out := by
  have beside_itself : job.Simulates job (fun out other => other = out ∧ holds out) Eq :=
    { rules := rfl
      root := rfl
      skip := rfl
      looks := by
        intro out other_out same
        exact same.1 ▸ .refl (job.output.files out) job.root
      write := by
        intro out other_out bytes same
        obtain ⟨rfl, holds_out⟩ := same
        exact ⟨⟨rfl, write _ bytes holds_out⟩, rfl⟩
      note := by
        intro told other_told events same
        rw [same]
      announce := by
        intro path header content state other_state same
        obtain ⟨same_diag, same_log⟩ := Prod.mk.inj same
        simp only [PackState.told, announce, PackState.note, same_diag, same_log] }
  have related := beside_itself.run out out diag diag ⟨rfl, start⟩ rfl
  exact related.all fun state other alike => alike.out.2

end PackJob
end TreeBundle
