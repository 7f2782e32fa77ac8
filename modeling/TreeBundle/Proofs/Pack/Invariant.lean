import TreeBundle.Proofs.Pack.Passes
import TreeBundle.Proofs.Pack.Run

/-!
# What a pack run keeps

What holds of the output and of the files written so far is kept by a whole run, whether it ends or
fails, if it is kept by each write and by each file that is added. No assumption is made on the
output: it may fail at any write, and files may change while it is written.
-/
namespace TreeBundle.PackJob
set_option autoImplicit false

variable {σ δ : Type}

/-- What each write keeps, and each file that is written after it was found readable. -/
structure Keeps (job : PackJob σ δ) (holds : σ → List NativePath → Prop) : Prop where
  write : ∀ out seen bytes, holds out seen → holds (job.output.write out bytes).1 seen
  add : ∀ before after seen rel, holds before seen → holds after seen →
    RelPath.normalize rel = rel → job.isSkipped (job.filePath rel) = false →
    (job.output.files before).isReadable (job.filePath rel) = true →
    holds after (job.filePath rel :: seen)

/-- Something holds of a state's output and of the files written so far. -/
def HoldsOf (holds : σ → List NativePath → Prop) (state : PackState σ δ) : Prop :=
  holds state.out state.seen

variable {job : PackJob σ δ} {holds : σ → List NativePath → Prop} {state : PackState σ δ}
  {rel : String}

theorem isReadable_of_content {files : FileSystem} {path : NativePath}
    {content : FileSystem.Content} (found : files.content path = .ok content) :
    files.isReadable path = true := by
  cases readable : files.isReadable path with
  | true => rfl
  | false =>
    obtain ⟨problem, failed⟩ := content_of_not_isReadable readable
    rw [found] at failed
    cases failed

/-- A readable file is written, or the output fails. -/
theorem emit_of_isReadable {path : NativePath} {after : PackState σ δ} {emitted : Emitted}
    (readable : (job.output.files state.out).isReadable path = true)
    (emits : job.emit rel path state = (after, emitted)) :
    (emitted = .written ∧ after.seen = path :: state.seen) ∨
      ∃ problem, emitted = .failed problem := by
  obtain ⟨content, found, -⟩ := content_of_isReadable readable
  unfold PackJob.emit at emits
  simp only [found] at emits
  split at emits
  · next out problem _ =>
    cases emits
    exact Or.inr ⟨problem, rfl⟩
  · cases emits
    exact Or.inl ⟨rfl, rfl⟩

theorem Keeps.writeAll (keeps : job.Keeps holds) (pieces : List Bytes) {out : σ}
    {seen : List NativePath} (start : holds out seen) :
    holds (job.output.writeAll pieces out).1 seen := by
  induction pieces generalizing out with
  | nil => exact start
  | cons piece rest ih =>
    have wrote := keeps.write out seen piece start
    rw [Writer.writeAll]
    generalize job.output.write out piece = result at wrote
    obtain ⟨next, problem⟩ := result
    cases problem with
    | none => exact ih wrote
    | some problem => exact wrote

theorem Keeps.emit (keeps : job.Keeps holds) (start : HoldsOf holds state)
    (normal : RelPath.normalize rel = rel)
    (unskipped : job.isSkipped (job.filePath rel) = false) :
    HoldsOf holds (job.emit rel (job.filePath rel) state).1 := by
  unfold PackJob.emit
  cases found : (job.output.files state.out).content (job.filePath rel) with
  | error problem => exact start
  | ok content =>
    have readable := isReadable_of_content found
    have same_out : (job.announce (job.filePath rel) (.ofRelative rel) content state).out =
        state.out := rfl
    have wrote := keeps.writeAll
      (Block.pieces (NativePath.ofRelative rel).text content.text) start
    simp only [same_out]
    generalize job.output.writeAll _ state.out = result at wrote
    obtain ⟨out, problem⟩ := result
    cases problem with
    | some problem => exact wrote
    | none => exact keeps.add state.out out state.seen rel start wrote normal unskipped readable

theorem Keeps.emitListed (keeps : job.Keeps holds) (listing : Listing) (name : String)
    (start : HoldsOf holds state) : HoldsOf holds (job.emitListed listing name state).1 := by
  unfold PackJob.emitListed
  by_cases skipped : job.isSkipped (job.filePath (RelPath.join listing.rel name)) = true
  · simp only [skipped, if_true]
    exact start
  simp only [skipped, Bool.false_eq_true, if_false]
  split
  · have normal : RelPath.normalize (RelPath.join listing.rel name) =
        RelPath.join listing.rel name := RelPath.normalize_normalize _
    have noted_holds : HoldsOf holds (state.note [.classified
        (listing.path.join (.ofString name))
        (job.rules.decide (job.output.files state.out) name listing.path)]) := start
    have kept := keeps.emit noted_holds normal (Bool.eq_false_iff.2 skipped)
    split
    · next after problem emits =>
      rw [emits] at kept
      exact kept
    · next after result _ emits =>
      rw [emits] at kept
      exact kept
  · exact start

theorem Keeps.emitAdmitted (keeps : job.Keeps holds) (listing : Listing) (names : List String)
    (start : HoldsOf holds state) : HoldsOf holds (job.emitAdmitted listing names state).1 := by
  induction names generalizing state with
  | nil => exact start
  | cons name rest ih =>
    have first := keeps.emitListed listing name start
    rw [PackJob.emitAdmitted]
    generalize job.emitListed listing name state = result at first
    obtain ⟨next, problem⟩ := result
    cases problem with
    | none => exact ih first
    | some problem => exact first

theorem Keeps.visit (keeps : job.Keeps holds) (listing : Listing) (start : HoldsOf holds state) :
    HoldsOf holds (job.visit state listing).1 := by
  unfold PackJob.visit
  simp only
  split
  · have noted_holds : HoldsOf holds
        ((state.countPruned (job.rules.prune listing.rel listing.subdirs).cut.length).note
          ((job.rules.prune listing.rel listing.subdirs).cut.map .pruned)) := start
    have kept := keeps.emitAdmitted listing listing.files noted_holds
    split
    · next after emits =>
      rw [emits] at kept
      exact kept
    · next after problem emits =>
      rw [emits] at kept
      exact kept
  · exact start

theorem Keeps.walk (keeps : job.Keeps holds) (depth : Nat) (start : HoldsOf holds state) :
    (walk job.visitor job.root depth state).All (HoldsOf holds) :=
  walkFrom_all (fun _ _ noted => noted) (fun _ listing => keeps.visit listing) job.root depth start

/-! ## The second pass -/

theorem Keeps.emitForced (keeps : job.Keeps holds) {rels : List String}
    (normal : ∀ rel ∈ rels, RelPath.normalize rel = rel) (start : HoldsOf holds state) :
    (job.emitForced rels state).All (HoldsOf holds) := by
  induction rels generalizing state with
  | nil => exact start
  | cons rel rest ih =>
    have rest_normal : ∀ other ∈ rest, RelPath.normalize other = other :=
      fun other member => normal other (List.mem_cons_of_mem _ member)
    unfold PackJob.emitForced
    by_cases seen : state.seen.any (job.filePath rel).same = true
    · simp only [seen, if_true]
      exact ih rest_normal start
    by_cases skipped : job.isSkipped (job.filePath rel) = true
    · simp only [seen, skipped, Bool.false_eq_true, if_false, if_true]
      exact ih rest_normal start
    simp only [seen, skipped, Bool.false_eq_true, if_false]
    split
    · have emitted := keeps.emit start (normal rel List.mem_cons_self)
        (Bool.eq_false_iff.2 skipped)
      generalize job.emit rel (job.filePath rel) state = result at emitted
      obtain ⟨next, result⟩ := result
      cases result with
      | failed problem => exact emitted
      | written => exact ih rest_normal emitted
      | unreadable => exact ih rest_normal emitted
    · exact ih rest_normal start

/-- What is kept by writes and by files that are added, a run keeps. -/
theorem Keeps.run (keeps : job.Keeps holds)
    (normal : ∀ rel ∈ job.rules.alwaysIncludeFiles, RelPath.normalize rel = rel) {out : σ}
    (diag : δ) (start : holds out []) : (job.run out diag).All (HoldsOf holds) := by
  have initial : HoldsOf holds (PackState.initial out diag) := start
  exact run_all fun depth => (keeps.walk depth initial).andThen fun state holds_state =>
    keeps.emitForced normal holds_state

theorem exists_walked_of_run {out : σ} {diag : δ} {final : PackState σ δ}
    (done : job.run out diag = .done final) :
    ∃ depth middle,
      TreeBundle.walk job.visitor job.root depth (.initial out diag) = .done middle ∧
      job.emitForced job.rules.alwaysIncludeFiles middle = .done final := by
  have ends : job.run out diag ≠ .tooDeep := by simp [done]
  obtain ⟨depth, same⟩ := exists_runWithin_of_run ends
  rw [done, runWithin] at same
  cases walked : TreeBundle.walk job.visitor job.root depth (.initial out diag) with
  | done middle => exact ⟨depth, middle, walked, by rwa [walked] at same⟩
  | failed middle problem =>
    rw [walked] at same
    cases same
  | tooDeep =>
    rw [walked] at same
    cases same

/-- Once a file has been written, it stays so. -/
theorem keeps_seen (path : NativePath) :
    job.Keeps fun _ seen => seen.any path.same = true where
  write _ _ _ seen := seen
  add _ _ _ _ _ seen _ _ _ := by
    rw [List.any_cons, seen, Bool.or_true]

/-- Where the second pass gets past a file, it has been written, unless it is skipped or cannot be
read. -/
theorem exists_step_of_emitForced {first : String} {rest : List String} {final : PackState σ δ}
    (keeps : job.Keeps holds) (start : HoldsOf holds state)
    (normal : RelPath.normalize first = first)
    (done : job.emitForced (first :: rest) state = .done final) :
    ∃ middle, job.emitForced rest middle = .done final ∧ HoldsOf holds middle ∧
      (job.isSkipped (job.filePath first) = false →
        (job.output.files state.out).isReadable (job.filePath first) = true →
        middle.seen.any (job.filePath first).same = true) := by
  unfold PackJob.emitForced at done
  simp only at done
  split at done
  · next seen => exact ⟨_, done, start, fun _ _ => seen⟩
  split at done
  · next skipped =>
    refine ⟨_, done, start, fun unskipped _ => ?_⟩
    rw [skipped] at unskipped
    cases unskipped
  next unskipped =>
  split at done
  · have emitted := keeps.emit start normal (Bool.eq_false_iff.2 unskipped)
    split at done
    · cases done
    · next after emits =>
      rw [emits] at emitted
      refine ⟨_, done, emitted, fun _ readable => ?_⟩
      rcases emit_of_isReadable readable emits with ⟨-, now_seen⟩ | ⟨problem, failed⟩
      · have there : after.seen.any (job.filePath first).same = true := by
          rw [now_seen, List.any_cons, NativePath.same, BEq.rfl, Bool.true_or]
        exact there
      · cases failed
    · next after emits =>
      rw [emits] at emitted
      refine ⟨_, done, emitted, fun _ readable => ?_⟩
      rcases emit_of_isReadable readable emits with ⟨written, -⟩ | ⟨problem, failed⟩
      · cases written
      · cases failed
  · next no_file =>
    refine ⟨_, done, start, fun _ readable => ?_⟩
    exact absurd (FileSystem.isFile_of_isReadable readable) no_file

/-- A file that is always included is written by the time the second pass is over, unless it is
skipped. -/
theorem seen_of_emitForced {rels : List String} {final : PackState σ δ} (keeps : job.Keeps holds)
    (normal : ∀ rel ∈ rels, RelPath.normalize rel = rel) (start : HoldsOf holds state)
    (readable : ∀ out seen, holds out seen →
      (job.output.files out).isReadable (job.filePath rel) = true)
    (member : rel ∈ rels) (unskipped : job.isSkipped (job.filePath rel) = false)
    (done : job.emitForced rels state = .done final) :
    final.seen.any (job.filePath rel).same = true := by
  induction rels generalizing state with
  | nil => cases member
  | cons first rest ih =>
    have rest_normal : ∀ other ∈ rest, RelPath.normalize other = other :=
      fun other member => normal other (List.mem_cons_of_mem _ member)
    obtain ⟨middle, rest_done, middle_holds, written⟩ :=
      exists_step_of_emitForced keeps start (normal first List.mem_cons_self) done
    by_cases here : rel = first
    · subst here
      have seen := written unskipped (readable state.out state.seen start)
      have seen_kept : job.Keeps fun _ seen => seen.any (job.filePath rel).same = true :=
        keeps_seen (job.filePath rel)
      have middle_seen :
          HoldsOf (fun _ seen => seen.any (job.filePath rel).same = true) middle := seen
      have kept := seen_kept.emitForced rest_normal middle_seen
      rw [rest_done] at kept
      exact kept
    · exact ih rest_normal middle_holds ((List.mem_cons.1 member).resolve_left here) rest_done

end TreeBundle.PackJob
