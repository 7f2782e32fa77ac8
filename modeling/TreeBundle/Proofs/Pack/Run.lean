import TreeBundle.Pack.Tree
import TreeBundle.Proofs.Walk.Outcome

/-!
# Runs as deep as it takes

A run comes to what it comes to within any depth that is enough. It is too deep only if no depth is
enough, which is when its walk never ends.
-/
namespace TreeBundle.PackJob
set_option autoImplicit false

variable {σ δ τ ε : Type} {job : PackJob σ δ} {out : σ} {diag : δ} {depth : Nat}

/-- A run that ends within a depth comes to the same within larger ones. -/
theorem runWithin_of_le {larger : Nat} {state : PackState σ δ} (le : depth ≤ larger)
    (ends : job.runWithin depth state ≠ .tooDeep) :
    job.runWithin larger state = job.runWithin depth state := by
  have walk_ends : walk job.visitor job.root depth state ≠ .tooDeep := by
    intro stopped
    rw [runWithin, stopped] at ends
    exact ends rfl
  have same : walk job.visitor job.root larger state = walk job.visitor job.root depth state :=
    walkFrom_of_le le walk_ends
  rw [runWithin, runWithin, same]

theorem settles_runWithin (job : PackJob σ δ) (state : PackState σ δ) :
    WalkOutcome.Settles fun depth => job.runWithin depth state :=
  fun _ _ le ends => runWithin_of_le le ends

/-- Any depth that is enough tells what the run comes to. -/
theorem run_of_runWithin (ends : job.runWithin depth (.initial out diag) ≠ .tooDeep) :
    job.run out diag = job.runWithin depth (.initial out diag) := by
  simp only [run, WalkOutcome.atEnough?_of_ends (job.settles_runWithin _) ends, Option.getD_some]

theorem run_of_done {state : PackState σ δ}
    (done : job.runWithin depth (.initial out diag) = .done state) :
    job.run out diag = .done state :=
  (run_of_runWithin (by simp [done])).trans done

theorem run_of_failed {state : PackState σ δ} {problem : IoError}
    (failed : job.runWithin depth (.initial out diag) = .failed state problem) :
    job.run out diag = .failed state problem :=
  (run_of_runWithin (by simp [failed])).trans failed

/-- A run that is seen to end within a depth ends with what is seen. -/
theorem exists_run_of_within {view : PackState σ δ → τ} {seen : τ}
    (viewed : (job.runWithin depth (.initial out diag)).state?.map view = some seen) :
    ∃ state, job.run out diag = .done state ∧ view state = seen := by
  obtain ⟨state, done, same⟩ := WalkOutcome.exists_done viewed
  exact ⟨state, run_of_done done, same⟩

/-- A run comes to what it comes to within some depth that is enough, unless none is. -/
theorem run_cases (job : PackJob σ δ) (out : σ) (diag : δ) :
    (job.run out diag = .tooDeep ∧
      ∀ depth, job.runWithin depth (.initial out diag) = .tooDeep) ∨
    ∃ depth, job.runWithin depth (.initial out diag) ≠ .tooDeep ∧
      job.run out diag = job.runWithin depth (.initial out diag) := by
  by_cases endless : ∀ depth, job.runWithin depth (.initial out diag) = .tooDeep
  · refine Or.inl ⟨?_, endless⟩
    rw [run]
    cases found : WalkOutcome.atEnough? (fun depth => job.runWithin depth (.initial out diag))
        ((job.output.files out).walkDepth job.rules.excludeDirs) with
    | none => rfl
    | some outcome =>
      obtain ⟨ends, depth, same⟩ := WalkOutcome.exists_of_atEnough? found
      exact absurd (same.symm.trans (endless depth)) ends
  · obtain ⟨depth, ends⟩ := Classical.not_forall.1 endless
    exact Or.inr ⟨depth, ends, run_of_runWithin ends⟩

/-- A run that is not too deep ends within some depth. -/
theorem exists_runWithin_of_run (ends : job.run out diag ≠ .tooDeep) :
    ∃ depth, job.runWithin depth (.initial out diag) = job.run out diag := by
  obtain ⟨endless, -⟩ | ⟨depth, -, ran⟩ := job.run_cases out diag
  · exact absurd endless ends
  · exact ⟨depth, ran.symm⟩

theorem run_eq_tooDeep_iff :
    job.run out diag = .tooDeep ↔ ∀ depth, job.runWithin depth (.initial out diag) = .tooDeep := by
  obtain ⟨endless, never⟩ | ⟨depth, ends, ran⟩ := job.run_cases out diag
  · exact ⟨fun _ => never, fun _ => endless⟩
  · constructor
    · intro stopped
      exact absurd (ran.symm.trans stopped) ends
    · intro never
      exact absurd (never depth) ends

/-- Runs that come to the same within every depth come to the same. -/
theorem run_congr {other : PackJob σ δ} {other_out : σ} {other_diag : δ}
    (same : ∀ depth, other.runWithin depth (.initial other_out other_diag) =
      job.runWithin depth (.initial out diag)) :
    other.run other_out other_diag = job.run out diag := by
  obtain ⟨endless, never⟩ | ⟨depth, ends, ran⟩ := job.run_cases out diag
  · rw [endless, run_eq_tooDeep_iff]
    exact fun depth => (same depth).trans (never depth)
  · rw [ran, ← same depth]
    exact run_of_runWithin (same depth ▸ ends)

/-- What holds of a run within every depth holds of the run. -/
theorem run_all {holds : PackState σ δ → Prop}
    (within : ∀ depth, (job.runWithin depth (.initial out diag)).All holds) :
    (job.run out diag).All holds := by
  obtain ⟨endless, -⟩ | ⟨depth, -, ran⟩ := job.run_cases out diag
  · rw [endless]
    trivial
  · exact ran ▸ within depth

/-- Runs that are related within every depth are related. -/
theorem run_related {other : PackJob τ ε} {other_out : τ} {other_diag : ε}
    {alike : PackState σ δ → PackState τ ε → Prop}
    (related : ∀ depth, WalkOutcome.Related alike (job.runWithin depth (.initial out diag))
      (other.runWithin depth (.initial other_out other_diag))) :
    WalkOutcome.Related alike (job.run out diag) (other.run other_out other_diag) := by
  obtain ⟨endless, never⟩ | ⟨depth, ends, ran⟩ := job.run_cases out diag
  · have other_never (depth : Nat) :
        other.runWithin depth (.initial other_out other_diag) = .tooDeep :=
      (related depth).eq_tooDeep_iff.1 (never depth)
    rw [endless, run_eq_tooDeep_iff.2 other_never]
    exact .tooDeep
  · rw [ran, run_of_runWithin fun stopped => ends ((related depth).eq_tooDeep_iff.2 stopped)]
    exact related depth

end TreeBundle.PackJob
