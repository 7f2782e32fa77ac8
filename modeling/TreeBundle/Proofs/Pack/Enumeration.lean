import TreeBundle.Proofs.FileSystem.Reordered
import TreeBundle.Proofs.Pack.Cutoff
import TreeBundle.Proofs.Pack.Simulation

/-!
# Runs over directories in another order

In which order directories hand out their entries has no influence on a run: it writes the same, it
tells the same, and it fails for the same reason.
-/
namespace TreeBundle
set_option autoImplicit false

namespace PackJob

variable {σ δ : Type} {job : PackJob σ δ} {shown : σ → FileSystem}

/-- The same job, whose output shows other files. -/
def showing (job : PackJob σ δ) (shown : σ → FileSystem) : PackJob σ δ :=
  { job with output := { job.output with files := shown } }

theorem simulates_showing (reordered : ∀ out, (job.output.files out).Reordered (shown out)) :
    job.Simulates (job.showing shown) Eq Eq where
  rules := rfl
  root := rfl
  skip := rfl
  looks out other_out same := same ▸ (reordered out).looksLike job.root
  write _ _ _ same := same ▸ ⟨rfl, rfl⟩
  note _ _ _ same := same ▸ rfl
  announce path header content state other_state same := by
    obtain ⟨diag, log⟩ := Prod.mk.inj same
    have diagnostics : (job.showing shown).diagnostics = job.diagnostics := rfl
    have line : (job.showing shown).diagnosticsLine path header content.size =
        job.diagnosticsLine path header content.size := rfl
    simp only [PackState.told, announce, PackState.note, diagnostics, line, diag, log]

/-- A run does not depend on the order in which directories hand out their entries. -/
theorem run_of_reordered (job : PackJob σ δ) (shown : σ → FileSystem)
    (reordered : ∀ out, (job.output.files out).Reordered (shown out)) (out : σ) (diag : δ) :
    (job.showing shown).run out diag = job.run out diag := by
  have related := (simulates_showing reordered).run out out diag diag rfl rfl
  have whole_view (outcome : WalkOutcome (PackState σ δ) IoError) : outcome.map id = outcome := by
    cases outcome <;> rfl
  rw [← whole_view ((job.showing shown).run out diag), ← whole_view (job.run out diag)]
  refine related.map_eq fun state other alike => ?_
  obtain ⟨same_out, same_told, same_seen, same_report⟩ := alike
  obtain ⟨same_diag, same_log⟩ := Prod.mk.inj same_told
  cases state
  cases other
  simp_all

/-- Tells about each packed file of a tree in order. -/
def inOrder : PackJob Memory Memory :=
  ownSources.into (Memory.output .inOrder) Memory.writer

theorem run_of_reordered_inOrder :
    (∀ out, (inOrder.output.files out).Reordered .outOfOrder) ∧
    (inOrder.showing fun _ => .outOfOrder).run (.ofLimit none) (.ofLimit (some 20)) =
      inOrder.run (.ofLimit none) (.ofLimit (some 20)) ∧
    ∃ state, inOrder.run (.ofLimit none) (.ofLimit (some 20)) = .done state ∧ state.out.taken =
      Block.bytes "z.c" "z" ++ Block.bytes "lib/x.c" "x" ++ Block.bytes "lib/y.c" "y" := by
  have reordered (out : Memory) : (inOrder.output.files out).Reordered .outOfOrder :=
    FileSystem.reordered_inOrder
  have viewed : (inOrder.runWithin 2 (.initial (.ofLimit none) (.ofLimit (some 20)))).state?.map
      (fun state => state.out.taken) =
        some (Block.bytes "z.c" "z" ++ Block.bytes "lib/x.c" "x" ++ Block.bytes "lib/y.c" "y") := by
    decide +kernel
  refine ⟨reordered, ?_, exists_run_of_within viewed⟩
  exact run_of_reordered inOrder _ reordered _ _

end PackJob
end TreeBundle
