import TreeBundle.Proofs.FileSystem.Listing
import TreeBundle.Walk

/-!
# How a walk goes through subdirectories

A walk goes through the subdirectories that it enters one after another, each from the state that
the one before left. Once it has failed or gone too deep, nothing changes that. A walk that ends
comes to the same when it may go deeper, so that trying one depth after another finds its end.
-/
namespace TreeBundle
set_option autoImplicit false

variable {σ ε : Type}

namespace WalkOutcome

variable {next : String → σ → WalkOutcome σ ε} {names : List String}

theorem foldl_failed (state : σ) (problem : ε) :
    names.foldl (fun (outcome : WalkOutcome σ ε) name => outcome.andThen (next name))
      (.failed state problem) = .failed state problem := by
  induction names with
  | nil => rfl
  | cons name names ih => exact ih

theorem foldl_tooDeep :
    names.foldl (fun (outcome : WalkOutcome σ ε) name => outcome.andThen (next name)) .tooDeep =
      .tooDeep := by
  induction names with
  | nil => rfl
  | cons name names ih => exact ih

/-- Going through some names ends where it does for each of them. -/
theorem foldl_ne_tooDeep (ends : ∀ name ∈ names, ∀ state, next name state ≠ .tooDeep) (state : σ) :
    names.foldl (fun (outcome : WalkOutcome σ ε) name => outcome.andThen (next name))
      (.done state) ≠ .tooDeep := by
  induction names generalizing state with
  | nil => simp
  | cons name names ih =>
    rw [List.foldl_cons, andThen]
    have rest_ends : ∀ other ∈ names, ∀ state, next other state ≠ .tooDeep :=
      fun other member => ends other (List.mem_cons_of_mem _ member)
    cases first : next name state with
    | done state => exact ih rest_ends state
    | failed state problem =>
      rw [foldl_failed]
      simp
    | tooDeep => exact absurd first (ends name List.mem_cons_self state)

/-- Going deeper at some names makes no difference where none of them was too deep. -/
theorem foldl_of_ends {deeper : String → σ → WalkOutcome σ ε} {outcome : WalkOutcome σ ε}
    (agree : ∀ name state, next name state ≠ .tooDeep → deeper name state = next name state)
    (ends : names.foldl (fun outcome name => outcome.andThen (next name)) outcome ≠ .tooDeep) :
    names.foldl (fun outcome name => outcome.andThen (deeper name)) outcome =
      names.foldl (fun outcome name => outcome.andThen (next name)) outcome := by
  induction names generalizing outcome with
  | nil => rfl
  | cons name names ih =>
    rw [List.foldl_cons] at ends
    have first : outcome.andThen (deeper name) = outcome.andThen (next name) := by
      cases outcome with
      | done state =>
        refine agree name state fun stopped => ends ?_
        rw [andThen, stopped, foldl_tooDeep]
      | _ => rfl
    rw [List.foldl_cons, List.foldl_cons, first]
    exact ih ends

/-! ## Depths that are enough -/

/-- Whether an attempt that is deep enough comes to the same at all larger depths. -/
def Settles (attempt : Nat → WalkOutcome σ ε) : Prop :=
  ∀ depth larger, depth ≤ larger → attempt depth ≠ .tooDeep → attempt larger = attempt depth

variable {attempt : Nat → WalkOutcome σ ε}

/-- Whatever depth is tried first, the outcome is the one at any depth that is enough. -/
theorem atEnough?_of_ends {enough : Nat} (settles : Settles attempt)
    (ends : attempt enough ≠ .tooDeep) (depth : Nat) :
    atEnough? attempt depth = some (attempt enough) := by
  -- The induction is on what is missing to the depth that is known to be enough.
  induction missing : enough - depth using Nat.strongRecOn generalizing depth with
  | ind missing ih =>
    have same (found : attempt depth ≠ .tooDeep) : attempt depth = attempt enough := by
      rcases Nat.le_total depth enough with le | le
      · exact (settles depth enough le found).symm
      · exact settles enough depth le ends
    rw [atEnough?]
    cases tried : attempt depth with
    | tooDeep =>
      have short : depth < enough := by
        apply Nat.lt_of_not_le
        intro le
        exact ends ((settles enough depth le ends).symm.trans tried)
      exact ih (enough - (2 * depth + 1)) (by omega) _ rfl
    | done state => rw [← same (by simp [tried]), tried]
    | failed state problem => rw [← same (by simp [tried]), tried]

/-- What is found is the outcome at some depth that is enough. -/
theorem exists_of_atEnough? {depth : Nat} {outcome : WalkOutcome σ ε}
    (found : atEnough? attempt depth = some outcome) :
    outcome ≠ .tooDeep ∧ ∃ enough, attempt enough = outcome := by
  refine atEnough?.partial_correctness attempt
    (fun _ outcome => outcome ≠ .tooDeep ∧ ∃ enough, attempt enough = outcome) ?_ depth outcome
    found
  intro search ih depth outcome step
  split at step
  · exact ih _ outcome step
  · next not_too_deep =>
    cases step
    exact ⟨not_too_deep, depth, rfl⟩

/-! ## What is seen of states -/

section View

variable {τ : Type}

/-- The state of a walk that came to its end. -/
def state? : WalkOutcome σ ε → Option σ
  | .done state => some state
  | _ => none

theorem exists_done {outcome : WalkOutcome σ ε} {view : σ → τ} {seen : τ}
    (viewed : outcome.state?.map view = some seen) :
    ∃ state, outcome = .done state ∧ view state = seen := by
  cases outcome with
  | done state => exact ⟨state, rfl, Option.some.inj viewed⟩
  | _ => cases viewed

/-- An outcome as far as a view of its state goes. -/
def map (view : σ → τ) : WalkOutcome σ ε → WalkOutcome τ ε
  | .done state => .done (view state)
  | .failed state problem => .failed (view state) problem
  | .tooDeep => .tooDeep

/-- The outcome of something that leaves a state whether it fails or not. -/
def ofResult : σ × Option ε → WalkOutcome σ ε
  | (state, none) => .done state
  | (state, some problem) => .failed state problem

theorem exists_eq_ofResult {outcome : WalkOutcome σ ε} (ends : outcome ≠ .tooDeep) :
    ∃ state stop, outcome = .ofResult (state, stop) := by
  cases outcome with
  | done state => exact ⟨state, none, rfl⟩
  | failed state problem => exact ⟨state, some problem, rfl⟩
  | tooDeep => exact absurd rfl ends

theorem map_ofResult (view : σ → τ) (state : σ) (stop : Option ε) :
    map view (.ofResult (state, stop)) = .ofResult (view state, stop) := by
  cases stop <;> rfl

theorem exists_done_of_map {outcome : WalkOutcome σ ε} {view : σ → τ} {seen : τ}
    (viewed : outcome.map view = .done seen) :
    ∃ state, outcome = .done state ∧ view state = seen := by
  cases outcome with
  | done state => exact ⟨state, rfl, WalkOutcome.done.inj viewed⟩
  | _ => cases viewed

theorem exists_failed_of_map {outcome : WalkOutcome σ ε} {view : σ → τ} {seen : τ} {problem : ε}
    (viewed : outcome.map view = .failed seen problem) :
    ∃ state, outcome = .failed state problem ∧ view state = seen := by
  cases outcome with
  | failed state other =>
    obtain ⟨same, rfl⟩ := WalkOutcome.failed.inj viewed
    exact ⟨state, rfl, same⟩
  | _ => cases viewed

theorem eq_tooDeep_of_map {outcome : WalkOutcome σ ε} {view : σ → τ}
    (viewed : outcome.map view = .tooDeep) : outcome = .tooDeep := by
  cases outcome with
  | tooDeep => rfl
  | _ => cases viewed

end View

theorem andThen_assoc (outcome : WalkOutcome σ ε) (second third : σ → WalkOutcome σ ε) :
    (outcome.andThen second).andThen third =
      outcome.andThen fun state => (second state).andThen third := by
  cases outcome <;> rfl

/-! ## What holds of states -/

/-- What holds of the state in which a walk ended or failed. -/
def All (holds : σ → Prop) : WalkOutcome σ ε → Prop
  | .done state => holds state
  | .failed state _ => holds state
  | .tooDeep => True

variable {holds : σ → Prop} {outcome : WalkOutcome σ ε}

theorem All.andThen {following : σ → WalkOutcome σ ε} (first : outcome.All holds)
    (then_holds : ∀ state, holds state → (following state).All holds) :
    (outcome.andThen following).All holds := by
  cases outcome with
  | done state => exact then_holds state first
  | failed state problem => exact first
  | tooDeep => trivial

theorem All.foldl (first : outcome.All holds)
    (each : ∀ name ∈ names, ∀ state, holds state → (next name state).All holds) :
    (names.foldl (fun (outcome : WalkOutcome σ ε) name => outcome.andThen (next name))
      outcome).All holds := by
  induction names generalizing outcome with
  | nil => exact first
  | cons name names ih =>
    rw [List.foldl_cons]
    exact ih (first.andThen (each name List.mem_cons_self)) fun other member =>
      each other (List.mem_cons_of_mem _ member)

end WalkOutcome

/-- What each visit keeps, the whole walk keeps. -/
theorem walkFrom_all {visitor : Visitor σ ε} {holds : σ → Prop}
    (note : ∀ state events, holds state → holds (visitor.note state events))
    (visit : ∀ state listing, holds state → holds (visitor.visit state listing).1)
    (root : NativePath) (depth : Nat) {rel : String} {state : σ} (start : holds state) :
    (walkFrom visitor root depth rel state).All holds := by
  induction depth generalizing rel state with
  | zero => trivial
  | succ depth ih =>
    have visited := visit _ ((visitor.files state).list (root.join (.ofRelative rel)) rel).1
      (note state ((visitor.files state).list (root.join (.ofRelative rel)) rel).2 start)
    unfold walkFrom
    simp only
    split
    · next after problem visits =>
      rw [visits] at visited
      exact visited
    · next after names visits =>
      rw [visits] at visited
      have first : (WalkOutcome.done after : WalkOutcome σ ε).All holds := visited
      exact first.foldl fun name _ state holds_state => ih holds_state

/-- A walk that ends comes to the same when it may go deeper. -/
theorem walkFrom_of_le {visitor : Visitor σ ε} {root : NativePath} {depth larger : Nat}
    (le : depth ≤ larger) {rel : String} {state : σ}
    (ends : walkFrom visitor root depth rel state ≠ .tooDeep) :
    walkFrom visitor root larger rel state = walkFrom visitor root depth rel state := by
  induction depth generalizing larger rel state with
  | zero => exact absurd rfl ends
  | succ depth ih =>
    obtain ⟨larger, rfl⟩ : ∃ less, larger = less + 1 := ⟨larger - 1, by omega⟩
    rw [walkFrom] at ends ⊢
    rw [walkFrom]
    generalize visitor.visit _ _ = visited at ends ⊢
    obtain ⟨after, result⟩ := visited
    cases result with
    | error problem => rfl
    | ok names =>
      exact WalkOutcome.foldl_of_ends
        (fun name state subdir_ends => ih (Nat.le_of_succ_le_succ le) subdir_ends) ends

/-! ## Two walks side by side -/

section Related

variable {τ α : Type}

/-- Two results that are the same and leave states that are alike. -/
def Leaves (alike : σ → τ → Prop) (left : σ × α) (right : τ × α) : Prop :=
  alike left.1 right.1 ∧ right.2 = left.2

namespace WalkOutcome

/-- Two outcomes of one kind, with the same failure if any, in states that are alike. -/
inductive Related (alike : σ → τ → Prop) : WalkOutcome σ ε → WalkOutcome τ ε → Prop where
  | done {state : σ} {other : τ} (same : alike state other) :
    Related alike (.done state) (.done other)
  | failed {state : σ} {other : τ} (problem : ε) (same : alike state other) :
    Related alike (.failed state problem) (.failed other problem)
  | tooDeep : Related alike .tooDeep .tooDeep

variable {alike : σ → τ → Prop} {left : WalkOutcome σ ε} {right : WalkOutcome τ ε}
  {next : String → σ → WalkOutcome σ ε} {other_next : String → τ → WalkOutcome τ ε}

theorem Related.andThen {following : σ → WalkOutcome σ ε} {other_following : τ → WalkOutcome τ ε}
    (first : Related alike left right)
    (then_related : ∀ state other, alike state other →
      Related alike (following state) (other_following other)) :
    Related alike (left.andThen following) (right.andThen other_following) := by
  cases first with
  | done same => exact then_related _ _ same
  | failed problem same => exact .failed problem same
  | tooDeep => exact .tooDeep

theorem Related.foldl (first : Related alike left right) (names : List String)
    (each : ∀ name state other, alike state other →
      Related alike (next name state) (other_next name other)) :
    Related alike (names.foldl (fun outcome name => outcome.andThen (next name)) left)
      (names.foldl (fun outcome name => outcome.andThen (other_next name)) right) := by
  induction names generalizing left right with
  | nil => exact first
  | cons name names ih => exact ih (first.andThen (each name))

theorem Related.exists_of_done {other : τ} (related : Related alike left (.done other)) :
    ∃ state, left = .done state ∧ alike state other := by
  cases related with
  | done same => exact ⟨_, rfl, same⟩

/-- Related outcomes are too deep together. -/
theorem Related.eq_tooDeep_iff (related : Related alike left right) :
    left = .tooDeep ↔ right = .tooDeep := by
  cases related with
  | tooDeep => exact ⟨fun _ => rfl, fun _ => rfl⟩
  | _ => exact ⟨nofun, nofun⟩

/-- What holds of states with something like them holds where two outcomes are related. -/
theorem Related.all {holds : σ → Prop} (related : Related alike left right)
    (then_holds : ∀ state other, alike state other → holds state) : left.All holds := by
  cases related with
  | done same => exact then_holds _ _ same
  | failed problem same => exact then_holds _ _ same
  | tooDeep => trivial

/-- Outcomes are told apart by nothing that is the same of states that are alike. -/
theorem Related.map_eq {ρ : Type} {view : σ → ρ} {other_view : τ → ρ}
    (related : Related alike left right)
    (same_view : ∀ state other, alike state other → other_view other = view state) :
    right.map other_view = left.map view := by
  cases related with
  | done same => rw [map, map, same_view _ _ same]
  | failed problem same => rw [map, map, same_view _ _ same]
  | tooDeep => rfl

end WalkOutcome

/-- Two walks that list the same from states that are alike, with visitors that keep them so, come
to the same end. -/
theorem walkFrom_related {visitor : Visitor σ ε} {other_visitor : Visitor τ ε}
    {alike : σ → τ → Prop} {root : NativePath}
    (list : ∀ state other path rel, alike state other →
      (other_visitor.files other).list (root.join path) rel =
        (visitor.files state).list (root.join path) rel)
    (note : ∀ state other events, alike state other →
      alike (visitor.note state events) (other_visitor.note other events))
    (visit : ∀ state other listing path, alike state other → listing.path = root.join path →
      Leaves alike (visitor.visit state listing) (other_visitor.visit other listing))
    (depth : Nat) {rel : String} {state : σ} {other : τ} (start : alike state other) :
    WalkOutcome.Related alike (walkFrom visitor root depth rel state)
      (walkFrom other_visitor root depth rel other) := by
  induction depth generalizing rel state other with
  | zero => exact .tooDeep
  | succ depth ih =>
    have at_path : ((visitor.files state).list (root.join (.ofRelative rel)) rel).1.path =
        root.join (.ofRelative rel) := FileSystem.path_list _ _
    rw [walkFrom, walkFrom, list state other _ rel start]
    generalize (visitor.files state).list (root.join (.ofRelative rel)) rel = found at at_path
    obtain ⟨same, same_result⟩ :=
      visit _ _ found.1 (.ofRelative rel) (note state other found.2 start) at_path
    generalize visitor.visit (visitor.note state found.2) found.1 = visited at same same_result
    generalize other_visitor.visit (other_visitor.note other found.2) found.1 = other_visited
      at same same_result
    obtain ⟨after, result⟩ := visited
    obtain ⟨other_after, other_result⟩ := other_visited
    obtain rfl : other_result = result := same_result
    cases other_result with
    | error problem => exact .failed problem same
    | ok names => exact .foldl (.done same) _ fun name _ _ => ih

end Related

end TreeBundle
