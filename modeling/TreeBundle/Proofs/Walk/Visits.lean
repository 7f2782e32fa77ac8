import TreeBundle.Proofs.Walk.Ends
import TreeBundle.Proofs.Walk.PreOrder

/-!
# A walk obeys its visitor

The visits of a walk are recorded beside the visitor's state, which changes nothing else. They are
in pre-order from the root, each leads to the directories that the visitor returned for it, and
after an error there is no further one. Without backslashes in names the walk ends, and no position
is visited twice unless the visitor returns a name twice.
-/
namespace TreeBundle
set_option autoImplicit false

variable {σ ε : Type}

namespace Visitor

/-- Keeps a record of the visits beside the visitor's own state. -/
def recorded (visitor : Visitor σ ε) : Visitor (σ × List (Visit ε)) ε where
  files state := visitor.files state.1
  note state events := (visitor.note state.1 events, state.2)
  visit state listing :=
    let visited := visitor.visit state.1 listing
    ((visited.1, state.2 ++ [⟨listing, visited.2⟩]), visited.2)

/-- Whether the visitor was shown what a directory holds, and gave the answer in some state. -/
def Made (visitor : Visitor σ ε) (files : FileSystem) (root : NativePath) (visit : Visit ε) :
    Prop :=
  visit.listing = (files.list (root.join (.ofRelative visit.position)) visit.position).1 ∧
    ∃ before, visit.answer = (visitor.visit before visit.listing).2

/-- Visits of some directories in pre-order, made with the visitor. -/
structure Tour (visitor : Visitor σ ε) (files : FileSystem) (root : NativePath)
    (dirs : List String) (visits : List (Visit ε)) (stop : Option ε) : Prop where
  order : PreOrder dirs visits stop
  made : ∀ visit ∈ visits, visitor.Made files root visit

/-- What a walk of some directories has added to a record, once it has ended. -/
def Records (visitor : Visitor σ ε) (files : FileSystem) (root : NativePath) (dirs : List String)
    (log : List (Visit ε)) (outcome : WalkOutcome (σ × List (Visit ε)) ε) : Prop :=
  ∀ after stop, outcome = .ofResult (after, stop) →
    ∃ visits, after.2 = log ++ visits ∧ visitor.Tour files root dirs visits stop

variable {visitor : Visitor σ ε} {files : FileSystem} {root : NativePath} {dir : String}
  {dirs : List String} {log visits : List (Visit ε)} {stop : Option ε}

/-! ## Recording changes nothing -/

theorem map_walkFrom_recorded (visitor : Visitor σ ε) (root : NativePath) (depth : Nat)
    (rel : String) (state : σ) (log : List (Visit ε)) :
    (walkFrom visitor.recorded root depth rel (state, log)).map Prod.fst =
      walkFrom visitor root depth rel state := by
  have related : WalkOutcome.Related (fun recorded plain => recorded.1 = plain)
      (walkFrom visitor.recorded root depth rel (state, log))
      (walkFrom visitor root depth rel state) := by
    refine walkFrom_related ?_ ?_ ?_ depth rfl
    · rintro state _ path rel rfl
      rfl
    · rintro state _ events rfl
      rfl
    · rintro state _ listing path rfl -
      exact ⟨rfl, rfl⟩
  generalize walkFrom visitor.recorded root depth rel (state, log) = recorded at related ⊢
  generalize walkFrom visitor root depth rel state = plain at related ⊢
  cases related with
  | done same => exact congrArg WalkOutcome.done same
  | failed problem same => exact congrArg (WalkOutcome.failed · problem) same
  | tooDeep => rfl

/-! ## What is recorded -/

theorem Tour.cons {rest : List (Visit ε)} (first : visitor.Tour files root [dir] visits none)
    (others : visitor.Tour files root dirs rest stop) :
    visitor.Tour files root (dir :: dirs) (visits ++ rest) stop where
  order := first.order.cons others.order
  made := List.forall_mem_append.2 ⟨first.made, others.made⟩

theorem Records.cons {outcome : WalkOutcome (σ × List (Visit ε)) ε}
    (first : visitor.Tour files root [dir] visits none)
    (others : visitor.Records files root dirs (log ++ visits) outcome) :
    visitor.Records files root (dir :: dirs) log outcome := by
  intro after stop ended
  obtain ⟨rest, added, tour⟩ := others after stop ended
  exact ⟨visits ++ rest, by rw [added, List.append_assoc], first.cons tour⟩

/-- What is recorded below a directory comes after its own visit. -/
theorem Records.visited {visit : Visit ε} {outcome : WalkOutcome (σ × List (Visit ε)) ε}
    (made : visitor.Made files root visit) (answered : visit.Answered)
    (inside : visitor.Records files root visit.below (log ++ [visit]) outcome) :
    visitor.Records files root [visit.position] log outcome := by
  intro after stop ended
  obtain ⟨visits, added, tour⟩ := inside after stop ended
  exact ⟨visit :: visits, by rw [added, List.append_assoc, List.singleton_append],
    tour.order.of_below answered, List.forall_mem_cons.2 ⟨made, tour.made⟩⟩

theorem records_tooDeep : visitor.Records files root dirs log .tooDeep := by
  rintro after (_ | problem) ended <;> cases ended

/-- Directories are recorded one after the other, up to a failure. -/
theorem records_foldl {next : String → σ × List (Visit ε) → WalkOutcome (σ × List (Visit ε)) ε}
    {position : String → String}
    (each : ∀ name state, visitor.Records files root [position name] state.2 (next name state))
    (names : List String) (state : σ × List (Visit ε)) :
    visitor.Records files root (names.map position) state.2
      (names.foldl (fun outcome name => outcome.andThen (next name)) (.done state)) := by
  induction names generalizing state with
  | nil =>
    rintro after (_ | problem) ended
    · cases ended
      exact ⟨[], by simp, .nothing, by simp⟩
    · cases ended
  | cons name names ih =>
    have first := each name state
    rw [List.foldl_cons, WalkOutcome.andThen, List.map_cons]
    cases outcome : next name state with
    | done after =>
      rw [outcome] at first
      obtain ⟨visits, added, tour⟩ := first after none rfl
      have others := ih after
      rw [added] at others
      exact .cons tour others
    | failed after problem =>
      rw [outcome] at first
      rw [WalkOutcome.foldl_failed]
      rintro final (_ | other) ended
      · cases ended
      · obtain ⟨visits, added, tour⟩ := first final (some other) ended
        exact ⟨visits, added, tour.order.cons_of_failed _, tour.made⟩
    | tooDeep =>
      rw [WalkOutcome.foldl_tooDeep]
      exact records_tooDeep

/-- One turn of a recorded walk: the visit is made and recorded, and its answer followed. -/
theorem walkFrom_recorded_cases (shows_files : visitor.Shows files) (root : NativePath)
    (depth : Nat) (dir : String) (state : σ × List (Visit ε)) :
    ∃ visit after, visit.position = dir ∧ visitor.Made files root visit ∧
      ((∃ problem, visit.answer = .error problem ∧
        walkFrom visitor.recorded root (depth + 1) dir state =
          .failed (after, state.2 ++ [visit]) problem) ∨
      ∃ names, visit.answer = .ok names ∧
        walkFrom visitor.recorded root (depth + 1) dir state =
          (names.filter visit.listing.canEnter).foldl
            (fun outcome name =>
              outcome.andThen (walkFrom visitor.recorded root depth (RelPath.join dir name)))
            (.done (after, state.2 ++ [visit]))) := by
  let found := files.list (root.join (.ofRelative dir)) dir
  let before := visitor.note state.1 found.2
  have lists : visitor.recorded.files state = files := shows_files state.1
  have here : found.1.rel = dir := FileSystem.rel_list _ dir
  rw [walkFrom, lists]
  cases visited : visitor.visit before found.1 with
  | mk after answer =>
    have recorded_visit : visitor.recorded.visit (visitor.recorded.note state found.2) found.1 =
        ((after, state.2 ++ [⟨found.1, answer⟩]), answer) := by
      simp only [recorded, before] at visited ⊢
      rw [visited]
    have made : visitor.Made files root ⟨found.1, answer⟩ :=
      ⟨by rw [Visit.position, here], before, by rw [visited]⟩
    refine ⟨⟨found.1, answer⟩, after, here, made, ?_⟩
    rw [recorded_visit]
    cases answer with
    | error problem => exact .inl ⟨problem, rfl, rfl⟩
    | ok names => exact .inr ⟨names, rfl, rfl⟩

/-- A walk from a directory records its visits in pre-order. -/
theorem records_walkFrom (shows_files : visitor.Shows files) (root : NativePath) (depth : Nat)
    (dir : String) (state : σ × List (Visit ε)) :
    visitor.Records files root [dir] state.2 (walkFrom visitor.recorded root depth dir state) := by
  induction depth generalizing dir state with
  | zero => exact records_tooDeep
  | succ depth ih =>
    obtain ⟨visit, after, rfl, made, ⟨problem, answer, walked⟩ | ⟨names, answer, walked⟩⟩ :=
      walkFrom_recorded_cases shows_files root depth dir state
    · rw [walked]
      rintro final (_ | other) ended
      · cases ended
      · cases ended
        exact ⟨[visit], rfl, .fails rfl answer, by simpa using made⟩
    · have inside := records_foldl (fun name => ih (RelPath.join visit.position name))
        (names.filter visit.listing.canEnter) (after, state.2 ++ [visit])
      rw [← Visit.below_of_ok answer, ← walked] at inside
      exact inside.visited made ⟨names, answer⟩

/-! ## Names -/

theorem Made.canEnter {visit : Visit ε} {name : String} (made : visitor.Made files root visit)
    (leads : visit.LeadsTo name) : files.CanEnter root visit.position name := by
  obtain ⟨names, -, -, listed, not_linked⟩ := leads
  rw [FileSystem.CanEnter, ← made.1]
  simp [Listing.canEnter, listed, not_linked]

theorem Made.plainNames {visit : Visit ε} (proper : files.Proper)
    (no_backslash : files.NoBackslash) (made : visitor.Made files root visit) :
    PreOrder.PlainNames visit := by
  intro name leads
  have enters := made.canEnter leads
  exact isPlain_of_entryName (FileSystem.isEntryName_of_canEnter proper enters)
    (FileSystem.no_backslash_of_canEnter proper no_backslash enters)

end Visitor

/-- What the visits of a walk are, where `stop` is the failure that ended it. -/
structure Visitor.Governs (visitor : Visitor σ ε) (files : FileSystem) (root : NativePath)
    (visits : List (Visit ε)) (stop : Option ε) : Prop where
  /-- The visitor was shown each directory as it is, and gave each answer. -/
  made : ∀ visit ∈ visits, visitor.Made files root visit
  order : PreOrder [RelPath.root] visits stop
  /-- The root comes first, and an earlier visit led to every other position. -/
  led : ∃ first others, visits = first :: others ∧ first.position = RelPath.root ∧
    ∀ front visit back, others = front ++ visit :: back →
      ∃ parent ∈ first :: front, ∃ name, parent.LeadsTo name ∧
        visit.position = RelPath.join parent.position name
  /-- Behind a visit the positions that it leads to come in the order of its answer, up to some
  point if there was a failure. -/
  siblings : ∀ front visit back, visits = front ++ visit :: back →
    ∃ visited left, visit.below = visited ++ left ∧
      visited.Sublist (back.map Visit.position) ∧ (stop = none → left = [])
  /-- Without a failure all positions that a visit leads to are visited. -/
  complete : stop = none → ∀ parent ∈ visits, ∀ name, parent.LeadsTo name →
    ∃ visit ∈ visits, visit.position = RelPath.join parent.position name
  /-- A failure is the answer of the last visit, and of no other. -/
  answers : (stop = none ∧ ∀ visit ∈ visits, visit.Answered) ∨
    ∃ problem front last, stop = some problem ∧ visits = front ++ [last] ∧
      last.answer = .error problem ∧ ∀ visit ∈ front, visit.Answered
  /-- With no name twice in an answer, no position is visited twice. -/
  once : (∀ visit ∈ visits, ∀ names, visit.answer = .ok names → names.Nodup) →
    (visits.map Visit.position).Nodup

theorem Visitor.Tour.governs {visitor : Visitor σ ε} {files : FileSystem} {root : NativePath}
    {visits : List (Visit ε)} {stop : Option ε} (proper : files.Proper)
    (no_backslash : files.NoBackslash)
    (tour : visitor.Tour files root [RelPath.root] visits stop) :
    visitor.Governs files root visits stop where
  made := tour.made
  order := tour.order
  led := by
    obtain ⟨first, others, visits_eq, at_root, led⟩ := tour.order.exists_first
    refine ⟨first, others, visits_eq, at_root, fun front visit back split => ?_⟩
    obtain ⟨parent, member, below⟩ := led front visit back split
    exact ⟨parent, member, Visit.mem_below_iff.1 below⟩
  siblings front visit back split := tour.order.exists_visited_below split
  complete := by
    rintro rfl parent member name leads
    obtain ⟨front, back, split⟩ := List.append_of_mem member
    obtain ⟨visited, left, below_eq, in_order, all⟩ := tour.order.exists_visited_below split
    rw [all rfl, List.append_nil] at below_eq
    have led : RelPath.join parent.position name ∈ visited :=
      below_eq ▸ Visit.mem_below_iff.2 ⟨name, leads, rfl⟩
    obtain ⟨visit, inside, same⟩ := List.mem_map.1 (in_order.subset led)
    exact ⟨visit, split ▸ List.mem_append_right _ (List.mem_cons_of_mem _ inside), same⟩
  answers := tour.order.answers
  once names_once := tour.order.nodup_positions
    (fun visit member => (tour.made visit member).plainNames proper no_backslash) names_once
    (List.pairwise_singleton _ _)

theorem FileSystem.walk_ne_tooDeep {files : FileSystem} (proper : files.Proper)
    (no_backslash : files.NoBackslash) (root : NativePath) {visitor : Visitor σ ε}
    (shows_files : visitor.Shows files) (state : σ) {depth : Nat}
    (deep : (linkLimit + 1) * files.root.size + 2 ≤ depth) :
    walk visitor root depth state ≠ .tooDeep := by
  have leads_down : ∀ dir name, files.Reaches root dir → files.CanEnter root dir name →
      RelPath.LeadsDown name := by
    intro dir name _ enters
    exact RelPath.leadsDown_of_plain (isPlain_of_entryName (isEntryName_of_canEnter proper enters)
      (no_backslash_of_canEnter proper no_backslash enters))
  have ends : files.EndsWithin root ((linkLimit + 1) * files.root.size + 1 + 1) RelPath.root :=
    endsWithin_of_leadsDown .refl leads_down (by decide) (Nat.zero_le _) (Nat.zero_add _)
  exact walkFrom_ne_tooDeep shows_files (ends.mono deep) state

/-- Where no name has a backslash, a walk with any visitor comes to its end or to the visitor's
first error, and the visitor governs its visits. -/
theorem walk_obeys_visitor {files : FileSystem} (proper : files.Proper)
    (no_backslash : files.NoBackslash) (root : NativePath) {visitor : Visitor σ ε}
    (shows_files : visitor.Shows files) (state : σ) {depth : Nat}
    (deep : (FileSystem.linkLimit + 1) * files.root.size + 2 ≤ depth) :
    ∃ visits stop after,
      walk visitor.recorded root depth (state, []) = .ofResult ((after, visits), stop) ∧
      walk visitor root depth state = .ofResult (after, stop) ∧
      visitor.Governs files root visits stop := by
  have plain := Visitor.map_walkFrom_recorded visitor root depth RelPath.root state []
  have recorded := Visitor.records_walkFrom shows_files root depth RelPath.root (state, [])
  have ends := FileSystem.walk_ne_tooDeep proper no_backslash root shows_files state deep
  rw [walk] at ends ⊢
  rw [walk]
  obtain ⟨both, stop, ended⟩ := WalkOutcome.exists_eq_ofResult fun deeper =>
    ends (plain.symm.trans (congrArg (WalkOutcome.map Prod.fst) deeper))
  obtain ⟨visits, added, tour⟩ := recorded both stop ended
  rw [ended, WalkOutcome.map_ofResult] at plain
  rw [List.nil_append] at added
  exact ⟨visits, stop, both.1, by rw [ended, ← added], plain.symm, tour.governs proper no_backslash⟩

/-- Returns the same names everywhere, out of order and not all of them listed, and has enough at
the third visit. -/
def Visitor.fickle : Visitor Nat String where
  files _ := .vendored
  note count _ := count
  visit count _ :=
    (count + 1, if count = 2 then .error "enough" else .ok ["vendor", "lib", "nowhere", "src"])

/-- The link `lib` is not entered, and neither is what is not there. -/
theorem walk_obeys_visitor_fickle :
    FileSystem.vendored.Proper ∧ FileSystem.vendored.NoBackslash ∧
    Visitor.fickle.Shows .vendored ∧
    (FileSystem.linkLimit + 1) * FileSystem.vendored.root.size + 2 ≤ 300 ∧
    ∃ visits, visits.map Visit.position = [".", "vendor", "src"] ∧
      Visitor.fickle.Governs .vendored (.ofString "/") visits (some "enough") := by
  have shows_files : Visitor.fickle.Shows .vendored := fun _ => rfl
  have deep : (FileSystem.linkLimit + 1) * FileSystem.vendored.root.size + 2 ≤ 300 := by decide
  obtain ⟨visits, stop, after, recorded, -, governs⟩ :=
    walk_obeys_visitor FileSystem.proper_vendored FileSystem.noBackslash_vendored (.ofString "/")
      shows_files 0 deep
  have computed : (match walk Visitor.fickle.recorded (.ofString "/") 300 (0, []) with
      | .failed state problem => some (state.2.map Visit.position, problem)
      | _ => none) = some ([".", "vendor", "src"], "enough") := by decide +kernel
  rw [recorded] at computed
  cases stop with
  | none => cases computed
  | some problem =>
    obtain ⟨positions, rfl⟩ := Prod.mk.inj (Option.some.inj computed)
    exact ⟨FileSystem.proper_vendored, FileSystem.noBackslash_vendored, shows_files, deep, visits,
      positions, governs⟩

end TreeBundle
