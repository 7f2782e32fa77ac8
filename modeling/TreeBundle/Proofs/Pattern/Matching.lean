import TreeBundle.Pattern.Regex

/-!
# The matcher finds the spans

The positions that the matcher computes are the ends of the spans that start in the given ones. A
repetition without a bound needs no more rounds than the text has positions, since a round that
goes nowhere can be left out.
-/
namespace TreeBundle.Pattern
set_option autoImplicit false

section
variable {α β : Type} {reader : Reader α β}

/-! ## Spans -/

namespace Spans

theorem le {regex : Regex α β} {i j : Nat} (spans : Spans reader regex i j) : i ≤ j := by
  induction spans with
  | empty | look | timesNone | upToNone => exact Nat.le_refl _
  | single => exact Nat.le_succ _
  | sequence _ _ _ _ _ _ _ first second => exact Nat.le_trans first second
  | left _ _ _ _ _ inner | right _ _ _ _ _ inner | atLeastEnough _ _ _ _ _ inner => exact inner
  | timesMore _ _ _ _ _ _ _ first second => exact Nat.le_trans first second
  | atLeastMore _ _ _ _ _ _ _ first second => exact Nat.le_trans first second
  | upToMore _ _ _ _ _ _ _ first second => exact Nat.le_trans first second

theorem le_size {regex : Regex α β} {i j : Nat} (spans : Spans reader regex i j)
    (start : i ≤ reader.size) : j ≤ reader.size := by
  induction spans with
  | empty | look | timesNone | upToNone => exact start
  | single _ _ inside => exact inside
  | sequence _ _ _ _ _ _ _ first second => exact second (first start)
  | left _ _ _ _ _ inner | right _ _ _ _ _ inner | atLeastEnough _ _ _ _ _ inner =>
    exact inner start
  | timesMore _ _ _ _ _ _ _ first second => exact second (first start)
  | atLeastMore _ _ _ _ _ _ _ first second => exact second (first start)
  | upToMore _ _ _ _ _ _ _ first second => exact second (first start)

theorem sequence_iff {first second : Regex α β} {i k : Nat} :
    Spans reader (.sequence first second) i k ↔
      ∃ j, Spans reader first i j ∧ Spans reader second j k := by
  constructor
  · rintro (_ | _ | _ | ⟨_, _, _, j, _, before, after⟩)
    exact ⟨j, before, after⟩
  · rintro ⟨j, before, after⟩
    exact .sequence _ _ _ _ _ before after

theorem either_iff {left right : Regex α β} {i j : Nat} :
    Spans reader (.either left right) i j ↔ Spans reader left i j ∨ Spans reader right i j := by
  constructor
  · intro spans
    cases spans with
    | left _ _ _ _ inner => exact Or.inl inner
    | right _ _ _ _ inner => exact Or.inr inner
  · rintro (inner | inner)
    · exact .left _ _ _ _ inner
    · exact .right _ _ _ _ inner

theorem look_iff {condition : β} {i j : Nat} :
    Spans reader (.look condition) i j ↔ reader.look condition i = true ∧ i = j := by
  constructor
  · intro spans
    cases spans with
    | look _ _ holds => exact ⟨holds, rfl⟩
  · rintro ⟨holds, rfl⟩
    exact .look _ _ holds

theorem empty_iff {i j : Nat} : Spans reader .empty i j ↔ i = j := by
  constructor
  · intro spans
    cases spans
    rfl
  · rintro rfl
    exact .empty i

theorem single_iff {test : α} {i j : Nat} :
    Spans reader (.single test) i j ↔
      i < reader.size ∧ reader.single test i = true ∧ i + 1 = j := by
  constructor
  · intro spans
    cases spans with
    | single _ _ inside passes => exact ⟨inside, passes, rfl⟩
  · rintro ⟨inside, passes, rfl⟩
    exact .single _ _ inside passes

theorem times_zero_iff {body : Regex α β} {i j : Nat} :
    Spans reader (.times 0 body) i j ↔ i = j := by
  constructor
  · intro spans
    cases spans
    rfl
  · rintro rfl
    exact .timesNone body i

theorem times_succ_iff {count : Nat} {body : Regex α β} {i k : Nat} :
    Spans reader (.times (count + 1) body) i k ↔
      ∃ j, Spans reader body i j ∧ Spans reader (.times count body) j k := by
  constructor
  · intro spans
    cases spans with
    | timesMore _ _ _ j _ first others => exact ⟨j, first, others⟩
  · rintro ⟨j, first, others⟩
    exact .timesMore _ _ _ _ _ first others

theorem upTo_zero_iff {body : Regex α β} {i j : Nat} :
    Spans reader (.upTo 0 body) i j ↔ i = j := by
  constructor
  · intro spans
    cases spans
    rfl
  · rintro rfl
    exact .upToNone 0 body i

theorem upTo_succ_iff {count : Nat} {body : Regex α β} {i k : Nat} :
    Spans reader (.upTo (count + 1) body) i k ↔
      i = k ∨ ∃ j, Spans reader body i j ∧ Spans reader (.upTo count body) j k := by
  constructor
  · intro spans
    cases spans with
    | upToNone => exact Or.inl rfl
    | upToMore _ _ _ j _ first others => exact Or.inr ⟨j, first, others⟩
  · rintro (rfl | ⟨j, first, others⟩)
    · exact .upToNone _ _ _
    · exact .upToMore _ _ _ _ _ first others

theorem upTo_mono {few many : Nat} {body : Regex α β} {i j : Nat} (fewer : few ≤ many)
    (spans : Spans reader (.upTo few body) i j) : Spans reader (.upTo many body) i j := by
  induction few generalizing many i with
  | zero =>
    rw [upTo_zero_iff.1 spans]
    exact .upToNone _ _ _
  | succ few ih =>
    cases many with
    | zero => omega
    | succ many =>
      rcases upTo_succ_iff.1 spans with rfl | ⟨k, first, others⟩
      · exact .upToNone _ _ _
      · exact .upToMore _ _ _ _ _ first (ih (by omega) others)

theorem upTo_snoc {count : Nat} {body : Regex α β} {i j k : Nat}
    (spans : Spans reader (.upTo count body) i j) (last : Spans reader body j k) :
    Spans reader (.upTo (count + 1) body) i k := by
  induction count generalizing i with
  | zero =>
    rw [upTo_zero_iff.1 spans]
    exact .upToMore _ _ _ _ _ last (.upToNone _ _ _)
  | succ count ih =>
    rcases upTo_succ_iff.1 spans with rfl | ⟨m, first, others⟩
    · exact .upToMore _ _ _ _ _ last (.upToNone _ _ _)
    · exact .upToMore _ _ _ _ _ first (ih others)

/-- Rounds that go nowhere can be left out, so there are no more of them than positions. -/
theorem upTo_of_upTo {count : Nat} {body : Regex α β} {i j : Nat}
    (spans : Spans reader (.upTo count body) i j) : Spans reader (.upTo (j - i) body) i j := by
  induction count generalizing i with
  | zero =>
    rw [upTo_zero_iff.1 spans]
    exact .upToNone _ _ _
  | succ count ih =>
    rcases upTo_succ_iff.1 spans with rfl | ⟨k, first, others⟩
    · exact .upToNone _ _ _
    · have shorter := ih others
      have forward := first.le
      have onward := others.le
      by_cases same : i = k
      · subst same
        exact shorter
      · exact upTo_mono (by omega) (.upToMore _ _ _ _ _ first shorter)

theorem atLeast_iff {count : Nat} {body : Regex α β} {i k : Nat} :
    Spans reader (.atLeast count body) i k ↔
      ∃ j more, Spans reader (.times count body) i j ∧ Spans reader (.upTo more body) j k := by
  constructor
  · intro spans
    generalize whole : Regex.atLeast count body = regex at spans
    induction spans with
    | atLeastEnough _ _ _ j enough =>
      cases whole
      exact ⟨j, 0, enough, .upToNone _ _ _⟩
    | atLeastMore _ _ _ _ _ _ last ih =>
      cases whole
      obtain ⟨j, more, enough, others⟩ := ih rfl
      exact ⟨j, more + 1, enough, upTo_snoc others last⟩
    | _ => cases whole
  · rintro ⟨j, more, enough, others⟩
    have start : Spans reader (.atLeast count body) i j := .atLeastEnough _ _ _ _ enough
    clear enough
    induction more generalizing j with
    | zero => rwa [← upTo_zero_iff.1 others]
    | succ more ih =>
      rcases upTo_succ_iff.1 others with rfl | ⟨m, first, rest⟩
      · exact start
      · exact ih m rest (.atLeastMore _ _ _ _ _ start first)

end Spans

/-! ## Sets of positions -/

theorem testBit_add (set : Positions) (k i : Nat) :
    (set ||| (1 <<< k)).testBit i = (set.testBit i || decide (i = k)) := by
  simp [Nat.testBit_or, Nat.one_shiftLeft, Nat.testBit_two_pow, eq_comm]

theorem testBit_foldl (test : Nat → Bool) (count i : Nat) :
    ((List.range count).foldl (fun set i => if test i then set ||| (1 <<< i) else set)
      0).testBit i =
      (decide (i < count) && test i) := by
  induction count with
  | zero => simp
  | succ count ih =>
    rw [List.range_succ, List.foldl_append, List.foldl_cons, List.foldl_nil]
    by_cases last : i = count
    · subst last
      split
      · next passes =>
        rw [testBit_add]
        simp [passes]
      · next fails =>
        rw [ih]
        simp [fails]
    · have before : (i < count + 1) ↔ (i < count) := by omega
      split
      · rw [testBit_add, ih]
        simp [last, before]
      · rw [ih]
        simp [before]

theorem testBit_ofTest (size : Nat) (test : Nat → Bool) (i : Nat) :
    (Positions.ofTest size test).testBit i = (decide (i ≤ size) && test i) := by
  unfold Positions.ofTest
  rw [testBit_foldl, decide_eq_decide.2 Nat.lt_succ_iff]

def Positions.Within (size : Nat) (set : Positions) : Prop :=
  ∀ i, set.testBit i = true → i ≤ size

/-- A function from starts to ends does what a regular expression says. -/
def Computes (reader : Reader α β) (step : Positions → Positions) (regex : Regex α β) : Prop :=
  ∀ starts, Positions.Within reader.size starts → ∀ j,
    (step starts).testBit j = true ↔ ∃ i, starts.testBit i = true ∧ Spans reader regex i j

theorem Computes.within {step : Positions → Positions} {regex : Regex α β}
    (computes : Computes reader step regex) {starts : Positions}
    (inside : Positions.Within reader.size starts) :
    Positions.Within reader.size (step starts) := by
  intro j ends
  obtain ⟨i, starts_at, spans⟩ := (computes starts inside j).1 ends
  exact spans.le_size (inside i starts_at)

/-! ## Repetitions -/

theorem iterate_of_fixed {step : Positions → Positions} {set : Positions} (fixed : step set = set)
    (count : Nat) : iterate step count set = set := by
  cases count with
  | zero => rfl
  | succ count =>
    rw [iterate, fixed]
    exact if_pos rfl

/-- Stopping early makes no difference. -/
theorem iterate_succ (step : Positions → Positions) (count : Nat) (set : Positions) :
    iterate step (count + 1) set = iterate step count (step set) := by
  rw [iterate]
  by_cases fixed : step set = set
  · rw [fixed, iterate_of_fixed fixed]
    exact if_pos rfl
  · exact if_neg fixed

theorem computes_times {step : Positions → Positions} {body : Regex α β}
    (computes : Computes reader step body) (count : Nat) :
    Computes reader (iterate step count) (.times count body) := by
  induction count with
  | zero =>
    intro starts _ j
    simp [iterate, Spans.times_zero_iff]
  | succ count ih =>
    intro starts inside j
    rw [iterate_succ, ih (step starts) (computes.within inside)]
    simp only [computes starts inside, Spans.times_succ_iff]
    constructor
    · rintro ⟨k, ⟨i, start, first⟩, others⟩
      exact ⟨i, start, k, first, others⟩
    · rintro ⟨i, start, k, first, others⟩
      exact ⟨k, ⟨i, start, first⟩, others⟩

theorem computes_upTo {step : Positions → Positions} {body : Regex α β}
    (computes : Computes reader step body) (count : Nat) :
    Computes reader (iterate (fun set => set ||| step set) count) (.upTo count body) := by
  induction count with
  | zero =>
    intro starts _ j
    simp [iterate, Spans.upTo_zero_iff]
  | succ count ih =>
    intro starts inside j
    have reached : ∀ k, (starts ||| step starts).testBit k = true ↔ starts.testBit k = true ∨
        ∃ i, starts.testBit i = true ∧ Spans reader body i k := by
      intro k
      rw [Nat.testBit_or, Bool.or_eq_true, computes starts inside]
    have still_inside : Positions.Within reader.size (starts ||| step starts) := by
      intro k member
      rcases (reached k).1 member with start | ⟨i, start, first⟩
      · exact inside k start
      · exact first.le_size (inside i start)
    rw [iterate_succ, ih (starts ||| step starts) still_inside]
    constructor
    · rintro ⟨k, member, others⟩
      rcases (reached k).1 member with start | ⟨i, start, first⟩
      · exact ⟨k, start, Spans.upTo_mono (Nat.le_succ count) others⟩
      · exact ⟨i, start, .upToMore _ _ _ _ _ first others⟩
    · rintro ⟨i, start, spans⟩
      rcases Spans.upTo_succ_iff.1 spans with rfl | ⟨k, first, others⟩
      · exact ⟨i, (reached i).2 (Or.inl start), .upToNone _ _ _⟩
      · exact ⟨k, (reached k).2 (Or.inr ⟨i, start, first⟩), others⟩

theorem computes_atLeast {step : Positions → Positions} {body : Regex α β}
    (computes : Computes reader step body) (count : Nat) :
    Computes reader (fun starts => iterate (fun set => set ||| step set) (reader.size + 1)
      (iterate step count starts)) (.atLeast count body) := by
  intro starts inside j
  have enough := computes_times computes count
  rw [computes_upTo computes (reader.size + 1) _ (enough.within inside)]
  simp only [enough starts inside, Spans.atLeast_iff]
  constructor
  · rintro ⟨k, ⟨i, start, first⟩, others⟩
    exact ⟨i, start, k, reader.size + 1, first, others⟩
  · rintro ⟨i, start, k, more, first, others⟩
    have last := others.le_size (first.le_size (inside i start))
    exact ⟨k, ⟨i, start, first⟩, Spans.upTo_mono (by omega) (Spans.upTo_of_upTo others)⟩

/-! ## All expressions -/

theorem computes_single (test : α) :
    Computes reader ((Regex.single test).resolve reader |>.ends reader.size) (.single test) := by
  intro starts _ j
  simp only [Regex.resolve, Regex.ends, Spans.single_iff]
  rw [Nat.testBit_shiftLeft, Bool.and_eq_true, decide_eq_true_eq]
  constructor
  · rintro ⟨positive, both⟩
    rw [Nat.testBit_and, Bool.and_eq_true, testBit_ofTest] at both
    simp only [Bool.and_eq_true, decide_eq_true_eq] at both
    exact ⟨j - 1, both.1, both.2.2.1, both.2.2.2, by omega⟩
  · rintro ⟨i, start, inside, passes, rfl⟩
    refine ⟨by omega, ?_⟩
    rw [Nat.testBit_and, Bool.and_eq_true, testBit_ofTest, Nat.add_sub_cancel]
    simp [start, inside, passes, Nat.le_of_lt inside]

theorem computes_look (condition : β) :
    Computes reader ((Regex.look condition).resolve reader |>.ends reader.size)
      (.look condition) := by
  intro starts inside j
  simp only [Regex.resolve, Regex.ends, Spans.look_iff]
  rw [Nat.testBit_and, Bool.and_eq_true, testBit_ofTest, Bool.and_eq_true, decide_eq_true_eq]
  constructor
  · rintro ⟨start, -, holds⟩
    exact ⟨j, start, holds, rfl⟩
  · rintro ⟨i, start, holds, rfl⟩
    exact ⟨start, inside i start, holds⟩

theorem computes_ends (regex : Regex α β) :
    Computes reader ((regex.resolve reader).ends reader.size) regex := by
  induction regex with
  | empty =>
    intro starts _ j
    simp [Regex.resolve, Regex.ends, Spans.empty_iff]
  | single test => exact computes_single test
  | look condition => exact computes_look condition
  | sequence first second first_computes second_computes =>
    intro starts inside j
    simp only [Regex.resolve, Regex.ends, Spans.sequence_iff]
    rw [second_computes _ (first_computes.within inside)]
    simp only [first_computes starts inside]
    constructor
    · rintro ⟨k, ⟨i, start, before⟩, after⟩
      exact ⟨i, start, k, before, after⟩
    · rintro ⟨i, start, k, before, after⟩
      exact ⟨k, ⟨i, start, before⟩, after⟩
  | either left right left_computes right_computes =>
    intro starts inside j
    simp only [Regex.resolve, Regex.ends, Spans.either_iff]
    rw [Nat.testBit_or, Bool.or_eq_true, left_computes starts inside, right_computes starts inside]
    constructor
    · rintro (⟨i, start, spans⟩ | ⟨i, start, spans⟩)
      · exact ⟨i, start, Or.inl spans⟩
      · exact ⟨i, start, Or.inr spans⟩
    · rintro ⟨i, start, spans | spans⟩
      · exact Or.inl ⟨i, start, spans⟩
      · exact Or.inr ⟨i, start, spans⟩
  | times count body computes => exact computes_times computes count
  | atLeast count body computes => exact computes_atLeast computes count
  | upTo count body computes => exact computes_upTo computes count

/-- The matcher answers whether there is a span at all. -/
theorem isFound_iff (regex : Regex α β) :
    regex.isFound reader = true ↔ ∃ i j, i ≤ reader.size ∧ Spans reader regex i j := by
  have everywhere : ∀ i, (Positions.ofTest reader.size fun _ => true).testBit i = true ↔
      i ≤ reader.size := by
    intro i
    simp [testBit_ofTest]
  have computes_all : Computes reader ((regex.resolve reader).ends reader.size) regex :=
    computes_ends regex
  have computes := computes_all (Positions.ofTest reader.size fun _ => true) fun i member =>
    (everywhere i).1 member
  unfold Regex.isFound
  rw [bne_iff_ne]
  constructor
  · intro some_end
    obtain ⟨j, ends⟩ := Nat.exists_testBit_of_ne_zero some_end
    obtain ⟨i, start, spans⟩ := (computes j).1 ends
    exact ⟨i, j, (everywhere i).1 start, spans⟩
  · rintro ⟨i, j, start, spans⟩ no_end
    have ends := (computes j).2 ⟨i, (everywhere i).2 start, spans⟩
    rw [no_end, Nat.zero_testBit] at ends
    cases ends

end
end TreeBundle.Pattern
