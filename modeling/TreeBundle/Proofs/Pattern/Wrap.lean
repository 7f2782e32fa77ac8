import TreeBundle.Pattern.Compile
import TreeBundle.Proofs.Pattern.Parts

/-!
# Patterns in their wrapper

A pattern is compiled inside of a group. Its parser goes through the pattern in step with a parser
of the pattern alone, until the pattern closes a group that it did not open. If it never does, the
pattern is well formed by itself, and the group around it holds just what it says.
-/
namespace TreeBundle.Pattern
set_option autoImplicit false

namespace Draft

/-! ## Drafts inside of the group -/

/-- The group around a pattern, as it waits for its end. -/
def outermost : OpenGroup :=
  ⟨false, [], [], [.assertion .lineStart], false⟩

/-- A draft of a pattern, read inside of the group. -/
def inside (draft : Draft) : Draft :=
  { draft with enclosing := draft.enclosing ++ [outermost] }

/-- The draft of the whole text at the end of a pattern that closed all its groups. -/
def anchored (draft : Draft) : Draft :=
  ⟨[], [.assertion .lineEnd, .group false [] draft.body, .assertion .lineStart], false, [],
    draft.names⟩

theorem inside_enclosing_ne (draft : Draft) : draft.inside.enclosing ≠ [] := by
  simp [inside]

theorem enter?_named {draft next : Draft} {name : List Char}
    (entered : draft.enter? (.capture (some name)) = some next) :
    ¬ draft.names.contains name = true ∧
      next = { draft.openGroup true [] with names := name :: draft.names } := by
  unfold enter? at entered
  simp only at entered
  split at entered
  · cases entered
  · next fresh => exact ⟨fresh, (Option.some.inj entered).symm⟩

/-- Inside of the group a part does the same, unless it closes the group itself. -/
theorem take?_inside {draft next : Draft} {part : Part}
    (taken : draft.inside.take? part = some next) :
    (part = .close ∧ draft.enclosing = []) ∨
      ∃ inner, draft.take? part = some inner ∧ next = inner.inside := by
  cases part with
  | opening opening =>
    cases opening with
    | setFlags changes =>
      cases taken
      exact Or.inr ⟨_, rfl, rfl⟩
    | group changes =>
      cases taken
      exact Or.inr ⟨_, rfl, rfl⟩
    | capture name =>
      cases name with
      | none =>
        cases taken
        exact Or.inr ⟨_, rfl, rfl⟩
      | some name =>
        obtain ⟨fresh, rfl⟩ := enter?_named taken
        exact Or.inr ⟨_, if_neg fresh, rfl⟩
  | close =>
    cases open_groups : draft.enclosing with
    | nil => exact Or.inl ⟨rfl, rfl⟩
    | cons group further =>
      refine Or.inr ?_
      unfold take? closeGroup? inside at taken
      unfold take? closeGroup?
      simp only [open_groups, List.cons_append] at taken ⊢
      cases taken
      exact ⟨_, rfl, rfl⟩
  | bar =>
    cases taken
    exact Or.inr ⟨_, rfl, rfl⟩
  | item item =>
    cases taken
    exact Or.inr ⟨_, rfl, rfl⟩
  | repeated least greatest =>
    refine Or.inr ?_
    unfold take? repeat? inside at taken
    unfold take? repeat?
    simp only at taken
    split at taken
    · cases taken
    · cases taken
    · cases taken
      exact ⟨_, rfl, rfl⟩

/-- Only a closing parenthesis takes a group away. -/
theorem enclosing_of_take? {draft next : Draft} {part : Part} (no_close : part ≠ .close)
    (taken : draft.take? part = some next) : draft.enclosing <:+ next.enclosing := by
  cases part with
  | opening opening =>
    cases opening with
    | setFlags changes =>
      cases taken
      exact List.suffix_refl _
    | group changes =>
      cases taken
      exact List.suffix_cons _ _
    | capture name =>
      cases name with
      | none =>
        cases taken
        exact List.suffix_cons _ _
      | some name =>
        obtain ⟨-, rfl⟩ := enter?_named taken
        exact List.suffix_cons _ _
  | close => exact absurd rfl no_close
  | bar =>
    cases taken
    exact List.suffix_refl _
  | item item =>
    cases taken
    exact List.suffix_refl _
  | repeated least greatest =>
    have repeated : draft.repeat? least greatest = some next := taken
    unfold repeat? at repeated
    split at repeated
    · cases repeated
    · cases repeated
    · cases repeated
      exact List.suffix_refl _

/-! ## Runs -/

theorem run_ended {draft : Draft} {text : List Char} (fuel : Nat)
    (ended : skip draft.extended text = []) : draft.run fuel text = some draft := by
  unfold run
  simp only [ended]

theorem run_zero {draft : Draft} {text rest : List Char} {c : Char}
    (visible : skip draft.extended text = c :: rest) : draft.run 0 text = none := by
  unfold run
  simp only [visible]

theorem run_succ {draft : Draft} {text rest : List Char} {c : Char} (fuel : Nat)
    (visible : skip draft.extended text = c :: rest) :
    draft.run (fuel + 1) text =
      (draft.step (c :: rest)).bind fun found => found.1.run fuel found.2 := by
  rw [run]
  simp only [visible]
  cases draft.step (c :: rest) <;> rfl

theorem run_congr {draft : Draft} {text other : List Char} (fuel : Nat)
    (same : skip draft.extended text = skip draft.extended other) :
    draft.run fuel text = draft.run fuel other := by
  unfold run
  rw [same]

/-- What a successful run reads next. -/
theorem exists_part_of_run {draft final : Draft} {text rest : List Char} {c : Char} {fuel : Nat}
    (result : draft.run fuel text = some final) (visible : skip draft.extended text = c :: rest) :
    ∃ less part next after, fuel = less + 1 ∧
      part? draft.extended (c :: rest) = some (part, after) ∧ draft.take? part = some next ∧
      next.run less after = some final := by
  cases fuel with
  | zero =>
    rw [run_zero visible] at result
    cases result
  | succ less =>
    rw [run_succ less visible, step_eq] at result
    obtain ⟨⟨next, after⟩, step, more⟩ := Option.bind_eq_some_iff.1 result
    obtain ⟨⟨part, later⟩, read, taken⟩ := Option.bind_eq_some_iff.1 step
    obtain ⟨same, known, pair⟩ := Option.map_eq_some_iff.1 taken
    cases pair
    exact ⟨less, part, _, _, rfl, read, known, more⟩

theorem run_of_part {draft next : Draft} {text rest after : List Char} {c : Char} {part : Part}
    (fuel : Nat) (visible : skip draft.extended text = c :: rest)
    (read : part? draft.extended (c :: rest) = some (part, after))
    (taken : draft.take? part = some next) :
    draft.run (fuel + 1) text = next.run fuel after := by
  rw [run_succ fuel visible, step_eq, read, Option.bind_some, taken]
  rfl

theorem skip_visible {c : Char} (extended : Bool) (rest : List Char)
    (visible : Unicode.isWhiteSpace c = false) (no_comment : c ≠ '#') :
    skip extended (c :: rest) = c :: rest := by
  cases extended with
  | false => rfl
  | true =>
    have kept : skipSpace (c :: rest) = c :: rest := by
      rw [skipSpace, if_neg (by simp [visible]), if_neg no_comment]
    exact kept

theorem skip_nil (extended : Bool) : skip extended [] = [] :=
  List.suffix_nil.1 (skip_suffix extended [])

/-- From the end of the closing text no group is closed any more. -/
theorem enclosing_of_run_spent {draft final : Draft} {rest : List Char} {fuel : Nat}
    (result : draft.run fuel rest = some final) (spent : Spent rest) :
    final.enclosing = draft.enclosing := by
  rcases List.suffix_cons_iff.1 spent with rfl | nothing
  · have visible := skip_visible draft.extended [] (by decide : Unicode.isWhiteSpace '$' = false)
      (by decide)
    obtain ⟨less, part, next, after, rfl, read, taken, more⟩ := exists_part_of_run result visible
    cases read
    cases taken
    rw [run_ended less (skip_nil _)] at more
    cases more
    rfl
  · rw [List.suffix_nil.1 nothing, run_ended fuel (skip_nil _)] at result
    cases result
    rfl

theorem counts?_stuck {extended : Bool} {blank : List Char} (ended : skip extended blank = []) :
    counts? extended (blank ++ closing) = none := by
  have no_digits : ∀ text, text = [] ∨ text = closing → decimal? extended text = none := by
    rintro text (rfl | rfl)
    · unfold decimal?
      simp [decimalDigits_eq, takeKind]
    · have visible : Unicode.isWhiteSpace ')' = false := by decide
      unfold decimal?
      simp [decimalDigits_eq, takeKind, closing, visible]
  rw [counts?_eq, no_digits]
  · rfl
  · rcases skip_closing extended blank with swallowed | kept
    · exact Or.inl swallowed
    · exact Or.inr (by rw [kept, ended, List.nil_append])

theorem run_stuck {draft : Draft} {rest : List Char} (fuel : Nat)
    (stuck : Stuck draft.extended rest) : draft.run fuel rest = none := by
  obtain ⟨blank, rfl, ended⟩ := stuck
  have visible := skip_visible draft.extended (blank ++ closing)
    (by decide : Unicode.isWhiteSpace '\x7b' = false) (by decide)
  cases result : draft.run fuel ('\x7b' :: (blank ++ closing)) with
  | none => rfl
  | some final =>
    obtain ⟨less, part, next, after, -, read, -⟩ := exists_part_of_run result visible
    simp [part?, counts?_stuck ended] at read

/-! ## Patterns that close too much -/

/-- One draft with what is left of its text comes from another by steps of the parser. -/
inductive Reads : Draft → List Char → Draft → List Char → Prop where
  | here (draft : Draft) (text : List Char) : Reads draft text draft text
  | step (draft next last : Draft) (text rest after stop : List Char) (c : Char) :
      skip draft.extended text = c :: rest → draft.step (c :: rest) = some (next, after) →
      Reads next after last stop → Reads draft text last stop

/-- A closing parenthesis is read while no group is open. -/
def Overcloses (draft : Draft) (text : List Char) : Prop :=
  ∃ last stop rest, Reads draft text last stop ∧ skip last.extended stop = ')' :: rest ∧
    last.enclosing = []

theorem run_of_overcloses {draft : Draft} {text : List Char} (overcloses : Overcloses draft text)
    (fuel : Nat) : draft.run fuel text = none := by
  obtain ⟨last, stop, rest, reads, visible, closed⟩ := overcloses
  induction reads generalizing fuel with
  | here draft text =>
    cases fuel with
    | zero => exact run_zero visible
    | succ fuel =>
      have no_group : draft.step (')' :: rest) = none := by
        rw [step_eq]
        simp [part?, take?, closeGroup?, closed]
      rw [run_succ fuel visible, no_group]
      rfl
  | step draft next last text inner after stop c first step more ih =>
    cases fuel with
    | zero => exact run_zero first
    | succ fuel =>
      rw [run_succ fuel first, step]
      exact ih fuel visible closed

/-! ## In step -/

/-- The closing text closes the group and stands behind it, if the pattern closed its own groups. -/
theorem run_inside_closing {draft final : Draft} {fuel : Nat}
    (result : draft.inside.run fuel closing = some final) (closed : final.enclosing = []) :
    draft.enclosing = [] ∧ final = draft.anchored := by
  have parenthesis := skip_visible draft.extended ['$'] not_whiteSpace_closing (by decide)
  obtain ⟨less, part, next, after, -, read, taken, more⟩ := exists_part_of_run result parenthesis
  cases read
  have kept := enclosing_of_run_spent more (List.suffix_refl _)
  cases groups : draft.enclosing with
  | cons group further =>
    have closes : draft.inside.closeGroup? = some next := taken
    simp only [closeGroup?, inside, groups, List.cons_append, Option.some.injEq] at closes
    rw [closed, ← closes] at kept
    simp at kept
  | nil =>
    have closes : draft.inside.closeGroup? = some next := taken
    simp only [closeGroup?, inside, groups, List.nil_append, Option.some.injEq] at closes
    subst closes
    refine ⟨rfl, ?_⟩
    have dollar := skip_visible false [] (by decide : Unicode.isWhiteSpace '$' = false) (by decide)
    obtain ⟨last, part, pushed, rest, -, read, taken, more⟩ := exists_part_of_run more dollar
    cases read
    cases taken
    rw [run_ended last (skip_nil _)] at more
    exact (Option.some.inj more).symm

/-- A pattern is read alone as it is read in its group, unless it closes too much. -/
theorem run_inside {draft final : Draft} {text : List Char} {fuel enough : Nat}
    (result : draft.inside.run fuel (text ++ closing) = some final)
    (closed : final.enclosing = []) (long : text.length ≤ enough) :
    Overcloses draft text ∨
      ∃ last, draft.run enough text = some last ∧ last.enclosing = [] ∧ final = last.anchored := by
  induction fuel using Nat.strongRecOn generalizing draft text enough with
  | ind fuel ih =>
  rcases skip_closing draft.extended text with ended | kept
  · have whole : draft.inside.run fuel (text ++ closing) = some draft.inside := run_ended fuel ended
    rw [whole] at result
    cases result
    exact absurd closed (inside_enclosing_ne draft)
  cases visible : skip draft.extended text with
  | nil =>
    have behind : skip draft.extended (text ++ closing) = skip draft.extended closing := by
      rw [kept, visible, List.nil_append]
      exact (skip_visible draft.extended ['$'] not_whiteSpace_closing (by decide)).symm
    have at_end : draft.inside.run fuel (text ++ closing) = draft.inside.run fuel closing :=
      run_congr fuel behind
    rw [at_end] at result
    obtain ⟨no_group, anchored⟩ := run_inside_closing result closed
    exact Or.inr ⟨draft, run_ended enough visible, no_group, anchored⟩
  | cons c rest =>
    rw [visible, List.cons_append] at kept
    obtain ⟨less, part, next, after, rfl, inner_read, taken, more⟩ := exists_part_of_run result kept
    have read : part? draft.extended (c :: (rest ++ closing)) = some (part, after) := inner_read
    rcases part?_unclosed read with ⟨no_close, spent⟩ | ⟨⟨item, rfl⟩, stuck⟩ | ⟨left, rfl, alone⟩
    · -- The group around the pattern stays open for good.
      have inherited := enclosing_of_take? no_close taken
      rw [← enclosing_of_run_spent more spent, closed, List.suffix_nil] at inherited
      exact absurd inherited (inside_enclosing_ne draft)
    · cases taken
      have fails : (draft.inside.push item).run less after = none := run_stuck less stuck
      rw [fails] at more
      cases more
    · rcases take?_inside taken with ⟨rfl, no_group⟩ | ⟨inner, known, rfl⟩
      · cases part?_close alone
        exact Or.inl ⟨draft, text, rest, .here draft text, visible, no_group⟩
      · have shorter := (part?_suffix alone).length_le
        have inside_text := (skip_suffix draft.extended text).length_le
        rw [visible, List.length_cons] at inside_text
        cases enough with
        | zero => omega
        | succ enough =>
          have fits : left.length ≤ enough := by omega
          rw [run_of_part enough visible alone known]
          rcases ih less (Nat.lt_succ_self less) more fits with overcloses | done
          · obtain ⟨last, stop, further, reads, overcloses⟩ := overcloses
            have step : draft.step (c :: rest) = some (inner, left) := by
              rw [step_eq, alone, Option.bind_some, known]
              rfl
            exact Or.inl ⟨last, stop, further, .step _ _ _ _ _ _ _ _ visible step reads, overcloses⟩
          · exact Or.inr done

end Draft

/-! ## Whole patterns -/

theorem run_wrap (pattern : List Char) :
    Draft.empty.run ((wrap pattern).length + 1) (wrap pattern) =
      Draft.empty.inside.run (pattern.length + 5) (pattern ++ closing) := by
  have spelled : wrap pattern = '^' :: '(' :: '?' :: ':' :: (pattern ++ closing) := by
    simp [wrap, closing]
  have length : (wrap pattern).length + 1 = pattern.length + 5 + 1 + 1 := by
    rw [spelled]
    simp [closing]
  have start : part? false ('^' :: '(' :: '?' :: ':' :: (pattern ++ closing)) =
      some (.item (.assertion .lineStart), '(' :: '?' :: ':' :: (pattern ++ closing)) := rfl
  have group : part? false ('(' :: '?' :: ':' :: (pattern ++ closing)) =
      some (.opening (.group []), pattern ++ closing) := rfl
  rw [length, spelled]
  rw [Draft.run_of_part _ rfl start rfl, Draft.run_of_part _ rfl group rfl]
  rfl

/-- The expression of the compiled text, from that of the pattern. -/
def anchoredExpression (body : Expression) : Expression :=
  .concatenation [.assertion .lineStart, .group false [] body, .assertion .lineEnd]

theorem parse?_eq_some_iff {pattern : List Char} {expression : Expression} :
    parse? pattern = some expression ↔
      ∃ final, Draft.empty.run (pattern.length + 1) pattern = some final ∧
        final.enclosing = [] ∧ final.body.depth ≤ nestingLimit ∧ final.body = expression := by
  unfold parse?
  cases Draft.empty.run (pattern.length + 1) pattern with
  | none => simp
  | some final =>
    by_cases checked : final.enclosing = [] ∧ final.body.depth ≤ nestingLimit
    · simp [guard, checked]
    · have fails :
          ¬ (final.enclosing.isEmpty && decide (final.body.depth ≤ nestingLimit)) = true := by
        simpa using checked
      simp only [guard, Option.bind_eq_bind, Option.bind_some, if_neg fails]
      constructor
      · rintro ⟨⟩
      · rintro ⟨_, ⟨⟩, closed, shallow, -⟩
        exact absurd ⟨closed, shallow⟩ checked

theorem depth_le_anchoredExpression (body : Expression) :
    body.depth ≤ (anchoredExpression body).depth := by
  simp [anchoredExpression, Expression.depth, Expression.depths]
  omega

/-- A pattern that is well formed in its group is well formed alone, or it closes too much. -/
theorem parse?_wrap {pattern : List Char} {expression : Expression}
    (parsed : parse? (wrap pattern) = some expression) :
    Draft.empty.Overcloses pattern ∨
      ∃ body, parse? pattern = some body ∧ expression = anchoredExpression body := by
  obtain ⟨final, run, closed, shallow, rfl⟩ := parse?_eq_some_iff.1 parsed
  rw [run_wrap] at run
  have long := Nat.le_succ pattern.length
  rcases Draft.run_inside run closed long with overcloses | ⟨last, alone, ended, rfl⟩
  · exact Or.inl overcloses
  · have same : last.anchored.body = anchoredExpression last.body := rfl
    rw [same] at shallow
    have fits := Nat.le_trans (depth_le_anchoredExpression last.body) shallow
    exact Or.inr ⟨last.body, parse?_eq_some_iff.2 ⟨last, alone, ended, fits, rfl⟩, same⟩

theorem not_overcloses_of_parse? {pattern : List Char} {expression : Expression}
    (parsed : parse? pattern = some expression) : ¬ Draft.empty.Overcloses pattern := by
  intro overcloses
  obtain ⟨final, run, -⟩ := parse?_eq_some_iff.1 parsed
  rw [Draft.run_of_overcloses overcloses] at run
  cases run

end TreeBundle.Pattern
