import TreeBundle.Proofs.FileSystem.Locate

/-!
# Canonical paths

What a path leads to has a place that is spelled by parts of paths. The canonical path spells it
out, so a path below a canonical root has the same components exactly if its own parts are the
rest of the spelling.
-/
namespace TreeBundle.FileSystem
set_option autoImplicit false

variable {files : FileSystem} {purpose : Purpose} {links : Nat} {place found : Place}
  {node top : Node} {parts : List Bytes}

/-- A part of a path that names an entry. -/
def IsNamePart (part : Bytes) : Prop :=
  NativePath.IsPart part ∧ part ≠ NativePath.up

/-- The names of a place are parts of paths. -/
def IsSpelled (place : Place) : Prop :=
  ∀ name ∈ place, IsNamePart name

/-! ## Places that paths lead to -/

/-- Steps whose names are parts of paths. -/
def SpelledSteps (steps : List Step) : Prop :=
  ∀ name, .name name ∈ steps → IsNamePart name

theorem spelledSteps_stepsOf (path : NativePath) : SpelledSteps (stepsOf path) := by
  intro name member
  unfold stepsOf at member
  rcases List.mem_append.1 member with member | member
  · obtain ⟨piece, inside, step⟩ := List.mem_filterMap.1 member
    unfold stepOf? at step
    split at step
    · cases step
    next nonempty =>
    split at step
    · cases step
    next not_here =>
    split at step
    · cases step
    next not_up =>
    have no_slash : NativePath.slash ∉ piece := by
      intro slash
      have free := Text.separator_free_of_mem_pieces _ _ piece inside NativePath.slash slash
      exact absurd free (by decide)
    cases step
    exact ⟨⟨nonempty, not_here, no_slash⟩, not_up⟩
  · split at member
    · simp at member
    · cases member

theorem IsSpelled.dropLast (spelled : IsSpelled place) : IsSpelled place.dropLast :=
  fun name member => spelled name (List.dropLast_subset _ member)

theorem IsSpelled.concat {name : Bytes} (spelled : IsSpelled place) (part : IsNamePart name) :
    IsSpelled (place ++ [name]) := by
  intro other member
  rcases List.mem_append.1 member with member | member
  · exact spelled other member
  · exact List.mem_singleton.1 member ▸ part

/-- Following spelled steps from a spelled place comes to spelled places only. -/
theorem spelled_of_advance {steps : List Step} (spelled : IsSpelled place)
    (steps_spelled : SpelledSteps steps) :
    (∀ found node, files.advance purpose place steps = .ended (.ok (.found found node)) →
      IsSpelled found) ∧
    (∀ directory target rest, files.advance purpose place steps = .link directory target rest →
      IsSpelled directory ∧ SpelledSteps rest) := by
  induction steps generalizing place with
  | nil =>
    rw [advance]
    cases here : files.at? place with
    | none => simp
    | some node =>
      simp only [Stop.ended.injEq, Except.ok.injEq, Resolved.found.injEq, reduceCtorEq,
        false_implies, implies_true, and_true]
      rintro _ _ ⟨rfl, -⟩
      exact spelled
  | cons step rest ih =>
    have rest_spelled : SpelledSteps rest := fun name member =>
      steps_spelled name (List.mem_cons_of_mem _ member)
    rw [advance]
    cases here : files.at? place with
    | none => simp
    | some node =>
      cases node with
      | directory entries =>
        cases step with
        | stay => exact ih spelled rest_spelled
        | slash => exact ih spelled rest_spelled
        | up => exact ih spelled.dropLast rest_spelled
        | name name =>
          have name_spelled := spelled.concat (steps_spelled name List.mem_cons_self)
          have goes_on := ih name_spelled rest_spelled
          by_cases guarded : purpose = .creation ∧ rest = [.slash]
          · simp [guarded]
          simp only [guarded, if_false]
          cases looked_up : entries.lookup name with
          | none => by_cases last : rest = [] <;> simp [last]
          | some child =>
            cases child with
            | link target =>
              by_cases asked_for : purpose = .itself ∧ rest = []
              · simp only [asked_for, and_self, if_true, Stop.ended.injEq, Except.ok.injEq,
                  Resolved.found.injEq, reduceCtorEq, false_implies, implies_true, and_true]
                rintro _ _ ⟨rfl, -⟩
                exact name_spelled
              · simp only [asked_for, if_false, reduceCtorEq, false_implies, implies_true,
                  true_and, Stop.link.injEq]
                rintro _ _ _ ⟨rfl, -, rfl⟩
                exact ⟨spelled, rest_spelled⟩
            | _ => exact goes_on
      | lockedDirectory entries =>
        cases step with
        | slash => exact ih spelled rest_spelled
        | _ => simp
      | _ => simp

theorem spelled_of_follow {steps : List Step} (spelled : IsSpelled place)
    (steps_spelled : SpelledSteps steps)
    (followed : files.follow purpose links place steps = .ok (.found found node)) :
    IsSpelled found := by
  rw [← follows_iff] at followed
  induction followed with
  | ended stops => exact (spelled_of_advance spelled steps_spelled).1 found node stops
  | linked stops _ ih =>
    obtain ⟨above, rest_spelled⟩ := (spelled_of_advance spelled steps_spelled).2 _ _ _ stops
    refine ih ?_ ?_
    · split
      · exact fun name member => absurd member List.not_mem_nil
      · exact above
    · intro name member
      rcases List.mem_append.1 member with member | member
      · exact spelledSteps_stepsOf _ name member
      · exact rest_spelled name member

theorem spelled_of_locate {path : NativePath}
    (start : path.isAbsolute = true ∨ IsSpelled files.working)
    (located : files.locate purpose path = .ok (found, node)) : IsSpelled found := by
  obtain ⟨-, -, followed⟩ := follow_of_resolve (resolve_of_locate located)
  refine spelled_of_follow ?_ (spelledSteps_stepsOf path) followed
  split
  · exact fun name member => absurd member List.not_mem_nil
  · next relative => exact start.resolve_left relative

/-! ## The path of a place -/

theorem pathOf_eq_join (spelled : IsSpelled place) :
    pathOf place = NativePath.join ⟨[NativePath.slash]⟩ (.ofParts place) := by
  have proper : ∀ part ∈ place, NativePath.IsPart part := fun part member =>
    (spelled part member).1
  have ready : NativePath.IsReady ⟨[NativePath.slash]⟩ := Or.inr rfl
  rw [NativePath.join_of_ready ready (NativePath.isAbsolute_ofParts proper)]
  cases place with
  | nil => rfl
  | cons first others =>
    rw [pathOf.eq_2 _ (List.cons_ne_nil _ _), NativePath.ofParts, Text.joinWith_cons,
      List.flatMap_cons]
    simp only [List.cons_append, List.nil_append]

theorem components_pathOf (spelled : IsSpelled place) :
    (pathOf place).components = .root :: place.map NativePath.componentOf := by
  have proper : ∀ part ∈ place, NativePath.IsPart part := fun part member =>
    (spelled part member).1
  rw [pathOf_eq_join spelled, NativePath.components_join (by simp)
    (NativePath.isAbsolute_ofParts proper), NativePath.bodyComponents_ofParts proper]
  rfl

theorem isAbsolute_pathOf (place : Place) : (pathOf place).isAbsolute = true := by
  cases place with
  | nil => rfl
  | cons name rest => rfl

theorem bytes_pathOf_ne_nil (place : Place) : (pathOf place).bytes ≠ [] := by
  cases place with
  | nil => exact List.cons_ne_nil _ _
  | cons name rest => exact List.cons_ne_nil _ _

/-- A path below a canonical root is the canonical path of a place exactly if its parts follow
those of the root in the spelling of the place. -/
theorem same_pathOf_join_iff {whole above : Place} (whole_spelled : IsSpelled whole)
    (above_spelled : IsSpelled above) (proper : ∀ part ∈ parts, NativePath.IsPart part) :
    (pathOf whole).same ((pathOf above).join (.ofParts parts)) = true ↔ whole = above ++ parts := by
  rw [NativePath.same, beq_iff_eq, components_pathOf whole_spelled,
    NativePath.components_join (bytes_pathOf_ne_nil _) (NativePath.isAbsolute_ofParts proper),
    components_pathOf above_spelled, NativePath.bodyComponents_ofParts proper, List.cons_append,
    List.cons.injEq, ← List.map_append]
  simp only [true_and]
  exact List.map_inj_right fun _ _ => NativePath.componentOf_inj

/-- A canonical path leads to the place that it spells. -/
theorem exists_spelling_of_canonical {root : NativePath}
    (canonical : files.canonicalize root = .ok root) :
    ∃ above top, IsSpelled above ∧ root = pathOf above ∧
      files.locate .target root = .ok (above, top) := by
  unfold canonicalize at canonical
  cases located : files.locate .target root with
  | error problem =>
    rw [located] at canonical
    cases canonical
  | ok both =>
    obtain ⟨place, top⟩ := both
    rw [located] at canonical
    have spells : pathOf place = root := Except.ok.inj canonical
    have absolute : root.isAbsolute = true := spells ▸ isAbsolute_pathOf place
    exact ⟨place, top, spelled_of_locate (Or.inl absolute) located, spells.symm, rfl⟩

/-! ## Paths without links -/

/-- Where no name of a path below a root is that of a link, it leads right where it says. -/
theorem found_of_no_link {root : NativePath} (leads : files.LeadsTo root place links)
    (here : files.at? place = some top) (proper : ∀ part ∈ parts, NativePath.IsPart part)
    (no_up : NativePath.up ∉ parts)
    (no_link : ∀ front back, parts = front ++ back → front ≠ [] →
      ∀ target, top.at? front ≠ some (.link target))
    (located : files.locate .target (root.join (.ofParts parts)) = .ok (found, node)) :
    found = place ++ parts := by
  have zero_free : ∀ part ∈ parts, 0 ∉ part := fun part member =>
    zero_free_of_located member proper located
  have followed := resolve_of_locate located
  rw [leads.resolve_join (by simp) proper zero_free] at followed
  by_cases none : parts = []
  · subst none
    rw [show stepsBelow [] = [.slash] from rfl, follow, advance, here] at followed
    cases top with
    | directory entries =>
      simp only [advance, here, Except.ok.injEq, Resolved.found.injEq] at followed
      rw [List.append_nil, followed.1]
    | lockedDirectory entries =>
      simp only [advance, here, if_true, Except.ok.injEq, Resolved.found.injEq] at followed
      rw [List.append_nil, followed.1]
    | _ => simp at followed
  · rw [stepsBelow_of_no_up none no_up] at followed
    have held : (top.at? parts).isSome = true :=
      isSome_at?_of_follow here (fun front back split front_nonempty _ target =>
        no_link front back split front_nonempty target) followed
    obtain ⟨child, held⟩ := Option.isSome_iff_exists.1 held
    have child_no_link : ∀ target, child ≠ .link target := by
      rintro target rfl
      exact no_link parts [] (List.append_nil _).symm none target held
    have at_end : files.at? (place ++ parts) = some child := by
      rw [at?_append, here]
      exact held
    rw [← List.append_nil (parts.map Step.name), follow_names (by simp) here held child_no_link,
      follow, advance, at_end] at followed
    simp only [Except.ok.injEq, Resolved.found.injEq] at followed
    exact followed.1.symm

end TreeBundle.FileSystem
