import TreeBundle.Proofs.FileSystem.Entry

/-!
# How many names a path can follow

Each name that is followed through directories leads to a smaller node, so between two links there
are fewer names than the tree has nodes. Since only so many links are followed on the way, a path
whose names lead somewhere has no more than a fixed number of them in a row.
-/
namespace TreeBundle.FileSystem
set_option autoImplicit false

variable {files : FileSystem} {purpose : Purpose} {links : Nat} {place : Place}
  {names : List Bytes} {front more : List Step}

/-- What following some names among other steps comes to: all of them are passed and they are few,
or a link stops on the way and few of them are passed before it. -/
inductive PassesFew (bound : Nat) (names : List Bytes) (more : List Step) : Stop → Prop where
  | all (stop : Stop) (few : names.length ≤ bound) : PassesFew bound names more stop
  | link (directory : Place) (target : NativePath) (before : List Step) (left : List Bytes)
    (few : names.length ≤ bound + left.length) :
      PassesFew bound names more (.link directory target (before ++ (left.map .name ++ more)))

/-- Whether a stop is no failure. -/
def Stop.LeadsOn (stop : Stop) : Prop :=
  ∀ result, stop = .ended result → ∃ found child, result = .ok (.found found child)

theorem PassesFew.mono {bound larger : Nat} {stop : Stop} (le : bound ≤ larger)
    (passes : PassesFew bound names more stop) : PassesFew larger names more stop := by
  cases passes with
  | all _ few => exact .all _ (by omega)
  | link directory target before left few => exact .link directory target before left (by omega)

theorem PassesFew.cons {bound larger : Nat} {name : Bytes} {stop : Stop} (lt : bound < larger)
    (passes : PassesFew bound names more stop) : PassesFew larger (name :: names) more stop := by
  cases passes with
  | all _ few => exact .all _ (by rw [List.length_cons]; omega)
  | link directory target before left few =>
    exact .link directory target before left (by rw [List.length_cons]; omega)

/-- Each name that is passed leads to a smaller node. -/
theorem passesFew_of_names {node : Node} (not_creation : purpose ≠ .creation)
    (here : files.at? place = some node)
    (leads_on : (files.advance purpose place (names.map .name ++ more)).LeadsOn) :
    PassesFew node.size names more (files.advance purpose place (names.map .name ++ more)) := by
  induction names generalizing place node with
  | nil => exact .all _ (Nat.zero_le _)
  | cons name rest ih =>
    rw [List.map_cons, List.cons_append, advance, here] at leads_on ⊢
    cases node with
    | directory entries =>
      have at_child := at?_child name here
      simp only [not_creation, false_and, if_false] at leads_on ⊢
      cases looked_up : entries.lookup name with
      | none =>
        simp only [looked_up] at leads_on
        obtain ⟨found, child, same⟩ := leads_on _ rfl
        split at same <;> cases same
      | some child =>
        have smaller : child.size < (Node.directory entries).size :=
          Node.size_lt_of_lookup looked_up
        rw [looked_up] at at_child
        cases child with
        | link target =>
          simp only
          split
          · next last =>
            -- The link itself is asked for, so this is the last name.
            have no_rest : rest.map Step.name = [] := (List.append_eq_nil_iff.1 last.2).1
            obtain rfl : rest = [] := List.map_eq_nil_iff.1 no_rest
            refine .all _ ?_
            rw [List.length_singleton]
            omega
          · refine .link place target [] rest ?_
            rw [List.length_cons]
            omega
        | _ =>
          simp only [looked_up] at leads_on
          exact (ih at_child leads_on).cons smaller
    | lockedDirectory entries =>
      obtain ⟨found, child, same⟩ := leads_on _ rfl
      simp at same
    | _ =>
      obtain ⟨found, child, same⟩ := leads_on _ rfl
      cases same

/-- Other steps that come before the names pass none of them. -/
theorem passesFew_of_advance (not_creation : purpose ≠ .creation)
    (leads_on : (files.advance purpose place (front ++ (names.map .name ++ more))).LeadsOn) :
    PassesFew files.root.size names more
      (files.advance purpose place (front ++ (names.map .name ++ more))) := by
  induction front generalizing place with
  | nil =>
    rw [List.nil_append] at leads_on ⊢
    cases here : files.at? place with
    | none =>
      cases names with
      | nil => exact .all _ (Nat.zero_le _)
      | cons name rest =>
        rw [List.map_cons, List.cons_append, advance, here] at leads_on
        obtain ⟨found, child, same⟩ := leads_on _ rfl
        cases same
    | some node =>
      exact (passesFew_of_names not_creation here leads_on).mono (Node.size_le_of_at? here)
  | cons step front ih =>
    rw [List.cons_append] at leads_on ⊢
    cases files.step_cases place step with
    | moves next _ on =>
      rw [on purpose _ not_creation] at leads_on ⊢
      exact ih leads_on
    | link name target _ _ stops =>
      rw [stops purpose _ not_creation]
      split
      · next last =>
        have no_names := (List.append_eq_nil_iff.1 (List.append_eq_nil_iff.1 last.2).2).1
        obtain rfl : names = [] := List.map_eq_nil_iff.1 no_names
        exact .all _ (Nat.zero_le _)
      · exact .link place target front names (Nat.le_add_left _ _)
    | fails nothing =>
      obtain ⟨result, not_found, fails⟩ := nothing (front ++ (names.map .name ++ more))
      rw [fails purpose not_creation] at leads_on
      obtain ⟨found, child, same⟩ := leads_on _ rfl
      exact absurd same (not_found found child)

theorem Follows.leadsOn {found : Place} {child : Node} {steps : List Step}
    (follows : files.Follows purpose (.found found child) links place steps) :
    (files.advance purpose place steps).LeadsOn := by
  intro result ended
  cases follows with
  | ended stops => exact ⟨found, child, Stop.ended.inj (ended.symm.trans stops)⟩
  | linked stops => cases ended.symm.trans stops

/-- A path that leads somewhere has at most so many names in a row, by the links that may be
followed on its way. -/
theorem length_le_of_follow {found : Place} {child : Node} (not_creation : purpose ≠ .creation)
    (followed : files.follow purpose links place (front ++ (names.map .name ++ more)) =
      .ok (.found found child)) : names.length ≤ (links + 1) * files.root.size := by
  rw [← follows_iff] at followed
  generalize whole : front ++ (names.map .name ++ more) = steps at followed
  have leads_on := followed.leadsOn
  -- Each link that is followed takes part of the names with it.
  induction followed generalizing front names with
  | @ended links place steps stops =>
    subst whole
    have passes := passesFew_of_advance not_creation leads_on
    rw [stops] at passes
    rw [Nat.succ_mul]
    cases passes with
    | all _ few => omega
  | @linked links place directory target steps rest stops on ih =>
    subst whole
    have passes := passesFew_of_advance not_creation leads_on
    rw [stops] at passes
    rw [Nat.succ_mul]
    cases passes with
    | all _ few => omega
    | link _ _ before left few =>
      have fewer := ih (List.append_assoc _ _ _) on.leadsOn
      omega

/-- The steps of the path of parts below a root, none of which leads up, are one name for each part,
after those of the root. -/
theorem exists_stepsOf_join (root : NativePath) {parts : List Bytes}
    (proper : ∀ part ∈ parts, NativePath.IsPart part) (no_up : NativePath.up ∉ parts) :
    ∃ front more, stepsOf (root.join (.ofParts parts)) = front ++ (parts.map .name ++ more) := by
  by_cases none : parts = []
  · subst none
    exact ⟨stepsOf (root.join (.ofParts [])), [], (List.append_nil _).symm⟩
  by_cases empty : root.bytes = []
  · have joined : root.join (.ofParts parts) = .ofParts parts := by
      rw [NativePath.join_of_ready (Or.inl empty) (NativePath.isAbsolute_ofParts proper), empty]
      rfl
    have names : parts.map stepOfPart = parts.map .name := by
      rw [← stepsBelow_of_no_up none no_up, stepsBelow, if_neg none]
    rw [joined, stepsOf, ← bodySteps, bodySteps_ofParts proper, names]
    exact ⟨[], _, rfl⟩
  · refine ⟨bodySteps root, [], ?_⟩
    rw [stepsOf_join empty proper, stepsBelow_of_no_up none no_up, List.append_nil]

/-- A path below a root that leads somewhere, without leading up, has a bounded number of parts. -/
theorem length_le_of_locate {root : NativePath} {parts : List Bytes} {found : Place}
    {child : Node} (not_creation : purpose ≠ .creation)
    (proper : ∀ part ∈ parts, NativePath.IsPart part) (no_up : NativePath.up ∉ parts)
    (located : files.locate purpose (root.join (.ofParts parts)) = .ok (found, child)) :
    parts.length ≤ (linkLimit + 1) * files.root.size := by
  obtain ⟨-, -, followed⟩ := follow_of_resolve (resolve_of_locate located)
  obtain ⟨front, more, steps⟩ := exists_stepsOf_join root proper no_up
  rw [steps] at followed
  exact length_le_of_follow not_creation followed

end TreeBundle.FileSystem
