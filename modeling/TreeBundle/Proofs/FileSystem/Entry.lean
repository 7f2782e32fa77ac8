import TreeBundle.FileSystem.Listing
import TreeBundle.Proofs.FileSystem.Locate

/-!
# Entries that paths lead to

Links left alone, a path leads to the entry of a directory that its last name is the name of. A
path that does not end in a name leads to a directory. So paths with different last names never
lead to one entry.
-/
namespace TreeBundle.FileSystem
set_option autoImplicit false

variable {files : FileSystem}

/-- Whether two paths lead to the same entry of the same directory, links left alone. -/
def SameEntry (files : FileSystem) (left right : NativePath) : Prop :=
  ∃ place node, files.locate .itself left = .ok (place, node) ∧
    files.locate .itself right = .ok (place, node)

/-! ## Links that need not be left alone -/

/-- Where no link is left alone at the end, it makes no difference to follow it. -/
theorem advance_target_of_itself {place : Place} {steps : List Step}
    (no_link : ∀ found target,
      files.advance .itself place steps ≠ .ended (.ok (.found found (.link target)))) :
    files.advance .target place steps = files.advance .itself place steps := by
  induction steps generalizing place with
  | nil => rw [advance, advance]
  | cons step steps ih =>
    cases files.step_cases place step with
    | moves next _ on =>
      simp only [on .itself steps (by simp)] at no_link
      rw [on .target steps (by simp), on .itself steps (by simp)]
      exact ih no_link
    | link name target _ _ stops =>
      have more : steps ≠ [] := by
        rintro rfl
        refine no_link (place ++ [name]) target ?_
        rw [stops .itself [] (by simp), if_pos ⟨rfl, rfl⟩]
      rw [stops .target steps (by simp), stops .itself steps (by simp), if_neg (by simp),
        if_neg (by simp [more])]
    | fails nothing =>
      obtain ⟨result, -, fails⟩ := nothing steps
      rw [fails .target (by simp), fails .itself (by simp)]

/-- Where a path does not end in a link, it makes no difference to follow a link at its end. -/
theorem follow_target_eq_itself {links : Nat} {place : Place} {steps : List Step}
    (no_link : ∀ found target,
      files.follow .itself links place steps ≠ .ok (.found found (.link target))) :
    files.follow .target links place steps = files.follow .itself links place steps := by
  induction links generalizing place steps with
  | zero =>
    rw [follow, follow, advance_target_of_itself]
    intro found target ended
    refine no_link found target ?_
    rw [follow, ended]
  | succ links ih =>
    have same : files.advance .target place steps = files.advance .itself place steps := by
      apply advance_target_of_itself
      intro found target ended
      refine no_link found target ?_
      rw [follow, ended]
    cases stopped : files.advance .itself place steps with
    | ended result => rw [follow, follow, same, stopped]
    | link directory target rest =>
      rw [follow, follow, same, stopped]
      apply ih
      intro found last followed
      refine no_link found last ?_
      rw [follow, stopped]
      exact followed

theorem resolve_target_eq_itself {path : NativePath}
    (no_link : ∀ found target, files.resolve .itself path ≠ .ok (.found found (.link target))) :
    files.resolve .target path = files.resolve .itself path := by
  unfold resolve at no_link ⊢
  split
  · rfl
  · next zero_free =>
    split
    · rfl
    · next nonempty =>
      simp only [if_neg zero_free, if_neg nonempty] at no_link
      exact follow_target_eq_itself no_link

theorem locate_target_of_itself {path : NativePath} {place : Place} {node : Node}
    (no_link : ∀ target, node ≠ .link target)
    (located : files.locate .itself path = .ok (place, node)) :
    files.locate .target path = .ok (place, node) := by
  have resolved := resolve_of_locate located
  rw [locate, resolve_target_eq_itself, resolved]
  intro found target same
  rw [resolved] at same
  cases same
  exact no_link target rfl

/-- A path that has entries to list leads to a directory. -/
theorem locate_of_entries {path : NativePath} {entries : NodeEntries} (nonempty : entries ≠ [])
    (found : files.directoryEntries path = .ok entries) :
    ∃ place, files.locate .target path = .ok (place, .directory entries) := by
  rw [directoryEntries] at found
  split at found
  · cases found
  · next place _ located =>
    cases found
    exact ⟨place, locate_target_of_itself (by simp) located⟩
  · cases found
  · split at found
    · cases found
    · next node =>
      cases found
      exact locate_of_node node
    · cases found
    · cases found
      exact absurd rfl nonempty
  · cases found
    exact absurd rfl nonempty

theorem exists_leadsTo_of_entries {path : NativePath} {entries : NodeEntries}
    (nonempty : entries ≠ []) (found : files.directoryEntries path = .ok entries) :
    ∃ place links, files.LeadsTo path place links ∧
      files.at? place = some (.directory entries) := by
  obtain ⟨place, located⟩ := locate_of_entries nonempty found
  obtain ⟨links, leads⟩ := exists_leadsTo located
  exact ⟨place, links, leads, at?_of_locate (by simp) located⟩

/-- A path that ends in a slash leads to nothing but a directory. -/
theorem isDirectory_of_join_nothing {root : NativePath} {place : Place} {node : Node}
    (located : files.locate .target (root.join (.ofParts [])) = .ok (place, node)) :
    node.isDirectory = true ∧ files.locate .target root = .ok (place, node) := by
  have no_parts : ∀ part ∈ ([] : List Bytes), NativePath.IsPart part := by simp
  obtain ⟨zero_free, joined, followed⟩ := follow_of_resolve (resolve_of_locate located)
  have nonempty : root.bytes ≠ [] := by
    intro empty
    rw [NativePath.join_of_ready (Or.inl empty) rfl, empty] at joined
    exact joined rfl
  rw [stepsOf_join nonempty no_parts, NativePath.isAbsolute_join nonempty rfl] at followed
  have without : files.follow .target linkLimit (if root.isAbsolute then [] else files.working)
      (bodySteps root) = .ok (.found place node) := follow_of_slash followed
  have root_free : root.bytes.contains 0 = false := by
    by_cases ready : root.IsReady
    · rw [NativePath.join_of_ready ready rfl] at zero_free
      simpa [NativePath.ofParts, Text.joinWith] using zero_free
    · rw [NativePath.join_of_not_ready ready rfl] at zero_free
      simp only [List.contains_append, Bool.or_eq_false_iff] at zero_free
      exact zero_free.1
  have root_followed : files.follow .target linkLimit
      (if root.isAbsolute then [] else files.working) (stepsOf root) = .ok (.found place node) := by
    by_cases slash : root.bytes.getLast? = some NativePath.slash
    · rw [stepsOf, if_pos slash]
      exact followed
    · rw [stepsOf, if_neg slash, List.append_nil]
      exact without
  have root_located : files.locate .target root = .ok (place, node) := by
    rw [locate, resolve_of_follow root_free nonempty, root_followed]
  obtain ⟨links, leads⟩ := exists_leadsTo root_located
  have here := at?_of_locate (by simp) root_located
  have slash_followed := resolve_of_locate located
  rw [leads.resolve_join (by simp) no_parts (by simp), stepsBelow, if_pos rfl, follow, advance,
    here] at slash_followed
  refine ⟨?_, root_located⟩
  cases node with
  | directory entries => rfl
  | lockedDirectory entries => rfl
  | _ => cases slash_followed

/-! ## The last step -/

theorem endsAt_of_advance {place found : Place} {node : Node} {steps : List Step} {last : Step}
    (ended : files.advance .itself place (steps ++ [last]) = .ended (.ok (.found found node))) :
    EndsAt last found node := by
  induction steps generalizing place with
  | nil =>
    rw [List.nil_append] at ended
    cases files.step_cases place last with
    | moves next ends on =>
      rw [on .itself [] (by simp), advance] at ended
      split at ended
      · next here =>
        cases ended
        exact ends node here
      · cases ended
    | link name target named _ stops =>
      rw [stops .itself [] (by simp), if_pos ⟨rfl, rfl⟩] at ended
      cases ended
      rw [named]
      exact ⟨place, rfl⟩
    | fails nothing =>
      obtain ⟨result, not_found, fails⟩ := nothing []
      rw [fails .itself (by simp)] at ended
      exact absurd (Stop.ended.inj ended) (not_found found node)
  | cons step steps ih =>
    rw [List.cons_append] at ended
    cases files.step_cases place step with
    | moves next _ on => exact ih ((on .itself _ (by simp)).symm.trans ended)
    | link name target _ _ stops =>
      rw [stops .itself _ (by simp), if_neg (by simp)] at ended
      cases ended
    | fails nothing =>
      obtain ⟨result, not_found, fails⟩ := nothing (steps ++ [last])
      rw [fails .itself (by simp)] at ended
      exact absurd (Stop.ended.inj ended) (not_found found node)

/-- With a last step still to come, a link is followed before it. -/
theorem exists_rest_of_advance {place directory : Place} {target : NativePath}
    {steps rest : List Step} {last : Step}
    (stopped : files.advance .itself place (steps ++ [last]) = .link directory target rest) :
    ∃ front, rest = front ++ [last] := by
  induction steps generalizing place with
  | nil =>
    rw [List.nil_append] at stopped
    cases files.step_cases place last with
    | moves next _ on =>
      rw [on .itself [] (by simp), advance] at stopped
      split at stopped <;> cases stopped
    | link name target _ _ stops =>
      rw [stops .itself [] (by simp), if_pos ⟨rfl, rfl⟩] at stopped
      cases stopped
    | fails nothing =>
      obtain ⟨result, -, fails⟩ := nothing []
      rw [fails .itself (by simp)] at stopped
      cases stopped
  | cons step steps ih =>
    rw [List.cons_append] at stopped
    cases files.step_cases place step with
    | moves next _ on => exact ih ((on .itself _ (by simp)).symm.trans stopped)
    | link name target _ _ stops =>
      rw [stops .itself _ (by simp), if_neg (by simp)] at stopped
      cases stopped
      exact ⟨steps, rfl⟩
    | fails nothing =>
      obtain ⟨result, -, fails⟩ := nothing (steps ++ [last])
      rw [fails .itself (by simp)] at stopped
      cases stopped

/-- What is found at the end is named by the last step, however many links are followed before. -/
theorem endsAt_of_follow {links : Nat} {place found : Place} {node : Node} {steps : List Step}
    {last : Step}
    (followed : files.follow .itself links place (steps ++ [last]) = .ok (.found found node)) :
    EndsAt last found node := by
  rw [← follows_iff] at followed
  generalize whole : steps ++ [last] = all at followed
  induction followed generalizing steps with
  | ended stops =>
    subst whole
    exact endsAt_of_advance stops
  | linked stops _ ih =>
    subst whole
    obtain ⟨front, rfl⟩ := exists_rest_of_advance stops
    exact ih (List.append_assoc _ _ _)

end TreeBundle.FileSystem
