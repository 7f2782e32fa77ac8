import TreeBundle.FileSystem.Resolve
import TreeBundle.Proofs.FileSystem.Tree
import TreeBundle.Proofs.Path.Native
import TreeBundle.Proofs.Text.Utf8

/-!
# Following paths below a directory

Where a path leads to a directory, a path below it is followed on from there, with the links that
are left. On the way through directories that are no links nothing is used up, so what lies below
in the tree is found under its own names.
-/
namespace TreeBundle.FileSystem
set_option autoImplicit false

variable {files : FileSystem}

/-! ## Steps of joined paths -/

/-- The steps of a path without the one for a slash at its end. -/
def bodySteps (path : NativePath) : List Step :=
  path.pieces.filterMap stepOf?

/-- The step that a part of a path stands for. -/
def stepOfPart (part : Bytes) : Step :=
  if part = NativePath.up then .up else .name part

/-- The steps of a path below another one. An empty path below leaves a slash at the end. -/
def stepsBelow (parts : List Bytes) : List Step :=
  if parts = [] then [.slash] else parts.map stepOfPart

theorem stepsBelow_ne_nil (parts : List Bytes) : stepsBelow parts ≠ [] := by
  unfold stepsBelow
  split
  · simp
  · simpa

theorem stepsBelow_of_no_up {parts : List Bytes} (nonempty : parts ≠ [])
    (no_up : NativePath.up ∉ parts) : stepsBelow parts = parts.map .name := by
  rw [stepsBelow, if_neg nonempty]
  refine List.map_congr_left fun part member => ?_
  have not_up : part ≠ NativePath.up := fun same => no_up (same ▸ member)
  exact if_neg not_up

theorem stepOf?_part {part : Bytes} (proper : NativePath.IsPart part) :
    stepOf? part = some (stepOfPart part) := by
  rw [stepOf?, if_neg proper.1, if_neg proper.2.1, stepOfPart]
  split <;> rfl

theorem bodySteps_ofParts {parts : List Bytes}
    (proper : ∀ part ∈ parts, NativePath.IsPart part) :
    bodySteps (.ofParts parts) = parts.map stepOfPart := by
  by_cases none : parts = []
  · subst none
    rfl
  · rw [bodySteps, NativePath.pieces_ofParts none proper]
    clear none
    induction parts with
    | nil => rfl
    | cons part parts ih =>
      rw [List.filterMap_cons_some (stepOf?_part (proper part List.mem_cons_self)),
        ih fun other member => proper other (List.mem_cons_of_mem _ member), List.map_cons]

theorem bodySteps_join {base path : NativePath} (nonempty : base.bytes ≠ [])
    (relative : path.isAbsolute = false) :
    bodySteps (base.join path) = bodySteps base ++ bodySteps path := by
  obtain ⟨front, -, base_pieces, joined⟩ := NativePath.exists_pieces_join nonempty
  have body : front.filterMap stepOf? = bodySteps base := by
    rw [bodySteps]
    rcases base_pieces with same | same
    · rw [same]
    · simp [same, List.filterMap_append, stepOf?]
  rw [bodySteps, joined path relative, List.filterMap_append, body]
  rfl

/-- The steps of a path below a base are those of the base and then its own. -/
theorem stepsOf_join {base : NativePath} {parts : List Bytes} (nonempty : base.bytes ≠ [])
    (proper : ∀ part ∈ parts, NativePath.IsPart part) :
    stepsOf (base.join (.ofParts parts)) = bodySteps base ++ stepsBelow parts := by
  have relative := NativePath.isAbsolute_ofParts proper
  have body := bodySteps_join nonempty relative
  rw [bodySteps, bodySteps_ofParts proper] at body
  rw [stepsOf, body, List.append_assoc]
  congr 1
  by_cases none : parts = []
  · subst none
    have ends : (base.join (.ofParts [])).bytes.getLast? = some NativePath.slash := by
      by_cases ready : base.IsReady
      · rw [NativePath.join_of_ready ready relative]
        simpa [NativePath.ofParts, Text.joinWith] using ready.resolve_left nonempty
      · rw [NativePath.join_of_not_ready ready relative]
        simp [NativePath.ofParts, Text.joinWith]
    rw [if_pos ends]
    rfl
  · have bytes_nonempty := NativePath.bytes_ofParts_ne_nil none proper
    have not_ready := NativePath.not_isReady_ofParts none proper
    have ends : (base.join (.ofParts parts)).bytes.getLast? ≠ some NativePath.slash := by
      intro slash
      refine not_ready ?_
      by_cases ready : base.IsReady
      · rw [NativePath.join_of_ready ready relative] at slash
        exact (NativePath.isReady_append base.bytes bytes_nonempty).1 (Or.inr slash)
      · rw [NativePath.join_of_not_ready ready relative, ← List.singleton_append,
          ← List.append_assoc] at slash
        exact (NativePath.isReady_append _ bytes_nonempty).1 (Or.inr slash)
    rw [if_neg ends, stepsBelow, if_neg none, List.append_nil]

/-! ## One step -/

theorem at?_child {place : Place} {entries : NodeEntries} (name : Bytes)
    (here : files.at? place = some (.directory entries)) :
    files.at? (place ++ [name]) = entries.lookup name := by
  rw [at?_append, here, Option.bind_some, Node.at?_directory_cons]
  exact Option.bind_fun_some _

/-- What the last step says about the place and the node that are found. -/
def EndsAt : Step → Place → Node → Prop
  | .name name, place, _ => ∃ directory, place = directory ++ [name]
  | _, _, node => node.isDirectory = true

theorem directory_of_dropLast {place : Place} {entries : NodeEntries} {node : Node}
    (here : files.at? place = some (.directory entries))
    (above : files.at? place.dropLast = some node) : node.isDirectory = true := by
  rcases List.eq_nil_or_concat place with rfl | ⟨front, name, rfl⟩
  · rw [List.dropLast_nil, here] at above
    rw [← Option.some.inj above]
    rfl
  · rw [List.concat_eq_append] at here above
    rw [List.dropLast_concat] at above
    rw [at?_append, above, Option.bind_some] at here
    obtain ⟨found, -, is_directory, -⟩ := Node.directory_of_at?_cons here
    rw [is_directory]
    rfl

/-- The ways in which a step can go, unless something is to be created: on to a place, to a link,
or nowhere. -/
inductive StepCase (files : FileSystem) (place : Place) (step : Step) : Prop where
  | moves (next : Place) (ends : ∀ node, files.at? next = some node → EndsAt step next node)
    (on : ∀ purpose rest, purpose ≠ .creation →
      files.advance purpose place (step :: rest) = files.advance purpose next rest)
  | link (name : Bytes) (target : NativePath) (named : step = .name name)
    (here : files.at? (place ++ [name]) = some (.link target))
    (stops : ∀ purpose rest, purpose ≠ .creation →
      files.advance purpose place (step :: rest) =
        if purpose = .itself ∧ rest = [] then .ended (.ok (.found (place ++ [name]) (.link target)))
        else .link place target rest)
  | fails (nothing : ∀ rest, ∃ result, (∀ found node, result ≠ .ok (.found found node)) ∧
      ∀ purpose, purpose ≠ .creation →
        files.advance purpose place (step :: rest) = .ended result)

theorem step_cases (files : FileSystem) (place : Place) (step : Step) :
    files.StepCase place step := by
  cases here : files.at? place with
  | none =>
    exact .fails fun rest => ⟨.error .notFound, by simp, fun purpose _ => by rw [advance, here]⟩
  | some node =>
    cases node with
    | directory entries =>
      have stays (found : Node) (at_place : files.at? place = some found) :
          found.isDirectory = true := by
        rw [Option.some.inj (at_place.symm.trans here)]
        rfl
      cases step with
      | stay => exact .moves place stays fun purpose rest _ => by rw [advance, here]
      | slash => exact .moves place stays fun purpose rest _ => by rw [advance, here]
      | up =>
        exact .moves place.dropLast (fun node above => directory_of_dropLast here above)
          fun purpose rest _ => by rw [advance, here]
      | name name =>
        have at_child := at?_child name here
        cases looked_up : entries.lookup name with
        | none =>
          refine .fails fun rest => ⟨if rest = [] then .ok (.vacant place name) else
            .error .notFound, ?_, fun purpose not_creation => ?_⟩
          · split <;> simp
          · rw [advance, here]
            simp only [not_creation, false_and, if_false, looked_up]
        | some child =>
          cases child with
          | link target =>
            refine .link name target rfl (at_child.trans looked_up) ?_
            intro purpose rest not_creation
            rw [advance, here]
            simp only [not_creation, false_and, if_false, looked_up]
          | _ =>
            refine .moves (place ++ [name]) (fun _ _ => ⟨place, rfl⟩) ?_
            intro purpose rest not_creation
            rw [advance, here]
            simp only [not_creation, false_and, if_false, looked_up]
    | lockedDirectory entries =>
      cases step with
      | slash =>
        refine .moves place (fun found at_place => ?_) fun purpose rest _ => ?_
        · rw [Option.some.inj (at_place.symm.trans here)]
          rfl
        · rw [advance, here]
          exact if_pos rfl
      | _ =>
        refine .fails fun rest => ⟨.error .permissionDenied, by simp, fun purpose _ => ?_⟩
        rw [advance, here]
        exact if_neg (by simp)
    | _ =>
      exact .fails fun rest =>
        ⟨.error .notADirectory, by simp, fun purpose _ => by rw [advance, here]⟩

/-! ## Lookups that succeed -/

/-- Steps resolve to what they end at before any link, or to what they resolve to from a link on. -/
inductive Follows (files : FileSystem) (purpose : Purpose) (resolved : Resolved) :
    Nat → Place → List Step → Prop where
  | ended {links : Nat} {place : Place} {steps : List Step}
    (stops : files.advance purpose place steps = .ended (.ok resolved)) :
    Follows files purpose resolved links place steps
  | linked {links : Nat} {place directory : Place} {target : NativePath} {steps rest : List Step}
    (stops : files.advance purpose place steps = .link directory target rest)
    (on : Follows files purpose resolved links (if target.isAbsolute then [] else directory)
      (stepsOf target ++ rest)) :
    Follows files purpose resolved (links + 1) place steps

theorem follow_of_link {purpose : Purpose} {links : Nat} {place directory : Place}
    {target : NativePath} {steps rest : List Step}
    (stops : files.advance purpose place steps = .link directory target rest) :
    files.follow purpose (links + 1) place steps =
      files.follow purpose links (if target.isAbsolute then [] else directory)
        (stepsOf target ++ rest) := by
  rw [follow, stops]

theorem follows_iff {purpose : Purpose} {resolved : Resolved} {links : Nat} {place : Place}
    {steps : List Step} :
    files.Follows purpose resolved links place steps ↔
      files.follow purpose links place steps = .ok resolved := by
  constructor
  · intro follows
    induction follows with
    | ended stops => rw [follow, stops]
    | linked stops _ ih => rw [follow_of_link stops, ih]
  · intro followed
    induction links generalizing place steps with
    | zero =>
      rw [follow] at followed
      split at followed
      · next stops => exact .ended (followed ▸ stops)
      · cases followed
    | succ links ih =>
      rw [follow] at followed
      split at followed
      · next stops => exact .ended (followed ▸ stops)
      · next stops => exact .linked stops (ih followed)

/-! ## Following some steps and then more -/

/-- Steps that end at a node are followed on from its place. -/
theorem advance_append_of_found {purpose : Purpose} {place found : Place} {node : Node}
    {steps more : List Step} (not_creation : purpose ≠ .creation)
    (ended : files.advance .target place steps = .ended (.ok (.found found node))) :
    files.advance purpose place (steps ++ more) = files.advance purpose found more := by
  induction steps generalizing place with
  | nil =>
    rw [advance] at ended
    split at ended
    · cases ended
      rfl
    · cases ended
  | cons step steps ih =>
    rw [List.cons_append]
    cases files.step_cases place step with
    | moves next _ on =>
      rw [on .target _ (by simp)] at ended
      rw [on purpose _ not_creation]
      exact ih ended
    | link name target _ _ stops =>
      rw [stops .target _ (by simp), if_neg (by simp)] at ended
      cases ended
    | fails nothing =>
      obtain ⟨result, not_found, fails⟩ := nothing steps
      rw [fails .target (by simp)] at ended
      exact absurd (Stop.ended.inj ended) (not_found found node)

/-- Steps that come to a link have more to follow after it. -/
theorem advance_append_of_link {purpose : Purpose} {place directory : Place} {target : NativePath}
    {steps rest more : List Step} (not_creation : purpose ≠ .creation) (nonempty : more ≠ [])
    (stopped : files.advance .target place steps = .link directory target rest) :
    files.advance purpose place (steps ++ more) = .link directory target (rest ++ more) := by
  induction steps generalizing place with
  | nil =>
    rw [advance] at stopped
    split at stopped <;> cases stopped
  | cons step steps ih =>
    rw [List.cons_append]
    cases files.step_cases place step with
    | moves next _ on =>
      rw [on .target _ (by simp)] at stopped
      rw [on purpose _ not_creation]
      exact ih stopped
    | link name target _ _ stops =>
      rw [stops .target _ (by simp), if_neg (by simp)] at stopped
      cases stopped
      rw [stops purpose _ not_creation, if_neg (by simp [nonempty])]
    | fails nothing =>
      obtain ⟨result, -, fails⟩ := nothing steps
      rw [fails .target (by simp)] at stopped
      cases stopped

/-- Where steps lead to a node, more steps are followed from its place with the links left. -/
theorem exists_follow_append {links : Nat} {place found : Place} {node : Node}
    {steps : List Step}
    (followed : files.follow .target links place steps = .ok (.found found node)) :
    ∃ left, ∀ purpose more, purpose ≠ .creation → more ≠ [] →
      files.follow purpose links place (steps ++ more) = files.follow purpose left found more := by
  rw [← follows_iff] at followed
  induction followed with
  | @ended links place steps stops =>
    refine ⟨links, fun purpose more not_creation nonempty => ?_⟩
    rw [follow, follow, advance_append_of_found not_creation stops]
  | linked stops _ ih =>
    obtain ⟨left, on⟩ := ih
    refine ⟨left, fun purpose more not_creation nonempty => ?_⟩
    rw [follow_of_link (advance_append_of_link not_creation nonempty stops), ← List.append_assoc,
      on purpose more not_creation nonempty]

/-! ## A slash at the end -/

theorem advance_of_slash_found {place found : Place} {node : Node} {steps : List Step}
    (ended : files.advance .target place (steps ++ [.slash]) = .ended (.ok (.found found node))) :
    files.advance .target place steps = .ended (.ok (.found found node)) := by
  induction steps generalizing place with
  | nil =>
    rw [List.nil_append, advance] at ended
    rw [advance]
    cases here : files.at? place with
    | none => simp [here] at ended
    | some node =>
      cases node with
      | directory entries => simpa [here, advance] using ended
      | lockedDirectory entries => simpa [here, advance] using ended
      | _ => simp [here] at ended
  | cons step steps ih =>
    rw [List.cons_append] at ended
    cases files.step_cases place step with
    | moves next _ on =>
      rw [on .target _ (by simp)] at ended ⊢
      exact ih ended
    | link name target _ _ stops =>
      rw [stops .target _ (by simp), if_neg (by simp)] at ended
      cases ended
    | fails nothing =>
      obtain ⟨result, not_found, fails⟩ := nothing (steps ++ [.slash])
      rw [fails .target (by simp)] at ended
      exact absurd (Stop.ended.inj ended) (not_found found node)

theorem advance_of_slash_link {place directory : Place} {target : NativePath}
    {steps rest : List Step}
    (stopped : files.advance .target place (steps ++ [.slash]) = .link directory target rest) :
    ∃ front, rest = front ++ [.slash] ∧
      files.advance .target place steps = .link directory target front := by
  induction steps generalizing place with
  | nil =>
    rw [List.nil_append, advance] at stopped
    cases here : files.at? place with
    | none => simp [here] at stopped
    | some node => cases node <;> simp [here, advance] at stopped
  | cons step steps ih =>
    rw [List.cons_append] at stopped
    cases files.step_cases place step with
    | moves next _ on =>
      rw [on .target _ (by simp)] at stopped ⊢
      exact ih stopped
    | link name target _ _ stops =>
      rw [stops .target _ (by simp), if_neg (by simp)] at stopped
      cases stopped
      exact ⟨steps, rfl, by rw [stops .target _ (by simp), if_neg (by simp)]⟩
    | fails nothing =>
      obtain ⟨result, -, fails⟩ := nothing (steps ++ [.slash])
      rw [fails .target (by simp)] at stopped
      cases stopped

/-- What a path with a slash at its end leads to, it leads to without the slash. -/
theorem follow_of_slash {links : Nat} {place found : Place} {node : Node} {steps : List Step}
    (followed : files.follow .target links place (steps ++ [.slash]) = .ok (.found found node)) :
    files.follow .target links place steps = .ok (.found found node) := by
  rw [← follows_iff] at followed ⊢
  generalize slashed : steps ++ [.slash] = all at followed
  induction followed generalizing steps with
  | ended stops =>
    subst slashed
    exact .ended (advance_of_slash_found stops)
  | linked stops _ ih =>
    subst slashed
    obtain ⟨front, rfl, stops_before⟩ := advance_of_slash_link stops
    exact .linked stops_before (ih (List.append_assoc _ _ _))

end TreeBundle.FileSystem
