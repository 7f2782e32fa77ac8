import TreeBundle.Proofs.FileSystem.Shape

/-!
# Created files

A file is created where its path leads, through links. From then on the path leads to it, and every
other path leads where it led before.
-/
namespace TreeBundle.FileSystem
set_option autoImplicit false

variable {files larger : FileSystem} {links : Nat} {place found directory : Place} {node new : Node}
  {steps rest : List Step} {name : Bytes} {target : NativePath}

/-! ## Something is there -/

/-- What is found for a file to be created is found anyway. -/
theorem advance_target_of_creation :
    (∀ found node, files.advance .creation place steps = .ended (.ok (.found found node)) →
      files.advance .target place steps = .ended (.ok (.found found node))) ∧
    (∀ directory target rest,
      files.advance .creation place steps = .link directory target rest →
      files.advance .target place steps = .link directory target rest) := by
  induction steps generalizing place with
  | nil =>
    rw [advance, advance]
    exact ⟨fun _ _ ended => ended, fun _ _ _ stopped => stopped⟩
  | cons step rest ih =>
    rw [advance, advance]
    cases here : files.at? place with
    | none => simp
    | some node =>
      cases node with
      | directory entries =>
        cases step with
        | stay => exact ih
        | slash => exact ih
        | up => exact ih
        | name name =>
          simp only [true_and, reduceCtorEq, false_and, if_false]
          by_cases slash : rest = [.slash]
          · simp [slash]
          · rw [if_neg slash]
            cases looked_up : entries.lookup name with
            | none => exact ⟨fun _ _ ended => ended, fun _ _ _ stopped => stopped⟩
            | some child =>
              cases child with
              | link target => exact ⟨fun _ _ ended => ended, fun _ _ _ stopped => stopped⟩
              | _ => exact ih
      | lockedDirectory entries =>
        cases step with
        | slash => exact ih
        | _ => exact ⟨fun _ _ ended => ended, fun _ _ _ stopped => stopped⟩
      | _ => exact ⟨fun _ _ ended => ended, fun _ _ _ stopped => stopped⟩

theorem follow_target_of_creation
    (followed : files.follow .creation links place steps = .ok (.found found node)) :
    files.follow .target links place steps = .ok (.found found node) := by
  rw [← follows_iff] at followed ⊢
  induction followed with
  | ended stops => exact .ended (advance_target_of_creation.1 found node stops)
  | linked stops _ ih => exact .linked (advance_target_of_creation.2 _ _ _ stops) ih

theorem locate_of_creation {path : NativePath}
    (resolved : files.resolve .creation path = .ok (.found place node)) :
    files.locate .target path = .ok (place, node) := by
  obtain ⟨zero_free, nonempty, followed⟩ := follow_of_resolve resolved
  rw [locate, resolve_of_follow zero_free nonempty, follow_target_of_creation followed]

/-! ## Nothing is there -/

/-- A name is vacant in the directory where the steps end. Once something that is no link has the
name, the steps lead to it, whatever they are followed for. -/
theorem vacant_of_advance (new : Node) (purpose : Purpose)
    (ended : files.advance .creation place steps = .ended (.ok (.vacant directory name))) :
    (∃ entries, files.at? directory = some (.directory entries) ∧ entries.lookup name = none) ∧
    (∀ larger, files.Extends larger → larger.at? (directory ++ [name]) = some new →
      (∀ target, new ≠ .link target) →
      larger.advance purpose place steps = .ended (.ok (.found (directory ++ [name]) new))) := by
  induction steps generalizing place with
  | nil =>
    rw [advance] at ended
    split at ended <;> cases ended
  | cons step rest ih =>
    rw [advance] at ended
    cases here : files.at? place with
    | none => simp [here] at ended
    | some node =>
      rw [here] at ended
      cases node with
      | directory entries =>
        -- In a larger tree a step goes on to the same place, unless it is the last one.
        have goes_on (next : Place)
            (ended : files.advance .creation next rest = .ended (.ok (.vacant directory name)))
            (same_way : ∀ larger entries', files.Extends larger →
              larger.at? place = some (.directory entries') →
              larger.advance purpose place (step :: rest) = larger.advance purpose next rest) :
            (∃ entries, files.at? directory = some (.directory entries) ∧
              entries.lookup name = none) ∧
            (∀ larger, files.Extends larger → larger.at? (directory ++ [name]) = some new →
              (∀ target, new ≠ .link target) →
              larger.advance purpose place (step :: rest) =
                .ended (.ok (.found (directory ++ [name]) new))) := by
          obtain ⟨vacant, leads⟩ := ih ended
          refine ⟨vacant, fun larger ext held no_link => ?_⟩
          obtain ⟨entries', here', -⟩ := ext.exists_directory here
          rw [same_way larger entries' ext here']
          exact leads larger ext held no_link
        cases step with
        | stay => exact goes_on place ended fun larger entries' _ here' => by rw [advance, here']
        | slash => exact goes_on place ended fun larger entries' _ here' => by rw [advance, here']
        | up =>
          exact goes_on place.dropLast ended fun larger entries' _ here' => by rw [advance, here']
        | name other =>
          simp only [true_and] at ended
          by_cases slash : rest = [.slash]
          · simp [slash] at ended
          rw [if_neg slash] at ended
          cases looked_up : entries.lookup other with
          | none =>
            by_cases last : rest = []
            · simp only [looked_up, last, if_true, Stop.ended.injEq, Except.ok.injEq,
                Resolved.vacant.injEq] at ended
              obtain ⟨rfl, rfl⟩ := ended
              refine ⟨⟨entries, here, looked_up⟩, fun larger ext held no_link => ?_⟩
              obtain ⟨entries', here', -⟩ := ext.exists_directory here
              have looked_up' := (at?_child other here').symm.trans held
              subst last
              rw [advance_name (by simp) here' looked_up' no_link, advance, held]
            · simp [looked_up, last] at ended
          | some child =>
            cases child with
            | link target => simp [looked_up] at ended
            | _ =>
              simp only [looked_up] at ended
              refine goes_on (place ++ [other]) ended fun larger entries' ext here' => ?_
              have at_child := (at?_child other here).trans looked_up
              obtain ⟨child', at_child', shaped⟩ := ext.exists_at? at_child
              have looked_up' := (at?_child other here').symm.trans at_child'
              have no_link : ∀ target, child' ≠ .link target := by
                rintro target rfl
                cases shaped
              exact advance_name (fun _ => slash) here' looked_up' no_link
      | lockedDirectory entries =>
        cases step with
        | slash =>
          obtain ⟨vacant, leads⟩ := ih ended
          refine ⟨vacant, fun larger ext held no_link => ?_⟩
          obtain ⟨node', here', shaped⟩ := ext.exists_at? here
          obtain ⟨entries', rfl⟩ := Node.lockedDirectory_of_shape shaped
          rw [advance, here']
          exact leads larger ext held no_link
        | _ => cases ended
      | _ => cases ended

theorem vacant_of_follow (new : Node) (purpose : Purpose) (follows_links : purpose ≠ .itself)
    (followed : files.follow .creation links place steps = .ok (.vacant directory name)) :
    (∃ entries, files.at? directory = some (.directory entries) ∧ entries.lookup name = none) ∧
    (∀ larger, files.Extends larger → larger.at? (directory ++ [name]) = some new →
      (∀ target, new ≠ .link target) →
      larger.follow purpose links place steps = .ok (.found (directory ++ [name]) new)) := by
  simp only [← follows_iff] at followed ⊢
  induction followed with
  | ended stops =>
    obtain ⟨vacant, leads⟩ := vacant_of_advance new purpose stops
    exact ⟨vacant, fun larger ext held no_link => .ended (leads larger ext held no_link)⟩
  | @linked _ place above target steps rest stops _ ih =>
    obtain ⟨vacant, leads⟩ := ih
    refine ⟨vacant, fun larger ext held no_link => .linked ?_ (leads larger ext held no_link)⟩
    have stops_too : files.advance purpose place steps = .link above target rest := by
      cases purpose with
      | itself => exact absurd rfl follows_links
      | target => exact advance_target_of_creation.2 above target rest stops
      | creation => exact stops
    exact ext.advance.2 above target rest stops_too

theorem vacant_of_resolve {path : NativePath} (new : Node) (purpose : Purpose)
    (follows_links : purpose ≠ .itself)
    (resolved : files.resolve .creation path = .ok (.vacant directory name)) :
    (∃ entries, files.at? directory = some (.directory entries) ∧ entries.lookup name = none) ∧
    (∀ larger, files.Extends larger → larger.at? (directory ++ [name]) = some new →
      (∀ target, new ≠ .link target) →
      larger.resolve purpose path = .ok (.found (directory ++ [name]) new)) := by
  obtain ⟨zero_free, nonempty, followed⟩ := follow_of_resolve resolved
  obtain ⟨vacant, leads⟩ := vacant_of_follow new purpose follows_links followed
  refine ⟨vacant, fun larger ext held no_link => ?_⟩
  rw [resolve_of_follow zero_free nonempty, ext.working, leads larger ext held no_link]

/-! ## Creation -/

theorem extends_of_vacant {entries : NodeEntries}
    (here : files.at? directory = some (.directory entries))
    (vacant : entries.lookup name = none) :
    files.Extends (files.alterAt (directory ++ [name]) fun _ => some new) :=
  ⟨rfl, fun _ _ held => Node.shape_alterAt_concat here vacant held⟩

/-- What creating a file does: it empties the file that is there, or makes one where nothing is.
Anything else is left alone. -/
theorem create_cases {path : NativePath} (created : files.create path = .ok (larger, place)) :
    (∃ contents, files.resolve .creation path = .ok (.found place (.file contents)) ∧
      files.at? place = some (.file contents) ∧
      larger = files.alterAt place fun _ => some (.file [])) ∨
    (∃ node, files.resolve .creation path = .ok (.found place node) ∧
      files.at? place = some node ∧ (∀ contents, node ≠ .file contents) ∧ larger = files) ∨
    (∃ directory name entries, files.resolve .creation path = .ok (.vacant directory name) ∧
      files.at? directory = some (.directory entries) ∧ entries.lookup name = none ∧
      place = directory ++ [name] ∧ larger = files.alterAt place fun _ => some (.file [])) := by
  unfold create at created
  split at created
  · cases created
  · cases created
  · cases created
  · cases created
  · next found contents resolved =>
    cases created
    have held := at?_of_locate (by simp) (locate_of_creation resolved)
    exact Or.inl ⟨contents, resolved, held, rfl⟩
  · next found node _ _ _ no_file resolved =>
    cases created
    have held := at?_of_locate (by simp) (locate_of_creation resolved)
    exact Or.inr (Or.inl ⟨node, resolved, held, no_file, rfl⟩)
  · next directory name resolved =>
    cases created
    obtain ⟨⟨entries, here, vacant⟩, -⟩ :=
      vacant_of_resolve (.file []) .creation (by simp) resolved
    exact Or.inr (Or.inr ⟨directory, name, entries, resolved, here, vacant, rfl, rfl⟩)

/-- A created file is where its path leads from then on, and nothing else has moved. -/
theorem create_spec {path : NativePath} (created : files.create path = .ok (larger, place)) :
    files.Extends larger ∧ ∃ node, larger.locate .target path = .ok (place, node) := by
  rcases create_cases created with ⟨contents, resolved, held, rfl⟩ |
    ⟨node, resolved, -, -, rfl⟩ | ⟨directory, name, entries, resolved, here, vacant, rfl, rfl⟩
  · have same : files.SameShape (files.alterAt place fun _ => some (.file [])) :=
      sameShape_alterAt held rfl (by simp [Node.shape])
    obtain ⟨node, located', -⟩ := same.extends.locate (by simp) (locate_of_creation resolved)
    exact ⟨same.extends, node, located'⟩
  · exact ⟨(SameShape.refl _).extends, node, locate_of_creation resolved⟩
  · have ext : files.Extends (files.alterAt (directory ++ [name]) fun _ => some (.file [])) :=
      extends_of_vacant here vacant
    have found := (vacant_of_resolve (.file []) .target (by simp) resolved).2 _ ext
      (Node.at?_alterAt_concat name here) (by simp)
    refine ⟨ext, .file [], ?_⟩
    rw [locate, found]

end TreeBundle.FileSystem
