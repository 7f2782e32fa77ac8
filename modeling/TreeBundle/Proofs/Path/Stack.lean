import TreeBundle.Proofs.Path.NormalForm

/-!
# What a relative path does to a stack of directories

A path is applied to the directories that one is in, component by component: a name enters a
directory and `..` leaves one. Its normal form does the same from every stack, since it only drops
names that are left again. Two paths that do the same from every stack that is deep enough for them
have the same normal form, so the normal form is the one spelling of what a path does.
-/
namespace TreeBundle.RelPath
set_option autoImplicit false

/-- One component applied to the directories that one is in, the innermost first. -/
def enter (dirs : List Component) (component : Component) : List Component :=
  if component = [] ∨ component = here then dirs
  else if component = up then dirs.tail
  else component :: dirs

/-- The directories that a path leads into. -/
def arrive (dirs : List Component) (path : String) : List Component :=
  (Text.pieces isSeparator path.toList).foldl enter dirs

/-- How often a path leads up. -/
def ups (path : String) : Nat :=
  (Text.pieces isSeparator path.toList).count up

theorem enter_plain {name : Component} (plain : IsPlain name) (dirs : List Component) :
    enter dirs name = name :: dirs := by
  obtain ⟨nonempty, not_here, not_up, -⟩ := plain
  simp [enter, nonempty, not_here, not_up]

theorem enter_up (dirs : List Component) : enter dirs up = dirs.tail :=
  rfl

theorem foldl_enter_plain {names : List Component} (plain : ∀ name ∈ names, IsPlain name)
    (dirs : List Component) : names.foldl enter dirs = names.reverse ++ dirs := by
  induction names generalizing dirs with
  | nil => rfl
  | cons name names ih =>
    rw [List.foldl_cons, enter_plain (plain name List.mem_cons_self),
      ih fun other member => plain other (List.mem_cons_of_mem _ member)]
    simp

theorem foldl_enter_up (count : Nat) (dirs : List Component) :
    (List.replicate count up).foldl enter dirs = dirs.drop count := by
  induction count generalizing dirs with
  | zero => rfl
  | succ count ih => rw [List.replicate_succ, List.foldl_cons, ih, enter_up, List.drop_tail]

/-! ## Normal forms do the same -/

theorem cancels_enter : Cancels enter where
  trivial dirs component trivial := by rw [enter, if_pos trivial]
  undone dirs name plain := by rw [enter_plain plain, enter_up, List.tail_cons]

/-- A path leads where its parts lead, from any stack. -/
theorem arrive_eq (dirs : List Component) (path : String) :
    arrive dirs path = (parts path).foldl enter dirs :=
  cancels_enter.foldl_pieces path dirs

/-- So its normal form leads to where it leads. -/
theorem arrive_normalize (dirs : List Component) (path : String) :
    arrive dirs (normalize path) = arrive dirs path := by
  rw [arrive_eq, arrive_eq, parts_normalize]

/-! ## What is done tells the normal form -/

theorem count_up_push_le (stack : List Component) (component : Component) :
    (push stack component).count up ≤ stack.count up + [component].count up := by
  unfold push
  split
  · exact Nat.le_add_right _ _
  split
  · next is_up =>
    subst is_up
    cases stack with
    | nil => exact Nat.le_refl _
    | cons last rest =>
      simp only
      split
      · simp
      · next not_up => simp [not_up]
  · next not_up => simp [not_up]

theorem count_up_foldl_push_le (stack items : List Component) :
    (items.foldl push stack).count up ≤ stack.count up + items.count up := by
  induction items generalizing stack with
  | nil => exact Nat.le_refl _
  | cons item items ih =>
    have first := count_up_push_le stack item
    have others := ih (push stack item)
    have both : (item :: items).count up = [item].count up + items.count up := by
      rw [← List.count_append, List.singleton_append]
    rw [List.foldl_cons]
    omega

/-- The parts of a path lead up no more often than the path does. -/
theorem count_up_parts_le (path : String) : (parts path).count up ≤ ups path := by
  have counted := count_up_foldl_push_le [] (Text.pieces isSeparator path.toList)
  rw [List.count_nil, Nat.zero_add] at counted
  rw [parts, components, List.count_reverse]
  exact counted

theorem exists_length_lt (names : List Component) :
    ∃ bound, ∀ name ∈ names, name.length < bound := by
  induction names with
  | nil => exact ⟨0, by simp⟩
  | cons name names ih =>
    obtain ⟨bound, shorter⟩ := ih
    refine ⟨name.length + 1 + bound, fun other member => ?_⟩
    rcases List.mem_cons.1 member with rfl | member
    · omega
    · have := shorter other member
      omega

/-- There is a name besides those given. -/
theorem exists_plain_not_mem (names : List Component) : ∃ name, IsPlain name ∧ name ∉ names := by
  obtain ⟨bound, shorter⟩ := exists_length_lt names
  refine ⟨List.replicate (bound + 1) 'a', ⟨by simp, ?_, ?_, fun c inside => ?_⟩, fun member => ?_⟩
  · simp [here, List.replicate_succ]
  · simp [up, List.replicate_succ]
  · rw [List.eq_of_mem_replicate inside]
    rfl
  · have := shorter _ member
    rw [List.length_replicate] at this
    omega

theorem eq_of_append_replicate {front front' : List Component} {fresh : Component}
    {count count' : Nat} (not_inside : fresh ∉ front) (not_inside' : fresh ∉ front')
    (same : front ++ List.replicate count fresh = front' ++ List.replicate count' fresh) :
    front = front' ∧ count = count' := by
  have counts : count = count' := by
    have counted := congrArg (List.count fresh) same
    rwa [List.count_append, List.count_append, List.count_eq_zero_of_not_mem not_inside,
      List.count_eq_zero_of_not_mem not_inside', Nat.zero_add, Nat.zero_add,
      List.count_replicate_self, List.count_replicate_self] at counted
  subst counts
  exact ⟨List.append_cancel_right same, rfl⟩

theorem arrive_replicate {path : String} {count depth : Nat} {names : List Component}
    (split : parts path = List.replicate count up ++ names) (plain : ∀ name ∈ names, IsPlain name)
    (dir : Component) :
    arrive (List.replicate depth dir) path =
      names.reverse ++ List.replicate (depth - count) dir := by
  rw [arrive_eq, split, List.foldl_append, foldl_enter_up, foldl_enter_plain plain,
    List.drop_replicate]

/-- Paths that do the same from every stack that is deep enough for both have the same parts.
A stack of one name that neither path holds tells them apart: what is left of it says how often a
path leads up, and what lies on it are the names. -/
theorem parts_eq_of_arrive {path other : String}
    (same : ∀ dirs : List Component, (∀ name ∈ dirs, IsPlain name) →
      ups path ≤ dirs.length → ups other ≤ dirs.length → arrive dirs path = arrive dirs other) :
    parts path = parts other := by
  obtain ⟨count, names, split, plain⟩ := isNormal_parts path
  obtain ⟨count', names', split', plain'⟩ := isNormal_parts other
  obtain ⟨fresh, fresh_plain, not_inside⟩ := exists_plain_not_mem (names ++ names')
  obtain ⟨not_inside, not_inside'⟩ := not_or.1 (fun either => not_inside (List.mem_append.2 either))
  let depth := max (ups path) (ups other)
  have least : count ≤ depth := by
    have counted := count_up_parts_le path
    rw [split, List.count_append, List.count_replicate_self] at counted
    omega
  have least' : count' ≤ depth := by
    have counted := count_up_parts_le other
    rw [split', List.count_append, List.count_replicate_self] at counted
    omega
  have reached := same (List.replicate depth fresh)
    (fun name member => List.eq_of_mem_replicate member ▸ fresh_plain)
    (by rw [List.length_replicate]; omega) (by rw [List.length_replicate]; omega)
  rw [arrive_replicate split plain, arrive_replicate split' plain'] at reached
  obtain ⟨reversed, rest⟩ := eq_of_append_replicate (by simpa using not_inside)
    (by simpa using not_inside') reached
  have counts : count = count' := by omega
  rw [split, split', counts, List.reverse_inj.1 reversed]

/-- The normal form of a path is `.`, or `..` any number of times and names, joined by `/`. -/
theorem normalize_cases (path : String) :
    normalize path = root ∨
      ∃ count names, List.replicate count up ++ names ≠ [] ∧ (∀ name ∈ names, IsPlain name) ∧
        normalize path = String.ofList (Text.joinWith '/' (List.replicate count up ++ names)) := by
  obtain ⟨count, names, split, plain⟩ := isNormal_parts path
  by_cases none : List.replicate count up ++ names = []
  · refine .inl ?_
    rw [normalize_eq, split, none]
    rfl
  · refine .inr ⟨count, names, none, plain, ?_⟩
    rw [normalize_eq, split, ofParts, ofComponents_of_ne_nil none]

/-- The normal form is canonical. It has one of the two shapes, it is its own normal form and leads
where its path leads, and two paths have the same one exactly if they do the same to every stack of
names that is as deep as either of them leads up. -/
theorem normalize_canonical (path other : String) :
    (normalize path = root ∨
      ∃ count names, List.replicate count up ++ names ≠ [] ∧ (∀ name ∈ names, IsPlain name) ∧
        normalize path = String.ofList (Text.joinWith '/' (List.replicate count up ++ names))) ∧
    normalize (normalize path) = normalize path ∧
    (∀ dirs : List Component, arrive dirs (normalize path) = arrive dirs path) ∧
    (normalize path = normalize other ↔
      ∀ dirs : List Component, (∀ name ∈ dirs, IsPlain name) →
        ups path ≤ dirs.length → ups other ≤ dirs.length →
        arrive dirs path = arrive dirs other) := by
  refine ⟨normalize_cases path, normalize_normalize path, fun dirs => arrive_normalize dirs path,
    fun same dirs _ _ _ => ?_, fun same => ?_⟩
  · rw [← arrive_normalize dirs path, same, arrive_normalize]
  · rw [normalize_eq, normalize_eq, parts_eq_of_arrive same]

end TreeBundle.RelPath
