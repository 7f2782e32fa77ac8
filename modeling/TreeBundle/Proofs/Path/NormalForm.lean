import TreeBundle.Path.Relative

/-!
# Normal forms of relative paths

The components of any path are nonempty `..` with names after them. Such components make up a path
that has them again, so a normal form is a fixed point, two normal forms are equal if their
components are, and a name below a normal form is one component more.
-/
namespace TreeBundle.RelPath
set_option autoImplicit false

/-- A component that stands for a name: neither empty, nor `.` or `..`, and without separators. -/
def IsPlain (component : Component) : Prop :=
  component ≠ [] ∧ component ≠ here ∧ component ≠ up ∧ ∀ c ∈ component, isSeparator c = false

/-- Components in normal form: names, after any number of `..`. -/
def IsNormal (parts : List Component) : Prop :=
  ∃ count names, parts = List.replicate count up ++ names ∧ ∀ name ∈ names, IsPlain name

theorem isNormal_of_plain {names : List Component} (plain : ∀ name ∈ names, IsPlain name) :
    IsNormal names :=
  ⟨0, names, rfl, plain⟩

theorem push_plain {component : Component} (plain : IsPlain component) (stack : List Component) :
    push stack component = component :: stack := by
  obtain ⟨nonempty, not_here, not_up, -⟩ := plain
  simp [push, nonempty, not_here, not_up]

theorem foldl_push_plain {names : List Component} (plain : ∀ name ∈ names, IsPlain name)
    (stack : List Component) : names.foldl push stack = names.reverse ++ stack := by
  induction names generalizing stack with
  | nil => rfl
  | cons name names ih =>
    rw [List.foldl_cons, push_plain (plain name List.mem_cons_self),
      ih fun other member => plain other (List.mem_cons_of_mem _ member)]
    simp

theorem foldl_push_up (count : Nat) :
    (List.replicate count up).foldl push [] = List.replicate count up := by
  induction count with
  | zero => rfl
  | succ count ih =>
    rw [List.replicate_succ', List.foldl_append, ih, ← List.replicate_succ', List.replicate_succ]
    cases count with
    | zero => rfl
    | succ count => simp [push, List.replicate_succ, up, here]

/-- Components in normal form stay as they are. -/
theorem foldl_push_normal {parts : List Component} (normal : IsNormal parts) :
    parts.foldl push [] = parts.reverse := by
  obtain ⟨count, names, rfl, plain⟩ := normal
  rw [List.foldl_append, foldl_push_up, foldl_push_plain plain, List.reverse_append,
    List.reverse_replicate]

/-- What is kept of the names above a component: the stack stays in normal form. -/
theorem isNormal_reverse_push {stack : List Component} {component : Component}
    (normal : IsNormal stack.reverse) (free : ∀ c ∈ component, isSeparator c = false) :
    IsNormal (push stack component).reverse := by
  obtain ⟨count, names, split, plain⟩ := normal
  have stack_eq : stack = names.reverse ++ List.replicate count up := by
    rw [← List.reverse_reverse stack, split, List.reverse_append, List.reverse_replicate]
  unfold push
  split
  · exact ⟨count, names, split, plain⟩
  next trivial =>
  obtain ⟨nonempty, not_here⟩ := not_or.1 trivial
  split
  next is_up =>
    subst is_up
    rcases List.eq_nil_or_concat names with rfl | ⟨names, last, rfl⟩
    · refine ⟨count + 1, [], ?_, by simp⟩
      cases count with
      | zero => simp [stack_eq]
      | succ count => simp [stack_eq, List.replicate_succ, ← List.replicate_succ']
    · have not_up : last ≠ up := (plain last (by simp)).2.2.1
      refine ⟨count, names, ?_, fun name member => plain name (by simp [member])⟩
      simp [stack_eq, not_up]
  next not_up =>
    refine ⟨count, names ++ [component], by simp [split], fun name member => ?_⟩
    rcases List.mem_append.1 member with member | member
    · exact plain name member
    · rw [List.mem_singleton.1 member]
      exact ⟨nonempty, not_here, not_up, free⟩

theorem isNormal_foldl_push {stack : List Component} {items : List Component}
    (normal : IsNormal stack.reverse)
    (free : ∀ item ∈ items, ∀ c ∈ item, isSeparator c = false) :
    IsNormal (items.foldl push stack).reverse := by
  induction items generalizing stack with
  | nil => exact normal
  | cons item items ih =>
    exact ih (isNormal_reverse_push normal (free item List.mem_cons_self))
      fun other member => free other (List.mem_cons_of_mem _ member)

/-- The components of any text are in normal form. -/
theorem isNormal_components (text : List Char) : IsNormal (components text) :=
  isNormal_foldl_push ⟨0, [], rfl, by simp⟩
    (Text.separator_free_of_mem_pieces isSeparator text)

theorem separator_free_of_normal {parts : List Component} (normal : IsNormal parts) :
    ∀ part ∈ parts, ∀ c ∈ part, isSeparator c = false := by
  obtain ⟨count, names, rfl, plain⟩ := normal
  intro part member
  rcases List.mem_append.1 member with member | member
  · rw [List.eq_of_mem_replicate member]
    simp [up, isSeparator]
  · exact (plain part member).2.2.2

theorem ne_nil_of_normal {parts : List Component} (normal : IsNormal parts) :
    ∀ part ∈ parts, part ≠ [] ∧ part ≠ here := by
  obtain ⟨count, names, rfl, plain⟩ := normal
  intro part member
  rcases List.mem_append.1 member with member | member
  · rw [List.eq_of_mem_replicate member]
    decide
  · exact ⟨(plain part member).1, (plain part member).2.1⟩

theorem pieces_ofComponents {isSeparator : Char → Bool} {parts : List Component}
    (nonempty : parts ≠ []) (slash : isSeparator '/' = true)
    (free : ∀ part ∈ parts, ∀ c ∈ part, isSeparator c = false) :
    Text.pieces isSeparator (ofComponents parts) = parts := by
  cases parts with
  | nil => exact absurd rfl nonempty
  | cons first others => exact Text.pieces_joinWith slash nonempty free

theorem ofComponents_of_ne_nil {parts : List Component} (nonempty : parts ≠ []) :
    ofComponents parts = Text.joinWith '/' parts := by
  cases parts with
  | nil => exact absurd rfl nonempty
  | cons first others => rfl

/-- A path in normal form has the components it was made of. -/
theorem components_ofComponents {parts : List Component} (normal : IsNormal parts) :
    components (ofComponents parts) = parts := by
  by_cases none : parts = []
  · subst none
    rfl
  · rw [components, pieces_ofComponents none rfl (separator_free_of_normal normal),
      foldl_push_normal normal, List.reverse_reverse]

/-- The components of a path below another one: those of the second part are applied one by one
to those of the first. -/
theorem components_append_slash (base rest : List Char) :
    components (base ++ '/' :: rest) =
      ((Text.pieces isSeparator rest).foldl push (components base).reverse).reverse := by
  rw [components, Text.pieces_append_separator base rest rfl, List.foldl_append, components,
    List.reverse_reverse]

theorem components_child {parts : List Component} {name : Component} (normal : IsNormal parts)
    (plain : IsPlain name) :
    components (ofComponents parts ++ '/' :: name) = parts ++ [name] := by
  rw [components_append_slash, components_ofComponents normal, Text.pieces_of_free plain.2.2.2,
    List.foldl_cons, List.foldl_nil, push_plain plain, List.reverse_cons, List.reverse_reverse]

theorem isNormal_child {parts : List Component} {name : Component} (normal : IsNormal parts)
    (plain : IsPlain name) : IsNormal (parts ++ [name]) := by
  rw [← components_child normal plain]
  exact isNormal_components _

/-- The relative path that components make up, `.` if there are none. -/
def ofParts (parts : List Component) : String :=
  String.ofList (ofComponents parts)

/-- The components of a relative path. -/
def parts (path : String) : List Component :=
  components path.toList

theorem isNormal_parts (path : String) : IsNormal (parts path) :=
  isNormal_components path.toList

theorem normalize_eq (path : String) : normalize path = ofParts (parts path) :=
  rfl

theorem parts_ofParts {items : List Component} (normal : IsNormal items) :
    parts (ofParts items) = items := by
  rw [parts, ofParts, String.toList_ofList, components_ofComponents normal]

theorem parts_normalize (path : String) : parts (normalize path) = parts path :=
  parts_ofParts (isNormal_parts path)

theorem normalize_ofParts {items : List Component} (normal : IsNormal items) :
    normalize (ofParts items) = ofParts items := by
  rw [normalize_eq, parts_ofParts normal]

/-- A normal form is its own normal form. -/
theorem normalize_normalize (path : String) : normalize (normalize path) = normalize path :=
  normalize_ofParts (isNormal_parts path)

theorem ofParts_inj {left right : List Component} (left_normal : IsNormal left)
    (right_normal : IsNormal right) (same : ofParts left = ofParts right) : left = right := by
  rw [← parts_ofParts left_normal, same, parts_ofParts right_normal]

theorem isNormal_of_append {front back : List Component} (normal : IsNormal (front ++ back)) :
    IsNormal front := by
  obtain ⟨count, names, split, plain⟩ := normal
  rcases List.append_eq_append_iff.1 split with ⟨more, ups, -⟩ | ⟨first, rfl, rfl⟩
  · obtain ⟨-, front_eq, -⟩ := List.replicate_eq_append_iff.1 ups
    exact ⟨front.length, [], by rw [List.append_nil]; exact front_eq, by simp⟩
  · exact ⟨count, first, rfl, fun name member => plain name (List.mem_append_left _ member)⟩

/-- A component that comes next in a normal form is put on the stack. -/
theorem push_reverse_of_normal {front : List Component} {name : Component}
    (normal : IsNormal (front ++ [name])) : push front.reverse name = name :: front.reverse := by
  have whole := foldl_push_normal normal
  rwa [List.foldl_append, foldl_push_normal (isNormal_of_append normal), List.foldl_cons,
    List.foldl_nil, List.reverse_append, List.reverse_singleton, List.singleton_append] at whole

theorem join_ofParts_of_normal {front : List Component} {name : Component}
    (normal : IsNormal (front ++ [name])) :
    join (ofParts front) (String.ofList name) = ofParts (front ++ [name]) := by
  have chars : (ofParts front ++ "/" ++ String.ofList name).toList =
      ofComponents front ++ '/' :: name := by
    simp [ofParts]
  have free := separator_free_of_normal normal name (by simp)
  rw [join, normalize_eq, parts, chars, components_append_slash,
    components_ofComponents (isNormal_of_append normal), Text.pieces_of_free free,
    List.foldl_cons, List.foldl_nil, push_reverse_of_normal normal, List.reverse_cons,
    List.reverse_reverse]

theorem join_ofParts {items : List Component} {name : String} (normal : IsNormal items)
    (plain : IsPlain name.toList) :
    join (ofParts items) name = ofParts (items ++ [name.toList]) := by
  have joined := join_ofParts_of_normal (isNormal_child normal plain)
  rwa [String.ofList_toList] at joined

/-! ## What components do

Where trivial components do nothing and `..` takes back the name before it, a path does what its
normal form does, which has only dropped names that are taken back.
-/

structure Cancels {σ : Type} (act : σ → Component → σ) : Prop where
  trivial : ∀ state component, component = [] ∨ component = here → act state component = state
  undone : ∀ state name, IsPlain name → act (act state name) up = state

section Cancels

variable {σ : Type} {act : σ → Component → σ}

/-- A component does behind others what it does to them on the stack. -/
theorem Cancels.act_foldl_reverse (cancels : Cancels act) {stack : List Component}
    (normal : IsNormal stack.reverse) (component : Component) (state : σ) :
    act (stack.reverse.foldl act state) component =
      (push stack component).reverse.foldl act state := by
  unfold push
  split
  · next trivial => exact cancels.trivial _ _ trivial
  split
  · next is_up =>
    subst is_up
    cases stack with
    | nil => rfl
    | cons last rest =>
      simp only
      split
      · simp
      · next not_up =>
        -- The name that came last is taken back.
        obtain ⟨count, names, split, plain⟩ := normal
        have inside : last ∈ List.replicate count up ++ names := by simp [← split]
        have last_plain : IsPlain last :=
          plain last ((List.mem_append.1 inside).resolve_left fun among =>
            not_up (List.eq_of_mem_replicate among))
        rw [List.reverse_cons, List.foldl_append, List.foldl_cons, List.foldl_nil]
        exact cancels.undone _ last last_plain
  · simp

theorem Cancels.foldl_foldl_reverse (cancels : Cancels act) {stack items : List Component}
    (normal : IsNormal stack.reverse)
    (free : ∀ item ∈ items, ∀ c ∈ item, isSeparator c = false) (state : σ) :
    items.foldl act (stack.reverse.foldl act state) =
      (items.foldl push stack).reverse.foldl act state := by
  induction items generalizing stack with
  | nil => rfl
  | cons item items ih =>
    rw [List.foldl_cons, List.foldl_cons, cancels.act_foldl_reverse normal item state]
    exact ih (isNormal_reverse_push normal (free item List.mem_cons_self))
      fun other member => free other (List.mem_cons_of_mem _ member)

/-- A path does what its parts do. -/
theorem Cancels.foldl_pieces (cancels : Cancels act) (path : String) (state : σ) :
    (Text.pieces isSeparator path.toList).foldl act state = (parts path).foldl act state := by
  have empty : IsNormal ([] : List Component).reverse := ⟨0, [], rfl, by simp⟩
  have free := Text.separator_free_of_mem_pieces isSeparator path.toList
  exact cancels.foldl_foldl_reverse empty free state

end Cancels

theorem cancels_push : Cancels push where
  trivial stack component trivial := by
    unfold push
    rw [if_pos trivial]
  undone stack name plain := by
    have nontrivial : ¬(up = [] ∨ up = here) := by decide
    rw [push_plain plain]
    simp only [push, if_neg nontrivial, if_neg plain.2.2.1, if_true]

/-! ## Names that lead down

A name may hold separators, and then stands for several components. As long as it does not lead
up, they come after those of the path that it is joined to.
-/

theorem up_mem_push {stack : List Component} (component : Component) (inside : up ∈ stack) :
    up ∈ push stack component := by
  unfold push
  split
  · exact inside
  split
  · cases stack with
    | nil => exact absurd inside List.not_mem_nil
    | cons last rest =>
      simp only
      split
      · exact List.mem_cons_self
      · next not_up => exact (List.mem_cons.1 inside).resolve_left fun same => not_up same.symm
  · exact List.mem_cons_of_mem _ inside

/-- Once a path leads up beyond where it starts, no component takes that back. -/
theorem up_mem_foldl_push {stack : List Component} (items : List Component)
    (inside : up ∈ stack) : up ∈ items.foldl push stack := by
  induction items generalizing stack with
  | nil => exact inside
  | cons item items ih => exact ih (up_mem_push item inside)

/-- Components that do not lead up leave alone what is below them on the stack. -/
theorem push_append {front : List Component} {component : Component} (below : List Component)
    (no_up : up ∉ push front component) :
    push (front ++ below) component = push front component ++ below := by
  unfold push at no_up ⊢
  split at no_up
  · next trivial => rw [if_pos trivial, if_pos trivial]
  next not_trivial =>
  rw [if_neg not_trivial, if_neg not_trivial]
  split at no_up
  · next is_up =>
    rw [if_pos is_up, if_pos is_up]
    cases front with
    | nil => exact absurd List.mem_cons_self no_up
    | cons last rest =>
      simp only at no_up
      split at no_up
      · exact absurd List.mem_cons_self no_up
      · next not_up => simp only [List.cons_append, if_neg not_up]
  · next not_up => rw [if_neg not_up, if_neg not_up, List.cons_append]

theorem foldl_push_append {items front : List Component} (below : List Component)
    (no_up : up ∉ items.foldl push front) :
    items.foldl push (front ++ below) = items.foldl push front ++ below := by
  induction items generalizing front with
  | nil => rfl
  | cons item items ih =>
    have step_no_up : up ∉ push front item := fun inside => no_up (up_mem_foldl_push items inside)
    rw [List.foldl_cons, push_append below step_no_up]
    exact ih no_up

theorem parts_join_of_no_up {dir name : String} (no_up : up ∉ parts name) :
    parts (join dir name) = parts dir ++ parts name := by
  have chars : (dir ++ "/" ++ name).toList = dir.toList ++ '/' :: name.toList := by simp
  have name_no_up : up ∉ (Text.pieces isSeparator name.toList).foldl push [] := fun inside =>
    no_up (List.mem_reverse.2 inside)
  have applied := foldl_push_append (components dir.toList).reverse name_no_up
  rw [List.nil_append] at applied
  rw [join, parts_normalize, parts, chars, components_append_slash, applied,
    List.reverse_append, List.reverse_reverse]
  rfl

/-- Where a name stands for nothing, joining it leaves a path as it is. -/
theorem join_of_parts_eq_nil {dir name : String} (normal : normalize dir = dir)
    (nothing : parts name = []) : join dir name = dir := by
  have no_up : up ∉ parts name := by simp [nothing]
  have same : parts (join dir name) = parts dir := by
    rw [parts_join_of_no_up no_up, nothing, List.append_nil]
  have fixed : normalize (join dir name) = join dir name := normalize_normalize _
  rw [← fixed, normalize_eq, same, ← normalize_eq, normal]

theorem parts_of_plain {name : String} (plain : IsPlain name.toList) :
    parts name = [name.toList] := by
  have single : IsNormal [name.toList] := isNormal_of_plain (by simpa using plain)
  have spelled : ofParts [name.toList] = name := String.ofList_toList
  rw [← spelled, parts_ofParts single, spelled]

/-- The parts of a directory and then the name. -/
theorem parts_join_of_plain {dir name : String} (plain : IsPlain name.toList) :
    parts (join dir name) = parts dir ++ [name.toList] := by
  have single := parts_of_plain plain
  have no_up : up ∉ parts name := by
    rw [single, List.mem_singleton]
    exact plain.2.2.1.symm
  rw [parts_join_of_no_up no_up, single]

theorem pieces_toList_ofParts {items : List Component} (normal : IsNormal items)
    (nonempty : items ≠ []) : Text.pieces (· == '/') (ofParts items).toList = items := by
  rw [ofParts, String.toList_ofList]
  refine pieces_ofComponents nonempty rfl fun part member c inside => ?_
  have free := separator_free_of_normal normal part member c inside
  rw [isSeparator, Bool.or_eq_false_iff] at free
  exact free.1

/-- A path in normal form is cut before its last component. -/
theorem splitLast_ofParts {items : List Component} {last : Component}
    (normal : IsNormal (items ++ [last])) :
    splitLast (ofParts (items ++ [last])) = (ofParts items, String.ofList last) := by
  rw [splitLast, pieces_toList_ofParts normal (by simp), List.reverse_append]
  rcases List.eq_nil_or_concat items with rfl | ⟨front, parent, rfl⟩
  · rfl
  · have parent_path : ofParts (front.concat parent) =
        String.ofList (Text.joinWith '/' (front ++ [parent])) := by
      rw [List.concat_eq_append, ofParts, ofComponents_of_ne_nil (by simp)]
    rw [parent_path]
    simp

/-! ## The directory of a path -/

/-- The components of the directory that a path lies in. -/
def dirsAbove (path : String) : List Component :=
  (parts path).dropLast

theorem isNormal_dirsAbove (path : String) : IsNormal (dirsAbove path) := by
  have normal := isNormal_parts path
  rcases List.eq_nil_or_concat (parts path) with none | ⟨front, last, split⟩
  · rw [dirsAbove, none]
    exact ⟨0, [], rfl, by simp⟩
  · rw [List.concat_eq_append] at split
    rw [dirsAbove, split, List.dropLast_concat]
    exact isNormal_of_append (split ▸ normal)

/-- The normal form is cut at its slashes; that of the root has none, and one piece. -/
theorem dropLast_pieces_normalize (path : String) :
    (Text.pieces (· == '/') (normalize path).toList).dropLast = dirsAbove path := by
  rw [normalize_eq, dirsAbove]
  by_cases none : parts path = []
  · rw [none]
    rfl
  · rw [pieces_toList_ofParts (isNormal_parts path) none]

end TreeBundle.RelPath
