import TreeBundle.Path.Native
import TreeBundle.Proofs.Path.NormalForm
import TreeBundle.Proofs.Text.Utf8

/-!
# Paths below a root

A path below a root is the root's path with more pieces after it. The components of the two add
up, so paths below one root are the same exactly if their parts below it are.
-/
namespace TreeBundle.NativePath
set_option autoImplicit false

/-! ## Joining -/

/-- A path that another one is written onto without a slash between them. -/
def IsReady (path : NativePath) : Prop :=
  path.bytes = [] ∨ path.bytes.getLast? = some slash

theorem join_of_ready {base path : NativePath} (ready : base.IsReady)
    (relative : path.isAbsolute = false) : base.join path = ⟨base.bytes ++ path.bytes⟩ := by
  rw [join, if_neg (by simp [relative])]
  exact if_pos ready

theorem join_of_not_ready {base path : NativePath} (not_ready : ¬base.IsReady)
    (relative : path.isAbsolute = false) :
    base.join path = ⟨base.bytes ++ slash :: path.bytes⟩ := by
  rw [join, if_neg (by simp [relative])]
  exact if_neg not_ready

theorem isReady_append (before : Bytes) {after : Bytes} (nonempty : after ≠ []) :
    IsReady ⟨before ++ after⟩ ↔ IsReady ⟨after⟩ := by
  obtain ⟨c, rest, rfl⟩ := List.exists_cons_of_ne_nil nonempty
  simp [IsReady, List.getLast?_append, List.getLast?_cons]

theorem bytes_ne_nil_of_absolute {path : NativePath} (absolute : path.isAbsolute = true) :
    path.bytes ≠ [] := by
  intro empty
  simp [isAbsolute, empty] at absolute

theorem isAbsolute_join {base path : NativePath} (nonempty : base.bytes ≠ [])
    (relative : path.isAbsolute = false) : (base.join path).isAbsolute = base.isAbsolute := by
  obtain ⟨c, rest, bytes⟩ := List.exists_cons_of_ne_nil nonempty
  by_cases ready : base.IsReady
  · simp [join_of_ready ready relative, isAbsolute, bytes]
  · simp [join_of_not_ready ready relative, isAbsolute, bytes]

theorem isAbsolute_join_relative {left right : NativePath} (left_relative : left.isAbsolute = false)
    (right_relative : right.isAbsolute = false) : (left.join right).isAbsolute = false := by
  by_cases empty : left.bytes = []
  · rw [join_of_ready (Or.inl empty) right_relative, empty]
    exact right_relative
  · rw [isAbsolute_join empty right_relative, left_relative]

/-- Joining is associative as long as nothing absolute comes in. -/
theorem join_join (base : NativePath) {left right : NativePath}
    (left_relative : left.isAbsolute = false) (right_relative : right.isAbsolute = false) :
    (base.join left).join right = base.join (left.join right) := by
  have both := isAbsolute_join_relative left_relative right_relative
  by_cases empty : left.bytes = []
  · have skipped : left.join right = right := by
      rw [join_of_ready (Or.inl empty) right_relative, empty, List.nil_append]
    rw [skipped]
    by_cases ready : base.IsReady
    · rw [join_of_ready ready left_relative, empty, List.append_nil]
    · have now_ready : IsReady ⟨base.bytes ++ [slash]⟩ := Or.inr (by simp)
      rw [join_of_not_ready ready left_relative, empty, join_of_ready now_ready right_relative,
        join_of_not_ready ready right_relative, List.append_assoc, List.singleton_append]
  · by_cases base_ready : base.IsReady <;> by_cases left_ready : left.IsReady
    · have ready := (isReady_append base.bytes empty).2 left_ready
      rw [join_of_ready base_ready left_relative, join_of_ready ready right_relative,
        join_of_ready base_ready both, join_of_ready left_ready right_relative, List.append_assoc]
    · have not_ready := mt (isReady_append base.bytes empty).1 left_ready
      rw [join_of_ready base_ready left_relative, join_of_not_ready not_ready right_relative,
        join_of_ready base_ready both, join_of_not_ready left_ready right_relative,
        List.append_assoc]
    · have ready := (isReady_append (base.bytes ++ [slash]) empty).2 left_ready
      rw [join_of_not_ready base_ready left_relative, ← List.singleton_append,
        ← List.append_assoc, join_of_ready ready right_relative,
        join_of_not_ready base_ready both, join_of_ready left_ready right_relative]
      simp
    · have not_ready := mt (isReady_append (base.bytes ++ [slash]) empty).1 left_ready
      rw [join_of_not_ready base_ready left_relative, ← List.singleton_append,
        ← List.append_assoc, join_of_not_ready not_ready right_relative,
        join_of_not_ready base_ready both, join_of_not_ready left_ready right_relative]
      simp

/-! ## Parts -/

/-- A piece of a path that stands for a step: neither empty nor `.`, and without slashes. -/
def IsPart (part : Bytes) : Prop :=
  part ≠ [] ∧ part ≠ here ∧ slash ∉ part

def ofParts (parts : List Bytes) : NativePath :=
  ⟨Text.joinWith slash parts⟩

theorem slash_free_of_part {part : Bytes} (proper : IsPart part) :
    ∀ c ∈ part, (c == slash) = false := by
  intro c inside
  rw [beq_eq_false_iff_ne]
  rintro rfl
  exact proper.2.2 inside

theorem isPart_encode {item : RelPath.Component} (nonempty : item ≠ [])
    (not_here : item ≠ RelPath.here) (free : '/' ∉ item) : IsPart (Utf8.encode item) := by
  refine ⟨fun empty => ?_, fun same => ?_, fun inside => ?_⟩
  · exact nonempty (Utf8.encode_inj empty)
  · exact not_here (Utf8.encode_inj same)
  · exact free ((Utf8.mem_encode_iff_of_ascii (by decide) item).1 inside)

theorem isPart_of_plain {name : List Char} (plain : RelPath.IsPlain name) :
    IsPart (Utf8.encode name) :=
  isPart_encode plain.1 plain.2.1 fun inside => absurd (plain.2.2.2 '/' inside) (by decide)

theorem isPart_of_normal {items : List RelPath.Component} (normal : RelPath.IsNormal items) :
    ∀ part ∈ items.map Utf8.encode, IsPart part := by
  intro part member
  obtain ⟨item, found, rfl⟩ := List.mem_map.1 member
  obtain ⟨nonempty, not_here⟩ := RelPath.ne_nil_of_normal normal item found
  refine isPart_encode nonempty not_here fun inside => ?_
  have free := RelPath.separator_free_of_normal normal item found '/' inside
  exact absurd free (by decide)

theorem isAbsolute_part {part : Bytes} (proper : IsPart part) :
    isAbsolute ⟨part⟩ = false := by
  obtain ⟨c, rest, rfl⟩ := List.exists_cons_of_ne_nil proper.1
  have different : c ≠ slash := fun same => proper.2.2 (same ▸ List.mem_cons_self)
  simpa [isAbsolute] using different

theorem not_isReady_part {part : Bytes} (proper : IsPart part) : ¬IsReady ⟨part⟩ := by
  rintro (empty | slash)
  · exact proper.1 empty
  · exact proper.2.2 (List.mem_of_getLast? slash)

theorem pieces_ofParts {parts : List Bytes} (nonempty : parts ≠ [])
    (proper : ∀ part ∈ parts, IsPart part) : (ofParts parts).pieces = parts :=
  Text.pieces_joinWith rfl nonempty fun part member => slash_free_of_part (proper part member)

theorem isAbsolute_ofParts {parts : List Bytes} (proper : ∀ part ∈ parts, IsPart part) :
    (ofParts parts).isAbsolute = false := by
  cases parts with
  | nil => rfl
  | cons first others =>
    have relative := isAbsolute_part (proper first List.mem_cons_self)
    obtain ⟨c, rest, rfl⟩ := List.exists_cons_of_ne_nil (proper first List.mem_cons_self).1
    rw [ofParts, Text.joinWith_cons]
    exact relative

theorem bytes_ofParts_ne_nil {parts : List Bytes} (nonempty : parts ≠ [])
    (proper : ∀ part ∈ parts, IsPart part) : (ofParts parts).bytes ≠ [] := by
  intro empty
  have pieces := pieces_ofParts nonempty proper
  rw [NativePath.pieces, empty] at pieces
  exact (proper [] (pieces ▸ List.mem_cons_self)).1 rfl

theorem not_isReady_ofParts {parts : List Bytes} (nonempty : parts ≠ [])
    (proper : ∀ part ∈ parts, IsPart part) : ¬(ofParts parts).IsReady := by
  rcases List.eq_nil_or_concat parts with rfl | ⟨front, last, rfl⟩
  · exact absurd rfl nonempty
  have last_proper := proper last (by simp)
  by_cases none : front = []
  · subst none
    exact not_isReady_part last_proper
  · rw [ofParts, List.concat_eq_append, Text.joinWith_concat slash last none,
      ← List.singleton_append, ← List.append_assoc, isReady_append _ last_proper.1]
    exact not_isReady_part last_proper

theorem ofParts_join {parts : List Bytes} {name : Bytes}
    (proper : ∀ part ∈ parts, IsPart part) (name_proper : IsPart name) :
    (ofParts parts).join ⟨name⟩ = ofParts (parts ++ [name]) := by
  have relative := isAbsolute_part name_proper
  by_cases none : parts = []
  · subst none
    exact join_of_ready (Or.inl rfl) relative
  · rw [join_of_not_ready (not_isReady_ofParts none proper) relative, ofParts, ofParts,
      Text.joinWith_concat slash name none]

/-- A name below a path below a root is one part more below the root. -/
theorem join_ofParts_join (base : NativePath) {parts : List Bytes} {name : Bytes}
    (proper : ∀ part ∈ parts, IsPart part) (name_proper : IsPart name) :
    (base.join (ofParts parts)).join ⟨name⟩ = base.join (ofParts (parts ++ [name])) := by
  rw [join_join base (isAbsolute_ofParts proper) (isAbsolute_part name_proper),
    ofParts_join proper name_proper]

/-- Pushing one part after another makes up the path of all parts. -/
theorem foldl_join {parts more : List Bytes} (proper : ∀ part ∈ parts, IsPart part)
    (more_proper : ∀ part ∈ more, IsPart part) :
    more.foldl (fun path piece => path.join ⟨piece⟩) (ofParts parts) =
      ofParts (parts ++ more) := by
  induction more generalizing parts with
  | nil => rw [List.foldl_nil, List.append_nil]
  | cons part more ih =>
    have part_proper := more_proper part List.mem_cons_self
    rw [List.foldl_cons, ofParts_join proper part_proper, ih, List.append_assoc,
      List.singleton_append]
    · intro other member
      rcases List.mem_append.1 member with member | member
      · exact proper other member
      · exact List.mem_singleton.1 member ▸ part_proper
    · exact fun other member => more_proper other (List.mem_cons_of_mem _ member)

theorem joinWith_map_encode (items : List (List Char)) :
    Text.joinWith slash (items.map Utf8.encode) = Utf8.encode (Text.joinWith '/' items) := by
  cases items with
  | nil => rfl
  | cons first others =>
    have encoded : ∀ item : List Char, slash :: Utf8.encode item = Utf8.encode ('/' :: item) :=
      fun _ => rfl
    rw [List.map_cons, Text.joinWith_cons, Text.joinWith_cons, List.flatMap_map, Utf8.encode,
      Utf8.encode, List.flatMap_append, List.flatMap_assoc]
    simp only [encoded]
    rfl

/-- The path on disk of a normal form is made up of its components. -/
theorem ofRelative_ofParts {items : List RelPath.Component} (normal : RelPath.IsNormal items) :
    ofRelative (RelPath.ofParts items) = ofParts (items.map Utf8.encode) := by
  by_cases none : items = []
  · subst none
    rfl
  · have not_root : RelPath.ofParts items ≠ RelPath.root := fun same =>
      none (RelPath.ofParts_inj normal (RelPath.isNormal_of_plain (by simp)) same)
    have proper := isPart_of_normal normal
    have joined := foldl_join (List.forall_mem_nil IsPart) proper
    rw [List.foldl_map] at joined
    rw [ofRelative, if_neg not_root, RelPath.pieces_toList_ofParts normal none]
    exact joined

/-- A name without separators below a relative path lies right below it on disk. -/
theorem join_ofRelative_join (base : NativePath) {dir name : String}
    (normal : RelPath.normalize dir = dir) (plain : RelPath.IsPlain name.toList) :
    base.join (ofRelative (RelPath.join dir name)) =
      (base.join (ofRelative dir)).join (ofString name) := by
  have items_normal := RelPath.isNormal_parts dir
  rw [← normal, RelPath.normalize_eq, RelPath.join_ofParts items_normal plain,
    ofRelative_ofParts (RelPath.isNormal_child items_normal plain),
    ofRelative_ofParts items_normal, ofString, Utf8.ofString,
    join_ofParts_join _ (isPart_of_normal items_normal) (isPart_of_plain plain), List.map_append,
    List.map_singleton]

/-! ## Components -/

/-- The pieces of a path below `base` start with those of `base`, except for an empty one after a
slash at its end. -/
theorem exists_pieces_join {base : NativePath} (nonempty : base.bytes ≠ []) :
    ∃ front, front ≠ [] ∧ (base.pieces = front ∨ base.pieces = front ++ [[]]) ∧
      ∀ path : NativePath, path.isAbsolute = false →
        (base.join path).pieces = front ++ path.pieces := by
  by_cases ready : base.IsReady
  · obtain ⟨before, split⟩ := List.getLast?_eq_some_iff.1 (ready.resolve_left nonempty)
    refine ⟨Text.pieces (· == slash) before, Text.pieces_ne_nil _ _, Or.inr ?_, ?_⟩
    · rw [pieces, split, Text.pieces_append_separator before [] rfl]
      rfl
    · intro path relative
      rw [join_of_ready ready relative, pieces, split, List.append_assoc, List.singleton_append,
        Text.pieces_append_separator before _ rfl, pieces]
  · refine ⟨base.pieces, Text.pieces_ne_nil _ _, Or.inl rfl, fun path relative => ?_⟩
    rw [join_of_not_ready ready relative, pieces,
      Text.pieces_append_separator base.bytes _ rfl, pieces, pieces]

theorem leading?_join {base path : NativePath} (nonempty : base.bytes ≠ [])
    (relative : path.isAbsolute = false) : (base.join path).leading? = base.leading? := by
  obtain ⟨front, front_nonempty, base_pieces, joined⟩ := exists_pieces_join nonempty
  have same_head : (front ++ path.pieces).head? = base.pieces.head? := by
    obtain ⟨first, others, rfl⟩ := List.exists_cons_of_ne_nil front_nonempty
    rcases base_pieces with same | same <;> simp [same]
  rw [leading?, leading?, isAbsolute_join nonempty relative, joined path relative, same_head]

/-- The components of a path below `base` are those of `base` and then its own. -/
theorem components_join {base path : NativePath} (nonempty : base.bytes ≠ [])
    (relative : path.isAbsolute = false) :
    (base.join path).components = base.components ++ path.pieces.filterMap bodyComponent? := by
  obtain ⟨front, -, base_pieces, joined⟩ := exists_pieces_join nonempty
  have body : front.filterMap bodyComponent? = base.pieces.filterMap bodyComponent? := by
    rcases base_pieces with same | same
    · rw [same]
    · simp [same, List.filterMap_append, bodyComponent?, isTrivial]
  rw [components, components, leading?_join nonempty relative, joined path relative,
    List.filterMap_append, body, List.append_assoc]

/-- The component that a part stands for. -/
def componentOf (part : Bytes) : Component :=
  if part = up then .parent else .name part

theorem bodyComponent?_part {part : Bytes} (proper : IsPart part) :
    bodyComponent? part = some (componentOf part) := by
  have not_trivial : isTrivial part = false := by
    simp [isTrivial, proper.1, proper.2.1]
  rw [bodyComponent?, if_neg (by simp [not_trivial]), componentOf]
  split <;> rfl

theorem componentOf_inj {left right : Bytes} (same : componentOf left = componentOf right) :
    left = right := by
  unfold componentOf at same
  split at same <;> split at same
  · next left_up right_up => rw [left_up, right_up]
  · cases same
  · cases same
  · exact Component.name.inj same

theorem bodyComponents_ofParts {parts : List Bytes} (proper : ∀ part ∈ parts, IsPart part) :
    (ofParts parts).pieces.filterMap bodyComponent? = parts.map componentOf := by
  by_cases none : parts = []
  · subst none
    rfl
  · rw [pieces_ofParts none proper]
    clear none
    induction parts with
    | nil => rfl
    | cons part parts ih =>
      rw [List.filterMap_cons_some (bodyComponent?_part (proper part List.mem_cons_self)),
        ih fun other member => proper other (List.mem_cons_of_mem _ member), List.map_cons]

theorem components_ofParts {parts : List Bytes} (proper : ∀ part ∈ parts, IsPart part) :
    (ofParts parts).components = parts.map componentOf := by
  have no_lead : (ofParts parts).leading? = none := by
    rw [leading?, isAbsolute_ofParts proper, if_neg Bool.false_ne_true]
    by_cases none : parts = []
    · subst none
      rfl
    · obtain ⟨first, others, rfl⟩ := List.exists_cons_of_ne_nil none
      have not_here : first ≠ here := (proper first List.mem_cons_self).2.1
      rw [pieces_ofParts none proper, List.head?_cons, if_neg (not_here ∘ Option.some.inj)]
  rw [components, no_lead, bodyComponents_ofParts proper]
  rfl

/-- Paths made up of parts are the same exactly if their parts are. -/
theorem same_ofParts {left right : List Bytes} (left_proper : ∀ part ∈ left, IsPart part)
    (right_proper : ∀ part ∈ right, IsPart part) :
    (ofParts left).same (ofParts right) = true ↔ left = right := by
  rw [same, beq_iff_eq, components_ofParts left_proper, components_ofParts right_proper]
  exact List.map_inj_right fun _ _ => componentOf_inj

/-- Paths below one root are the same exactly if their parts below it are. -/
theorem same_join_ofParts {base : NativePath} {left right : List Bytes}
    (nonempty : base.bytes ≠ []) (left_proper : ∀ part ∈ left, IsPart part)
    (right_proper : ∀ part ∈ right, IsPart part) :
    (base.join (ofParts left)).same (base.join (ofParts right)) = true ↔ left = right := by
  rw [same, beq_iff_eq, components_join nonempty (isAbsolute_ofParts left_proper),
    components_join nonempty (isAbsolute_ofParts right_proper), List.append_cancel_left_eq,
    bodyComponents_ofParts left_proper, bodyComponents_ofParts right_proper]
  exact List.map_inj_right fun _ _ => componentOf_inj

end TreeBundle.NativePath
