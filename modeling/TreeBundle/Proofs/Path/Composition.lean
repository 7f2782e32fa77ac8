import TreeBundle.Proofs.Path.NormalForm

/-!
# Paths put together

Joining relative paths is associative and has the root as its unit, and only the normal forms of
both sides count. So a path can be cut at any of its separators: its pieces, joined one after
another from the root, make up its normal form.
-/
namespace TreeBundle.RelPath
set_option autoImplicit false

/-- The parts of the second path come on those of the first one as on a stack. -/
theorem parts_join (base name : String) :
    parts (join base name) = ((parts name).foldl push (parts base).reverse).reverse := by
  have chars : (base ++ "/" ++ name).toList = base.toList ++ '/' :: name.toList := by simp
  rw [join, parts_normalize, parts, chars, components_append_slash,
    cancels_push.foldl_pieces name]
  rfl

theorem join_eq_ofParts (base name : String) :
    join base name = ofParts (parts (join base name)) := by
  rw [← normalize_eq]
  exact (normalize_normalize _).symm

theorem parts_root : parts root = [] := by
  decide

/-- What the second and the third path do to a stack is done by what becomes of both. -/
theorem foldl_push_parts_join (left right : String) (stack : List Component) :
    (parts (join left right)).foldl push stack =
      (parts right).foldl push ((parts left).foldl push stack) := by
  have normal : IsNormal (parts left).reverse.reverse := by
    rw [List.reverse_reverse]
    exact isNormal_parts left
  have free := separator_free_of_normal (isNormal_parts right)
  have composed := cancels_push.foldl_foldl_reverse normal free stack
  rw [List.reverse_reverse] at composed
  rw [parts_join, composed]

theorem join_assoc (first second third : String) :
    join (join first second) third = join first (join second third) := by
  have same : parts (join (join first second) third) = parts (join first (join second third)) := by
    rw [parts_join, parts_join first second, List.reverse_reverse, parts_join first,
      foldl_push_parts_join]
  rw [join_eq_ofParts, same, ← join_eq_ofParts]

theorem root_join (path : String) : join root path = normalize path := by
  rw [join_eq_ofParts, parts_join, parts_root, List.reverse_nil,
    foldl_push_normal (isNormal_parts path), List.reverse_reverse, normalize_eq]

theorem join_root (path : String) : join path root = normalize path := by
  rw [join_eq_ofParts, parts_join, parts_root, List.foldl_nil, List.reverse_reverse, normalize_eq]

theorem join_congr {base base' name name' : String} (same_base : parts base = parts base')
    (same_name : parts name = parts name') : join base name = join base' name' := by
  rw [join_eq_ofParts, parts_join, same_base, same_name, ← parts_join, ← join_eq_ofParts]

/-! ## Pieces -/

/-- A path is cut into pieces at some of its separators; several in a row may go together. -/
inductive IsCut : String → List String → Prop where
  | whole (path : String) : IsCut path [path]
  | cut (front between rest : String) {items : List String} :
      between ≠ "" → (∀ c ∈ between.toList, isSeparator c = true) → IsCut rest items →
      IsCut (front ++ between ++ rest) (front :: items)

theorem foldl_push_pieces_separators {between : List Char}
    (separators : ∀ c ∈ between, isSeparator c = true) (rest : List Char)
    (stack : List Component) :
    (Text.pieces isSeparator (between ++ rest)).foldl push stack =
      (Text.pieces isSeparator rest).foldl push stack := by
  induction between with
  | nil => rfl
  | cons c between ih =>
    have empty : push stack [] = stack := cancels_push.trivial stack [] (.inl rfl)
    rw [List.cons_append, Text.pieces_of_separator _ (separators c List.mem_cons_self),
      List.foldl_cons, empty]
    exact ih fun other member => separators other (List.mem_cons_of_mem _ member)

/-- Separators in a row separate as one does. -/
theorem normalize_append_separators {between : String} (nonempty : between ≠ "")
    (separators : ∀ c ∈ between.toList, isSeparator c = true) (front rest : String) :
    normalize (front ++ between ++ rest) = join front rest := by
  obtain ⟨c, others, spelled⟩ : ∃ c others, between.toList = c :: others :=
    List.exists_cons_of_ne_nil fun empty => nonempty (String.toList_inj.1 empty)
  rw [spelled] at separators
  have is_separator : isSeparator c = true := separators c List.mem_cons_self
  have others_separate : ∀ d ∈ others, isSeparator d = true :=
    fun d member => separators d (List.mem_cons_of_mem _ member)
  have chars : (front ++ between ++ rest).toList =
      front.toList ++ c :: (others ++ rest.toList) := by simp [spelled]
  have same : parts (front ++ between ++ rest) = parts (join front rest) := by
    rw [parts, chars, components, Text.pieces_append_separator _ _ is_separator,
      List.foldl_append, foldl_push_pieces_separators others_separate,
      cancels_push.foldl_pieces rest, cancels_push.foldl_pieces front,
      foldl_push_normal (isNormal_parts front), parts_join]
  rw [normalize_eq, same, ← join_eq_ofParts]

/-- Pieces joined one after another lead where the path leads. -/
theorem IsCut.foldl_join {path : String} {items : List String} (cut : IsCut path items)
    (base : String) : items.foldl join base = join base path := by
  induction cut generalizing base with
  | whole path => rfl
  | cut front between rest nonempty separators _ ih =>
    calc
      (front :: _).foldl join base = join (join base front) rest := ih (join base front)
      _ = join base (join front rest) := join_assoc base front rest
      _ = join base (normalize (front ++ between ++ rest)) := by
        rw [normalize_append_separators nonempty separators]
      _ = join base (front ++ between ++ rest) := join_congr rfl (parts_normalize _)

/-- The pieces between all separators of a path. -/
def pieces (path : String) : List String :=
  (Text.pieces isSeparator path.toList).map String.ofList

theorem isCut_cons (c : Char) {rest first : String} {others : List String}
    (cut : IsCut rest (first :: others)) :
    IsCut (String.singleton c ++ rest) ((String.singleton c ++ first) :: others) := by
  cases cut with
  | whole => exact .whole _
  | cut front between rest nonempty separators below =>
    rw [← String.append_assoc, ← String.append_assoc]
    exact .cut _ between rest nonempty separators below

theorem isCut_ofList (text : List Char) :
    IsCut (String.ofList text) ((Text.pieces isSeparator text).map String.ofList) := by
  induction text with
  | nil => exact .whole ""
  | cons c rest ih =>
    have spelled : String.ofList (c :: rest) = String.singleton c ++ String.ofList rest :=
      String.toList_inj.1 (by simp)
    rw [Text.pieces, spelled]
    split
    · next separates =>
      have cut := IsCut.cut "" (String.singleton c) _ (by simp) (by simpa using separates) ih
      rwa [String.empty_append] at cut
    · split
      · next none => exact absurd none (Text.pieces_ne_nil _ _)
      · next first others pieces_eq =>
        rw [pieces_eq] at ih
        have grown : String.ofList (c :: first) = String.singleton c ++ String.ofList first :=
          String.toList_inj.1 (by simp)
        rw [List.map_cons, grown]
        exact isCut_cons c ih

/-- To cut at every separator is one way to cut. -/
theorem isCut_pieces (path : String) : IsCut path (pieces path) := by
  have cut := isCut_ofList path.toList
  rwa [String.ofList_toList] at cut

/-- Pieces that stand for the root can be left out. -/
theorem foldl_join_filter (items : List String) {base : String} (normal : normalize base = base) :
    (items.filter (normalize · != root)).foldl join base = items.foldl join base := by
  induction items generalizing base with
  | nil => rfl
  | cons item items ih =>
    have joined : normalize (join base item) = join base item := normalize_normalize _
    rw [List.filter_cons, List.foldl_cons]
    split
    · exact ih joined
    · next trivial =>
      have stands_for_root : parts item = parts root := by
        have same : normalize item = root := by simpa using trivial
        rw [← parts_normalize, same]
      have stays : join base item = base := by
        rw [join_congr rfl stands_for_root, join_root, normal]
      rw [stays]
      exact ih normal

/-- Joining composes paths: it is associative, the root is its unit up to the normal form, and only
the normal forms of both sides count. Cut at any of its separators, a path is made up again by
joining its pieces one after another from the root; the empty ones and those that stand for nothing
can be left out. -/
theorem join_composes :
    (∀ first second third : String,
      join (join first second) third = join first (join second third)) ∧
    (∀ path : String, join root path = normalize path ∧ join path root = normalize path) ∧
    (∀ base name : String, join base name = join (normalize base) (normalize name)) ∧
    (∀ (path : String) (items : List String), IsCut path items →
      items.foldl join root = normalize path) ∧
    (∀ path : String, (pieces path).foldl join root = normalize path ∧
      ((pieces path).filter (normalize · != root)).foldl join root = normalize path) := by
  have from_root : ∀ (path : String) (items : List String), IsCut path items →
      items.foldl join root = normalize path :=
    fun path items cut => (cut.foldl_join root).trans (root_join path)
  refine ⟨join_assoc, fun path => ⟨root_join path, join_root path⟩, fun base name => ?_, from_root,
    fun path => ⟨from_root path _ (isCut_pieces path), ?_⟩⟩
  · exact join_congr (parts_normalize base).symm (parts_normalize name).symm
  · rw [foldl_join_filter _ (by decide)]
    exact from_root path _ (isCut_pieces path)

/-- Seams between `..` and the names they take back, at a backslash and at several slashes. -/
theorem join_composes_seams :
    IsCut "a/b\\..//../../c" ["a/b", "..", "../../c"] ∧
    ["a/b", "..", "../../c"].foldl join root = normalize "a/b\\..//../../c" ∧
    normalize "a/b\\..//../../c" = "../c" := by
  have cut : IsCut "a/b\\..//../../c" ["a/b", "..", "../../c"] :=
    .cut "a/b" "\\" "..//../../c" (by decide) (List.all_eq_true.1 (by decide))
      (.cut ".." "//" "../../c" (by decide) (List.all_eq_true.1 (by decide)) (.whole _))
  exact ⟨cut, join_composes.2.2.2.1 _ _ cut, by decide +kernel⟩

end TreeBundle.RelPath
