import TreeBundle.Proofs.Path.Composition
import TreeBundle.Proofs.Path.Native
import TreeBundle.Proofs.Text.Lossy

/-!
# Taking a root off a path

A relative path put below a root and taken off it again may come back spelled otherwise: without the
trivial pieces at either end, and with slashes for backslashes. It stands for the same parts, since
trivial pieces stand for nothing and both characters separate.
-/
namespace TreeBundle

/-! ## Spellings with the same parts -/

namespace RelPath
set_option autoImplicit false

/-- A text joined from items separates them and what is inside of them. -/
theorem pieces_joinWith_flatMap {items : List (List Char)} (nonempty : items ≠ []) :
    Text.pieces isSeparator (Text.joinWith '/' items) =
      items.flatMap (Text.pieces isSeparator) := by
  induction items with
  | nil => exact absurd rfl nonempty
  | cons item items ih =>
    cases items with
    | nil => rw [Text.joinWith, List.flatMap_cons, List.flatMap_nil, List.append_nil]
    | cons next others =>
      rw [Text.joinWith, Text.pieces_append_separator _ _ rfl, ih (by simp),
        List.flatMap_cons (x := item)]

theorem foldl_push_joinWith (items : List (List Char)) (stack : List Component) :
    (Text.pieces isSeparator (Text.joinWith '/' items)).foldl push stack =
      (items.flatMap (Text.pieces isSeparator)).foldl push stack := by
  by_cases none : items = []
  · subst none
    exact cancels_push.trivial stack [] (Or.inl rfl)
  · rw [pieces_joinWith_flatMap none]

/-- Trivial pieces do not count, whatever is shown for the others. -/
theorem foldl_push_filter (items : List Bytes) (stack : List Component) :
    ((items.filter (!NativePath.isTrivial ·)).flatMap
        fun item => Text.pieces isSeparator (Utf8.decodeLossy item)).foldl push stack =
      (items.flatMap fun item => Text.pieces isSeparator (Utf8.decodeLossy item)).foldl push
        stack := by
  induction items generalizing stack with
  | nil => rfl
  | cons item items ih =>
    rw [List.flatMap_cons, List.foldl_append, ← ih, List.filter_cons]
    split
    · rw [List.flatMap_cons, List.foldl_append]
    · next trivial =>
      have shown : Utf8.decodeLossy item = [] ∨ Utf8.decodeLossy item = here := by
        simp only [NativePath.isTrivial, Bool.not_eq_true', Bool.not_eq_false, Bool.or_eq_true,
          beq_iff_eq] at trivial
        rcases trivial with rfl | rfl
        · exact Or.inl Utf8.decodeLossy_nil
        · exact Or.inr (Utf8.decodeLossy_encode here)
      have stays : (Text.pieces isSeparator (Utf8.decodeLossy item)).foldl push stack = stack := by
        rcases shown with empty | dot
        · rw [empty]
          rfl
        · rw [dot]
          rfl
      rw [stays]

theorem decodeLossy_joinWith (items : List Bytes) :
    Utf8.decodeLossy (Text.joinWith NativePath.slash items) =
      Text.joinWith '/' (items.map Utf8.decodeLossy) := by
  induction items with
  | nil => exact Utf8.decodeLossy_nil
  | cons item items ih =>
    cases items with
    | nil => rfl
    | cons next others =>
      have ascii : '/'.toNat < 0x80 := by decide
      have cut := Utf8.decodeLossy_append_ascii ascii item (Text.joinWith NativePath.slash
        (next :: others))
      rw [Text.joinWith, List.map_cons, List.map_cons, Text.joinWith, ← List.map_cons, ← ih]
      exact cut

/-- What is shown of paths that are the same but for trivial pieces has the same components. -/
theorem components_joinWith_of_filter {left right : List Bytes}
    (same : left.filter (!NativePath.isTrivial ·) = right.filter (!NativePath.isTrivial ·)) :
    components (Utf8.decodeLossy (Text.joinWith NativePath.slash left)) =
      components (Utf8.decodeLossy (Text.joinWith NativePath.slash right)) := by
  rw [components, components, decodeLossy_joinWith, decodeLossy_joinWith, foldl_push_joinWith,
    foldl_push_joinWith, List.flatMap_map, List.flatMap_map, ← foldl_push_filter left, same,
    foldl_push_filter]

/-- A character that separates may be spelled as another that does. -/
theorem pieces_map {spell : Char → Char} (separates : ∀ c, isSeparator (spell c) = isSeparator c)
    (keeps : ∀ c, isSeparator c = false → spell c = c) (text : List Char) :
    Text.pieces isSeparator (text.map spell) = Text.pieces isSeparator text := by
  induction text with
  | nil => rfl
  | cons c rest ih =>
    rw [List.map_cons, Text.pieces, Text.pieces, ih, separates]
    split
    · rfl
    · next other => rw [keeps c (by simpa using other)]

end RelPath

namespace NativePath

theorem parts_slashed (path : NativePath) :
    RelPath.parts path.slashed = RelPath.parts path.text := by
  rw [slashed, text, RelPath.parts, RelPath.parts, String.toList_ofList, String.toList_ofList,
    RelPath.components, RelPath.components, RelPath.pieces_map]
  · intro c
    by_cases backslash : c = '\\'
    · rw [backslash]
      rfl
    · rw [if_neg backslash]
  · intro c plain
    refine if_neg ?_
    rintro rfl
    exact absurd plain (by decide)

/-! ## What is left behind a prefix -/

theorem dropWhile_dropComponents (front rest : List Bytes) :
    (dropComponents (front.filter (!isTrivial ·)).length (front ++ rest)).dropWhile isTrivial =
      rest.dropWhile isTrivial := by
  induction front with
  | nil => rw [List.filter_nil, List.length_nil, List.nil_append, dropComponents]
  | cons piece front ih =>
    rw [List.filter_cons, List.cons_append]
    cases trivial : isTrivial piece with
    | false =>
      simp only [Bool.not_false, if_true, List.length_cons, dropComponents, trivial,
        Bool.false_eq_true, if_false]
      exact ih
    | true =>
      simp only [Bool.not_true, Bool.false_eq_true, if_false]
      cases count : (front.filter (!isTrivial ·)).length with
      | zero =>
        -- Nothing more has to be dropped, so the trivial piece is what is left first.
        rw [count] at ih
        rw [dropComponents, List.dropWhile_cons, if_pos trivial]
        rw [dropComponents] at ih
        exact ih
      | succ count =>
        simp only [dropComponents, trivial, if_true]
        rw [← count]
        exact ih

theorem filter_dropWhile (items : List Bytes) :
    (items.dropWhile isTrivial).filter (!isTrivial ·) = items.filter (!isTrivial ·) := by
  induction items with
  | nil => rfl
  | cons item items ih =>
    rw [List.dropWhile_cons, List.filter_cons]
    split
    · next trivial =>
      simp only [trivial, Bool.not_true, Bool.false_eq_true, if_false]
      exact ih
    · rw [List.filter_cons]

theorem filter_trimEnd (items : List Bytes) :
    (trimEnd items).filter (!isTrivial ·) = items.filter (!isTrivial ·) := by
  rw [trimEnd, List.filter_reverse, filter_dropWhile, List.filter_reverse, List.reverse_reverse]

theorem length_filterMap_bodyComponent? (items : List Bytes) :
    (items.filterMap bodyComponent?).length = (items.filter (!isTrivial ·)).length := by
  induction items with
  | nil => rfl
  | cons item items ih =>
    rw [List.filter_cons]
    cases trivial : isTrivial item with
    | true =>
      have dropped : bodyComponent? item = none := if_pos trivial
      simpa [List.filterMap_cons_none dropped] using ih
    | false =>
      obtain ⟨component, kept⟩ : ∃ component, bodyComponent? item = some component := by
        rw [bodyComponent?, if_neg (by simp [trivial])]
        split <;> exact ⟨_, rfl⟩
      simpa [List.filterMap_cons_some kept] using ih

/-- An absolute path has its root and then the components of the pieces after the first slash. -/
theorem components_of_absolute {path : NativePath} (absolute : path.isAbsolute = true) :
    path.leading? = some .root ∧ path.pieces = [] :: path.pieces.drop 1 := by
  obtain ⟨c, rest, bytes⟩ := List.exists_cons_of_ne_nil (bytes_ne_nil_of_absolute absolute)
  have slash : c = NativePath.slash := by simpa [isAbsolute, bytes] using absolute
  refine ⟨if_pos absolute, ?_⟩
  rw [pieces, bytes, slash, Text.pieces_of_separator _ rfl]
  rfl

theorem isAbsolute_iff_root_mem {path : NativePath} :
    path.isAbsolute = true ↔ Component.root ∈ path.components := by
  have body : ∀ piece, bodyComponent? piece ≠ some .root := by
    intro piece
    unfold bodyComponent?
    split
    · simp
    · split <;> simp
  rw [components, List.mem_append, Option.mem_toList, leading?]
  constructor
  · intro absolute
    rw [if_pos absolute]
    exact Or.inl rfl
  · rintro (leads | inside)
    · split at leads
      · assumption
      · split at leads <;> cases leads
    · obtain ⟨piece, -, root⟩ := List.mem_filterMap.1 inside
      exact absurd root (body piece)

theorem isAbsolute_of_same {root base : NativePath} (absolute : root.isAbsolute = true)
    (same : base.same root = true) : base.isAbsolute = true := by
  have components_eq : base.components = root.components := beq_iff_eq.1 same
  rw [isAbsolute_iff_root_mem, components_eq]
  exact isAbsolute_iff_root_mem.1 absolute

/-- A relative path below an absolute root, however the root is spelled, is found below it again,
without the trivial pieces at its ends. -/
theorem stripPrefix?_join {root base path : NativePath} (absolute : root.isAbsolute = true)
    (same : base.same root = true) (relative : path.isAbsolute = false) :
    (base.join path).stripPrefix? root =
      some ⟨Text.joinWith slash (trimEnd (path.pieces.dropWhile isTrivial))⟩ := by
  have components_eq : base.components = root.components := beq_iff_eq.1 same
  have base_absolute := isAbsolute_of_same absolute same
  have nonempty := bytes_ne_nil_of_absolute base_absolute
  obtain ⟨leads, base_pieces⟩ := components_of_absolute base_absolute
  have joined_leads := (leading?_join nonempty relative).trans leads
  obtain ⟨front, front_nonempty, front_base, joined⟩ := exists_pieces_join nonempty
  obtain ⟨first, others, rfl⟩ := List.exists_cons_of_ne_nil front_nonempty
  obtain rfl : first = [] := by
    rcases front_base with spelled | spelled <;> rw [spelled] at base_pieces <;>
      exact (List.cons.inj base_pieces).1
  -- The root has as many components as pieces of its path are not trivial, and one for the slash.
  have counted : root.components.length = (others.filter (!isTrivial ·)).length + 1 := by
    have body : base.pieces.filter (!isTrivial ·) = others.filter (!isTrivial ·) := by
      rcases front_base with spelled | spelled <;> simp [spelled, isTrivial]
    rw [← components_eq, components, leads, List.length_append, length_filterMap_bodyComponent?,
      body]
    exact Nat.add_comm _ _
  have below : root.components.isPrefixOf (base.join path).components = true := by
    rw [List.isPrefixOf_iff_prefix, components_join nonempty relative, components_eq]
    exact List.prefix_append _ _
  rw [stripPrefix?, if_pos below, counted]
  simp only [joined_leads, Option.isSome_some, if_true, joined path relative, List.cons_append,
    List.drop_succ_cons, List.drop_zero, dropWhile_dropComponents]

/-- A relative path taken off a root that it was put below has its own parts. -/
theorem relativeTo?_join {root base path : NativePath} (absolute : root.isAbsolute = true)
    (same : base.same root = true) (relative : path.isAbsolute = false) :
    ∃ rest, (base.join path).relativeTo? root = some rest ∧
      RelPath.parts rest = RelPath.parts path.text := by
  rw [relativeTo?, stripPrefix?_join absolute same relative]
  refine ⟨_, rfl, ?_⟩
  have spelled : path.bytes = Text.joinWith slash path.pieces :=
    (Text.joinWith_pieces slash path.bytes).symm
  rw [parts_slashed, text, text, RelPath.parts, RelPath.parts, String.toList_ofList,
    String.toList_ofList, chars, chars, spelled]
  apply RelPath.components_joinWith_of_filter
  rw [filter_trimEnd, filter_dropWhile]

end NativePath
end TreeBundle
