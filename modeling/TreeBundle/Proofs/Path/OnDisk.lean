import TreeBundle.Proofs.Path.Native

/-!
# Normal forms on disk

The path on disk of a normal form is spelled like it, except that the root's is empty. It is never
absolute, so that below a base it replaces nothing but adds its components. Hence normal forms that
lead to the same path are equal, and it does not matter whether a name joins a directory before
both are put below a base or after.
-/
namespace TreeBundle.NativePath
set_option autoImplicit false

/-! ## The path of a normal form -/

theorem ofRelative_eq {rel : String} (normal : RelPath.normalize rel = rel) :
    ofRelative rel = ofParts ((RelPath.parts rel).map Utf8.encode) := by
  have spelled : rel = RelPath.ofParts (RelPath.parts rel) := by
    rw [← RelPath.normalize_eq, normal]
  calc
    ofRelative rel = ofRelative (RelPath.ofParts (RelPath.parts rel)) := by rw [← spelled]
    _ = ofParts ((RelPath.parts rel).map Utf8.encode) := ofRelative_ofParts (RelPath.isNormal_parts rel)

theorem isPart_of_parts (rel : String) :
    ∀ part ∈ (RelPath.parts rel).map Utf8.encode, IsPart part :=
  isPart_of_normal (RelPath.isNormal_parts rel)

theorem up_mem_map_encode {items : List RelPath.Component} :
    up ∈ items.map Utf8.encode ↔ RelPath.up ∈ items := by
  rw [show up = Utf8.encode RelPath.up by decide, List.mem_map]
  exact ⟨fun ⟨item, inside, same⟩ => Utf8.encode_inj same ▸ inside, fun inside => ⟨_, inside, rfl⟩⟩

/-- A normal form, the root's apart, is the text of its path on disk. -/
theorem ofString_eq_ofParts {rel : String} (normal : RelPath.normalize rel = rel)
    (not_root : rel ≠ RelPath.root) :
    ofString rel = ofParts ((RelPath.parts rel).map Utf8.encode) := by
  have nonempty : RelPath.parts rel ≠ [] := by
    intro none
    apply not_root
    rw [← normal, RelPath.normalize_eq, none]
    rfl
  have bytes : (ofParts ((RelPath.parts rel).map Utf8.encode)).bytes = Utf8.ofString rel := by
    calc
      Text.joinWith slash ((RelPath.parts rel).map Utf8.encode) =
          Utf8.encode (RelPath.ofComponents (RelPath.parts rel)) := by
        rw [joinWith_map_encode, RelPath.ofComponents_of_ne_nil nonempty]
      _ = Utf8.ofString (RelPath.ofParts (RelPath.parts rel)) := by
        rw [Utf8.ofString, RelPath.ofParts, String.toList_ofList]
      _ = Utf8.ofString rel := by rw [← RelPath.normalize_eq, normal]
  rw [ofString, ← bytes]

theorem text_ofString (text : String) : (ofString text).text = text := by
  rw [NativePath.text, chars, ofString, Utf8.decodeLossy_ofString, String.ofList_toList]

theorem text_ofRelative {rel : String} (normal : RelPath.normalize rel = rel)
    (not_root : rel ≠ RelPath.root) : (ofRelative rel).text = rel := by
  rw [ofRelative_eq normal, ← ofString_eq_ofParts normal not_root, text_ofString]

theorem isAbsolute_ofRelative {rel : String} (normal : RelPath.normalize rel = rel) :
    (ofRelative rel).isAbsolute = false := by
  rw [ofRelative_eq normal]
  exact isAbsolute_ofParts (isPart_of_parts rel)

/-- Normal forms with the same path on disk are equal: their components are. -/
theorem same_ofRelative_iff {left right : String} (left_normal : RelPath.normalize left = left)
    (right_normal : RelPath.normalize right = right) :
    (ofRelative left).same (ofRelative right) = true ↔ left = right := by
  rw [ofRelative_eq left_normal, ofRelative_eq right_normal,
    same_ofParts (isPart_of_parts left) (isPart_of_parts right)]
  constructor
  · intro same_parts
    have encoded : ∀ left right : RelPath.Component,
        Utf8.encode left = Utf8.encode right → left = right := fun _ _ => Utf8.encode_inj
    rw [← left_normal, ← right_normal, RelPath.normalize_eq, RelPath.normalize_eq,
      (List.map_inj_right encoded).1 same_parts]
  · intro same
    rw [same]

/-! ## Below a base -/

/-- Parts add their components to those of any base, also to none. -/
theorem components_join_ofParts (base : NativePath) {parts : List Bytes}
    (proper : ∀ part ∈ parts, IsPart part) :
    (base.join (ofParts parts)).components = base.components ++ parts.map componentOf := by
  have relative := isAbsolute_ofParts proper
  by_cases empty : base.bytes = []
  · obtain ⟨bytes⟩ := base
    subst empty
    have none : components ⟨[]⟩ = [] := rfl
    rw [join_of_ready (Or.inl rfl) relative, none, List.nil_append, List.nil_append]
    exact components_ofParts proper
  · rw [components_join empty relative, bodyComponents_ofParts proper]

theorem components_join_ofRelative (base : NativePath) {rel : String}
    (normal : RelPath.normalize rel = rel) :
    (base.join (ofRelative rel)).components =
      base.components ++ ((RelPath.parts rel).map Utf8.encode).map componentOf := by
  rw [ofRelative_eq normal]
  exact components_join_ofParts base (isPart_of_parts rel)

theorem componentOf_plain {name : List Char} (plain : RelPath.IsPlain name) :
    componentOf (Utf8.encode name) = .name (Utf8.encode name) :=
  if_neg fun same => plain.2.2.1 (Utf8.encode_inj same)

/-- Paths on disk are faithful to normal forms. That of a normal form is never absolute and, the
root's aside, has its text; two are the same only for equal normal forms. Below any base, the path
of a name joined to a directory has the components that come from putting the directory below the
base first and the name below that: those of the base, of the directory, and the name. -/
theorem ofRelative_faithful :
    (∀ rel : String, RelPath.normalize rel = rel → (ofRelative rel).isAbsolute = false ∧
      (rel ≠ RelPath.root → (ofRelative rel).text = rel)) ∧
    (∀ left right : String, RelPath.normalize left = left → RelPath.normalize right = right →
      ((ofRelative left).same (ofRelative right) = true ↔ left = right)) ∧
    (∀ (base : NativePath) (dir name : String), RelPath.normalize dir = dir →
      RelPath.IsPlain name.toList →
      (base.join (ofRelative (RelPath.join dir name))).components =
          ((base.join (ofRelative dir)).join (ofString name)).components ∧
        (base.join (ofRelative (RelPath.join dir name))).components =
          base.components ++ ((RelPath.parts dir).map Utf8.encode).map componentOf ++
            [.name (Utf8.ofString name)]) := by
  refine ⟨fun rel normal => ?_, fun left right left_normal right_normal => ?_,
    fun base dir name normal plain => ?_⟩
  · exact ⟨isAbsolute_ofRelative normal, text_ofRelative normal⟩
  · exact same_ofRelative_iff left_normal right_normal
  · refine ⟨congrArg components (join_ofRelative_join base normal plain), ?_⟩
    have joined_normal : RelPath.normalize (RelPath.join dir name) = RelPath.join dir name :=
      RelPath.normalize_normalize _
    rw [components_join_ofRelative base joined_normal, RelPath.parts_join_of_plain plain,
      List.map_append, List.map_append, List.map_singleton, List.map_singleton,
      componentOf_plain plain, List.append_assoc, Utf8.ofString]

/-- A directory beside a base that leads with `.` and ends in a slash. -/
theorem ofRelative_faithful_beside :
    (ofRelative "../src").isAbsolute = false ∧ (ofRelative "../src").text = "../src" ∧
    (ofRelative "..").same (ofRelative "../src") = false ∧
    ((ofString "./tree/").join (ofRelative (RelPath.join "../src" "a b"))).components =
      ((ofString "./tree/").join (ofRelative "../src") |>.join (ofString "a b")).components ∧
    ((ofString "./tree/").join (ofRelative (RelPath.join "../src" "a b"))).components =
      [.here, .name (Utf8.ofString "tree"), .parent, .name (Utf8.ofString "src"),
        .name (Utf8.ofString "a b")] := by
  have normal : RelPath.normalize "../src" = "../src" := by decide +kernel
  have up_normal : RelPath.normalize ".." = ".." := by decide +kernel
  have plain : RelPath.IsPlain "a b".toList :=
    ⟨by decide, by decide, by decide, by simp [RelPath.isSeparator]⟩
  obtain ⟨relative, spelled⟩ := ofRelative_faithful.1 "../src" normal
  have different : (ofRelative "..").same (ofRelative "../src") = false := by
    rw [← Bool.not_eq_true, ofRelative_faithful.2.1 ".." "../src" up_normal normal]
    decide
  obtain ⟨same, listed⟩ :=
    ofRelative_faithful.2.2 (ofString "./tree/") "../src" "a b" normal plain
  exact ⟨relative, spelled (by decide), different, same, listed.trans (by decide +kernel)⟩

end TreeBundle.NativePath
