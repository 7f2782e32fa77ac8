import Mathlib.Data.List.Basic
import TreeBundle.Proofs.FileSystem.Alike

/-!
# Directories in another order

A directory hands out its entries in any order. Trees that differ in nothing else look alike from
any root: what is found at a path does not depend on the order, and a listing sorts the entries by
their names, which can be put in order in one way only as long as none comes twice.
-/
namespace TreeBundle
set_option autoImplicit false

namespace Node

def DistinctNames (entries : NodeEntries) : Prop :=
  (entries.map Prod.fst).Nodup

instance (entries : NodeEntries) : Decidable (DistinctNames entries) :=
  inferInstanceAs (Decidable (List.Nodup _))

/-- Two trees that hold the same in the same places, in directories that name each entry once. The
entries of a directory may come in any order. -/
structure Reordered (node other : Node) : Prop where
  same : ∀ place, (other.at? place).map shallow = (node.at? place).map shallow
  distinct : node.EveryDirectory DistinctNames
  other_distinct : other.EveryDirectory DistinctNames

variable {node other : Node} {entries entries' : NodeEntries} {name : Bytes}

theorem Reordered.symm (reordered : node.Reordered other) : other.Reordered node :=
  ⟨fun place => (reordered.same place).symm, reordered.other_distinct, reordered.distinct⟩

theorem Reordered.refl (distinct : node.EveryDirectory DistinctNames) : node.Reordered node :=
  ⟨fun _ => rfl, distinct, distinct⟩

/-- What one tree holds somewhere, the other one holds there too. -/
theorem Reordered.exists_at? {found : Node} {place : Place} (reordered : node.Reordered other)
    (held : node.at? place = some found) :
    ∃ found', other.at? place = some found' ∧ found'.shallow = found.shallow ∧
      found.Reordered found' := by
  have same := reordered.same place
  rw [held] at same
  obtain ⟨found', held', shallow⟩ := Option.map_eq_some_iff.1 same
  refine ⟨found', held', shallow, ?_, reordered.distinct.at held, reordered.other_distinct.at held'⟩
  intro below
  have deeper := reordered.same (place ++ below)
  rwa [at?_append, at?_append, held, held'] at deeper

theorem Reordered.exists_lookup {child : Node}
    (reordered : (directory entries).Reordered (directory entries'))
    (looked_up : entries.lookup name = some child) :
    ∃ child', entries'.lookup name = some child' ∧ child.Reordered child' := by
  have held : (directory entries).at? [name] = some child := by
    rw [at?_directory_cons, looked_up]
    rfl
  obtain ⟨child', held', -, below⟩ := reordered.exists_at? held
  rw [at?_directory_cons, Option.bind_eq_some_iff] at held'
  obtain ⟨_, looked_up', here⟩ := held'
  cases here
  exact ⟨child', looked_up', below⟩

theorem mem_names_of_lookup {child : Node} (looked_up : entries.lookup name = some child) :
    name ∈ entries.map Prod.fst :=
  List.mem_map.2 ⟨_, mem_of_lookup looked_up, rfl⟩

theorem exists_lookup_of_mem_names (distinct : DistinctNames entries)
    (member : name ∈ entries.map Prod.fst) : ∃ child, entries.lookup name = some child := by
  obtain ⟨⟨_, child⟩, inside, rfl⟩ := List.mem_map.1 member
  exact ⟨child, lookup_of_mem distinct inside⟩

/-- The names of one directory are those of the other one in some order. -/
theorem Reordered.perm_names (reordered : (directory entries).Reordered (directory entries')) :
    (entries'.map Prod.fst).Perm (entries.map Prod.fst) := by
  have distinct : DistinctNames entries := reordered.distinct.here
  have other_distinct : DistinctNames entries' := reordered.other_distinct.here
  refine (List.perm_ext_iff_of_nodup other_distinct distinct).2 fun name => ?_
  constructor
  · intro member
    obtain ⟨child, looked_up⟩ := exists_lookup_of_mem_names other_distinct member
    obtain ⟨child', looked_up', -⟩ := reordered.symm.exists_lookup looked_up
    exact mem_names_of_lookup looked_up'
  · intro member
    obtain ⟨child, looked_up⟩ := exists_lookup_of_mem_names distinct member
    obtain ⟨child', looked_up', -⟩ := reordered.exists_lookup looked_up
    exact mem_names_of_lookup looked_up'

theorem everyDirectory_directory_iff {condition : NodeEntries → Prop} :
    (directory entries).EveryDirectory condition ↔ condition entries ∧
      ∀ name child, entries.lookup name = some child → child.EveryDirectory condition := by
  constructor
  · intro every
    refine ⟨every.here, fun name child looked_up => ?_⟩
    have held : (directory entries).at? [name] = some child := by
      rw [at?_directory_cons, looked_up]
      rfl
    exact every.at held
  · rintro ⟨here, below⟩ place found held
    cases place with
    | nil =>
      cases held
      exact here
    | cons name rest =>
      rw [at?_directory_cons, Option.bind_eq_some_iff] at held
      obtain ⟨child, looked_up, held⟩ := held
      exact below name child looked_up rest found held

/-- Two directories are the same in another order exactly if their names are a permutation of each
other, each of them comes once, and what the names stand for is the same in another order. -/
theorem reordered_directory_iff :
    (directory entries).Reordered (directory entries') ↔
      DistinctNames entries ∧ (entries'.map Prod.fst).Perm (entries.map Prod.fst) ∧
      ∀ name child child', entries.lookup name = some child →
        entries'.lookup name = some child' → child.Reordered child' := by
  constructor
  · intro reordered
    refine ⟨reordered.distinct.here, reordered.perm_names, ?_⟩
    intro name child child' looked_up looked_up'
    obtain ⟨found, found_up, below⟩ := reordered.exists_lookup looked_up
    obtain rfl := Option.some.inj (looked_up'.symm.trans found_up)
    exact below
  · rintro ⟨distinct, perm, below⟩
    have other_distinct : DistinctNames entries' := perm.nodup_iff.2 distinct
    -- A name is found in both directories or in none.
    have lookup_cases (name : Bytes) : (entries.lookup name = none ∧ entries'.lookup name = none) ∨
        ∃ child child', entries.lookup name = some child ∧ entries'.lookup name = some child' := by
      cases looked_up : entries.lookup name with
      | some child =>
        have member := perm.mem_iff.2 (mem_names_of_lookup looked_up)
        obtain ⟨child', looked_up'⟩ := exists_lookup_of_mem_names other_distinct member
        exact Or.inr ⟨child, child', rfl, looked_up'⟩
      | none =>
        refine Or.inl ⟨rfl, Option.eq_none_iff_forall_ne_some.2 fun child' looked_up' => ?_⟩
        have member := perm.mem_iff.1 (mem_names_of_lookup looked_up')
        obtain ⟨child, found_up⟩ := exists_lookup_of_mem_names distinct member
        rw [looked_up] at found_up
        cases found_up
    refine ⟨fun place => ?_, ?_, ?_⟩
    · cases place with
      | nil => rfl
      | cons name rest =>
        rw [at?_directory_cons, at?_directory_cons]
        rcases lookup_cases name with ⟨absent, absent'⟩ | ⟨child, child', looked_up, looked_up'⟩
        · rw [absent, absent']
        · rw [looked_up, looked_up']
          exact (below name child child' looked_up looked_up').same rest
    · refine everyDirectory_directory_iff.2 ⟨distinct, fun name child looked_up => ?_⟩
      rcases lookup_cases name with ⟨absent, -⟩ | ⟨found, child', found_up, looked_up'⟩
      · rw [absent] at looked_up
        cases looked_up
      · exact (below name child child' looked_up looked_up').distinct
    · refine everyDirectory_directory_iff.2 ⟨other_distinct, fun name child' looked_up' => ?_⟩
      rcases lookup_cases name with ⟨-, absent'⟩ | ⟨child, found', looked_up, -⟩
      · rw [absent'] at looked_up'
        cases looked_up'
      · exact (below name child child' looked_up looked_up').other_distinct

/-! ## What does not depend on the order -/

/-- What is seen of the entries is the same in some order if it is the same of each. -/
theorem Reordered.perm_map {α : Type}
    (reordered : (directory entries).Reordered (directory entries'))
    (view : Bytes → Node → α)
    (same_view : ∀ name child child', entries.lookup name = some child → child.Reordered child' →
      view name child' = view name child) :
    (entries'.map fun entry => view entry.1 entry.2).Perm
      (entries.map fun entry => view entry.1 entry.2) := by
  have seen_by_name {found : NodeEntries} (distinct : DistinctNames found) :
      found.map (fun entry => view entry.1 entry.2) =
        (found.map Prod.fst).filterMap fun name => (found.lookup name).map (view name) := by
    rw [List.filterMap_map, ← List.filterMap_eq_map]
    refine List.filterMap_congr fun entry member => ?_
    rw [Function.comp_apply, Function.comp_apply, lookup_of_mem distinct member]
    rfl
  rw [seen_by_name reordered.distinct.here, seen_by_name reordered.other_distinct.here]
  have same_names : (fun name => (entries'.lookup name).map (view name)) =
      fun name => (entries.lookup name).map (view name) := by
    funext name
    cases looked_up : entries.lookup name with
    | some child =>
      obtain ⟨child', looked_up', below⟩ := reordered.exists_lookup looked_up
      rw [looked_up', Option.map_some, same_view name child child' looked_up below]
      rfl
    | none =>
      cases looked_up' : entries'.lookup name with
      | none => rfl
      | some child' =>
        obtain ⟨child, found_up, -⟩ := reordered.symm.exists_lookup looked_up'
        rw [looked_up] at found_up
        cases found_up
  rw [same_names]
  exact reordered.perm_names.filterMap _

end Node

namespace FileSystem

/-- Two file systems that hold the same in the same places, in directories in any order. -/
structure Reordered (files other : FileSystem) : Prop where
  working : other.working = files.working
  tree : files.root.Reordered other.root

variable {files other : FileSystem}

theorem Reordered.sameShape (reordered : files.Reordered other) : files.SameShape other := by
  refine ⟨reordered.working, fun place => ?_⟩
  have shapes : Node.shape = Node.shape ∘ Node.shallow := funext fun node => node.shape_shallow.symm
  rw [shapes, ← Option.map_map, ← Option.map_map]
  exact congrArg (Option.map Node.shape) (reordered.tree.same place)

/-- Names that all differ can be sorted in one way only. -/
theorem outline_sort_eq {entries entries' : NodeEntries} (distinct : Node.DistinctNames entries)
    (perm : (outline entries').Perm (outline entries)) :
    outline (Sorting.sort byName entries') = outline (Sorting.sort byName entries) := by
  have names : (entries'.map Prod.fst).Perm (entries.map Prod.fst) := by
    have outlined := perm.map Prod.fst
    rwa [outline, outline, List.map_map, List.map_map] at outlined
  have other_distinct : (entries'.map Prod.fst).Nodup := names.nodup_iff.2 distinct
  have sorted : (outline (Sorting.sort byName entries)).Pairwise fun left right =>
      left.1 < right.1 := List.pairwise_map.2 (sorted_sort distinct)
  have other_sorted : (outline (Sorting.sort byName entries')).Pairwise fun left right =>
      left.1 < right.1 := List.pairwise_map.2 (sorted_sort other_distinct)
  have sorted_perm : (outline (Sorting.sort byName entries')).Perm
      (outline (Sorting.sort byName entries)) := by
    have outlined (found : NodeEntries) :
        (outline (Sorting.sort byName found)).Perm (outline found) :=
      (Sorting.perm_sort byName found).map _
    exact ((outlined entries').trans perm).trans (outlined entries).symm
  refine sorted_perm.eq_of_pairwise ?_ other_sorted sorted
  intro left right _ _ before after
  exact absurd (List.lt_trans before after) (List.lt_irrefl left.1)

/-- So both look alike from any root. -/
theorem Reordered.looksLike (reordered : files.Reordered other) (root : NativePath) :
    files.LooksLike other root := by
  have bytes (path : NativePath) : other.regularBytes path = files.regularBytes path := by
    rcases reordered.sameShape.locate_cases .target (by simp) path with
      ⟨problem, located, located'⟩ | ⟨place, node, node', located, located', -, held, held'⟩
    · rw [regularBytes, regularBytes, FileSystem.node, FileSystem.node, located, located']
    · have same : (other.at? place).map Node.shallow = (files.at? place).map Node.shallow :=
        reordered.tree.same place
      rw [held, held'] at same
      exact regularBytes_of_shallow (node_of_locate located') (node_of_locate located)
        (Option.some.inj same)
  refine ⟨fun path rel => ?_, fun path => reordered.sameShape.isFile_eq _, fun path => bytes _,
    fun path name => bytes _⟩
  refine reordered.sameShape.list_eq ?_ (root.join path) rel
  intro place entries entries' held held'
  obtain ⟨found, found_held, -, below⟩ := reordered.tree.exists_at? held
  obtain rfl := Option.some.inj (held'.symm.trans found_held)
  refine outline_sort_eq below.distinct.here
    (below.perm_map (fun name child => (name, child.shape)) ?_)
  intro name child child' _ same
  have shallow := Option.some.inj (same.same [])
  rw [← child.shape_shallow, ← child'.shape_shallow, shallow]

/-- A tree with two files in a directory beside another file. -/
def inOrder : FileSystem where
  root := .directory
    [(Utf8.ofString "lib", .directory
        [(Utf8.ofString "x.c", .file (Utf8.ofString "x")),
          (Utf8.ofString "y.c", .file (Utf8.ofString "y"))]),
      (Utf8.ofString "z.c", .file (Utf8.ofString "z"))]
  working := []

/-- The same tree with both directories in another order. -/
def outOfOrder : FileSystem where
  root := .directory
    [(Utf8.ofString "z.c", .file (Utf8.ofString "z")),
      (Utf8.ofString "lib", .directory
        [(Utf8.ofString "y.c", .file (Utf8.ofString "y")),
          (Utf8.ofString "x.c", .file (Utf8.ofString "x"))])]
  working := []

theorem reordered_inOrder : inOrder.Reordered outOfOrder := by
  have file_reordered (contents : Bytes) : (Node.file contents).Reordered (.file contents) :=
    .refl (Node.everyDirectory_of_check rfl)
  refine ⟨rfl, Node.reordered_directory_iff.2 ⟨by decide, by decide, ?_⟩⟩
  intro name child child' looked_up looked_up'
  have member := Node.mem_of_lookup looked_up
  simp only [List.mem_cons, Prod.mk.injEq, List.not_mem_nil, or_false] at member
  rcases member with ⟨rfl, rfl⟩ | ⟨rfl, rfl⟩
  · obtain rfl := Option.some.inj looked_up'
    refine Node.reordered_directory_iff.2 ⟨by decide, by decide, ?_⟩
    intro name child child' looked_up looked_up'
    have member := Node.mem_of_lookup looked_up
    simp only [List.mem_cons, Prod.mk.injEq, List.not_mem_nil, or_false] at member
    rcases member with ⟨rfl, rfl⟩ | ⟨rfl, rfl⟩
    · obtain rfl := Option.some.inj looked_up'
      exact file_reordered _
    · obtain rfl := Option.some.inj looked_up'
      exact file_reordered _
  · obtain rfl := Option.some.inj looked_up'
    exact file_reordered _

end FileSystem
end TreeBundle
