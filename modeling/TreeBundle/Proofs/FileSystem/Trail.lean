import TreeBundle.Proofs.FileSystem.Tree
import TreeBundle.Proofs.Path.Native
import TreeBundle.Proofs.Text.Utf8

/-!
# Trails

A trail is the names that lead down from a directory. It stands for a place in the tree and for a
relative path. The names of entries without backslashes are components of relative paths and of
paths on disk alike, so trails of such names and their paths determine each other.
-/
namespace TreeBundle
set_option autoImplicit false

/-- Names from a directory down. -/
abbrev Trail := List String

namespace Trail

def parts (trail : Trail) : List RelPath.Component :=
  trail.map String.toList

def place (trail : Trail) : Place :=
  trail.map Utf8.ofString

/-- The path of a trail relative to where it starts. -/
def rel (trail : Trail) : String :=
  RelPath.ofParts trail.parts

theorem place_eq (trail : Trail) : trail.parts.map Utf8.encode = trail.place := by
  rw [parts, List.map_map]
  rfl

theorem parts_append (front back : Trail) : (front ++ back).parts = front.parts ++ back.parts :=
  List.map_append

theorem place_append (front back : Trail) : (front ++ back).place = front.place ++ back.place :=
  List.map_append

end Trail

/-- What comes before the last name of a trail is cut where the trail is. -/
theorem Trail.exists_front_of_concat {front above rest : Trail} {name : String}
    (split : front ++ [name] = above ++ rest) (nonempty : rest ≠ []) :
    ∃ more, front = above ++ more := by
  obtain ⟨more, last, rfl⟩ := List.eq_nil_or_concat rest |>.resolve_left nonempty
  rw [List.concat_eq_append, ← List.append_assoc] at split
  exact ⟨more, (List.append_inj' split rfl).1⟩

/-- A name that is a component of relative paths and of paths on disk alike. -/
def IsFileName (name : String) : Prop :=
  RelPath.IsPlain name.toList ∧ '\x00' ∉ name.toList

theorem byte_mem_ofString {name : String} {c : Char} {byte : UInt8}
    (spelled : Utf8.encodeChar c = [byte]) (inside : c ∈ name.toList) :
    byte ∈ Utf8.ofString name :=
  List.mem_flatMap.2 ⟨c, inside, spelled ▸ List.mem_singleton_self byte⟩

/-- The name of an entry is a part of paths on disk, whatever its bytes are. -/
theorem isPart_of_entryName {name : Bytes} (proper : IsEntryName name) : NativePath.IsPart name :=
  ⟨proper.1, proper.2.1, proper.2.2.2.1⟩

theorem isPlain_of_entryName {name : String} (proper : IsEntryName (Utf8.ofString name))
    (no_backslash : '\\' ∉ name.toList) : RelPath.IsPlain name.toList := by
  obtain ⟨nonempty, not_here, not_up, no_slash, -⟩ := proper
  refine ⟨fun empty => nonempty ?_, fun same => not_here ?_, fun same => not_up ?_, ?_⟩
  · rw [Utf8.ofString, empty]
    rfl
  · rw [Utf8.ofString, same]
    rfl
  · rw [Utf8.ofString, same]
    rfl
  intro c inside
  have not_slash : c ≠ '/' := fun same => no_slash (byte_mem_ofString rfl (same ▸ inside))
  have not_backslash : c ≠ '\\' := fun same => no_backslash (same ▸ inside)
  simp [RelPath.isSeparator, not_slash, not_backslash]

theorem isFileName_of_entry {entries : NodeEntries} {name : String} {node : Node}
    (proper : ProperEntries entries) (no_backslash : NoBackslashIn entries)
    (member : (Utf8.ofString name, node) ∈ entries) : IsFileName name := by
  have entry_name := proper.names _ member
  exact ⟨isPlain_of_entryName entry_name fun inside =>
    no_backslash _ member (byte_mem_ofString rfl inside),
    fun inside => entry_name.2.2.2.2 (byte_mem_ofString rfl inside)⟩

namespace Trail

variable {trail : Trail}

theorem isNormal_parts (proper : ∀ name ∈ trail, IsFileName name) :
    RelPath.IsNormal trail.parts := by
  refine RelPath.isNormal_of_plain fun part member => ?_
  obtain ⟨name, inside, rfl⟩ := List.mem_map.1 member
  exact (proper name inside).1

theorem isFileName_concat {name : String} (proper : ∀ name ∈ trail, IsFileName name)
    (name_proper : IsFileName name) : ∀ other ∈ trail ++ [name], IsFileName other := by
  intro other member
  rcases List.mem_append.1 member with member | member
  · exact proper other member
  · exact List.mem_singleton.1 member ▸ name_proper

theorem isPart (proper : ∀ name ∈ trail, IsFileName name) :
    ∀ part ∈ trail.place, NativePath.IsPart part := by
  rw [← place_eq]
  exact NativePath.isPart_of_normal (isNormal_parts proper)

theorem zero_free (proper : ∀ name ∈ trail, IsFileName name) :
    ∀ part ∈ trail.place, 0x00 ∉ part := by
  intro part member
  obtain ⟨name, inside, rfl⟩ := List.mem_map.1 member
  exact fun zero => (proper name inside).2 ((Utf8.mem_encode_iff_of_ascii (by decide) _).1 zero)

theorem ofRelative_rel (proper : ∀ name ∈ trail, IsFileName name) :
    NativePath.ofRelative trail.rel = .ofParts trail.place := by
  rw [rel, NativePath.ofRelative_ofParts (isNormal_parts proper), place_eq]

theorem join_rel {name : String} (proper : ∀ name ∈ trail, IsFileName name)
    (name_proper : IsFileName name) : RelPath.join trail.rel name = (trail ++ [name]).rel := by
  rw [rel, RelPath.join_ofParts (isNormal_parts proper) name_proper.1, rel, parts_append]
  rfl

theorem splitLast_rel {name : String} (proper : ∀ other ∈ trail ++ [name], IsFileName other) :
    RelPath.splitLast (trail ++ [name]).rel = (trail.rel, name) := by
  have normal := isNormal_parts proper
  rw [parts_append] at normal
  rw [rel, parts_append, show parts [name] = [name.toList] from rfl,
    RelPath.splitLast_ofParts normal, String.ofList_toList]
  rfl

theorem parts_rel (proper : ∀ name ∈ trail, IsFileName name) :
    RelPath.parts trail.rel = trail.parts :=
  RelPath.parts_ofParts (isNormal_parts proper)

theorem normalize_rel (proper : ∀ name ∈ trail, IsFileName name) :
    RelPath.normalize trail.rel = trail.rel :=
  RelPath.normalize_ofParts (isNormal_parts proper)

theorem rel_inj {left right : Trail} (left_proper : ∀ name ∈ left, IsFileName name)
    (right_proper : ∀ name ∈ right, IsFileName name) (same : left.rel = right.rel) :
    left = right :=
  (List.map_inj_right fun _ _ => String.toList_inj.1).1
    (RelPath.ofParts_inj (isNormal_parts left_proper) (isNormal_parts right_proper) same)

/-- What the tree holds at a trail of proper entries has names without separators. -/
theorem isFileName_of_at? {node found : Node} (proper : node.EveryDirectory ProperEntries)
    (no_backslash : node.EveryDirectory NoBackslashIn) (held : node.at? trail.place = some found) :
    ∀ name ∈ trail, IsFileName name := by
  induction trail generalizing node with
  | nil => exact fun name member => absurd member List.not_mem_nil
  | cons first rest ih =>
    obtain ⟨entries, child, rfl, looked_up, at_rest⟩ := Node.directory_of_at?_cons held
    have at_child : (Node.directory entries).at? [Utf8.ofString first] = some child := by
      rw [Node.at?_directory_cons, looked_up]
      rfl
    intro name member
    rcases List.mem_cons.1 member with rfl | member
    · exact isFileName_of_entry proper.here no_backslash.here (Node.mem_of_lookup looked_up)
    · exact ih (proper.at at_child) (no_backslash.at at_child) at_rest name member

end Trail

end TreeBundle
