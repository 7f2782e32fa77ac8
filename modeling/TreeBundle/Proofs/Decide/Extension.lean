import Mathlib.Data.List.TakeWhile
import TreeBundle.Decide.FileName
import TreeBundle.Proofs.Text.Utf8

/-!
# The split of a name at its last dot

A name is split at its last dot if something other than a dot comes before it, and is all stem
otherwise. What the two parts are is settled by that, and so is the split by what they are. On the
bytes of the name this is one comparison of offsets, of the last dot and of the end of the dots in
front, and a dot's byte belongs to no other character, so the cut is between two of them.
-/
namespace TreeBundle.FileName
set_option autoImplicit false

/-! ## Characters -/

/-- A dot comes somewhere after a character that is none. -/
def HasInnerDot (name : List Char) : Prop :=
  ∃ front back, name = front ++ '.' :: back ∧ ∃ c ∈ front, c ≠ '.'

theorem isDot_eq_false_iff (c : Char) : isDot c = false ↔ c ≠ '.' := by
  simp [isDot]

/-- What is left after the dots in front does not start with a dot. -/
theorem head_ne_of_dropWhile {name rest : List Char} {c : Char}
    (body : name.dropWhile isDot = c :: rest) : c ≠ '.' := by
  have stops := List.head?_dropWhile_not isDot name
  rw [body] at stops
  exact (isDot_eq_false_iff c).1 stops

theorem hasInnerDot_iff (name : List Char) : HasInnerDot name ↔ '.' ∈ name.dropWhile isDot := by
  constructor
  · rintro ⟨front, back, rfl, c, inside, no_dot⟩
    have stops : front.dropWhile isDot ≠ [] := by
      intro all_dots
      have dot := List.dropWhile_eq_nil_iff.1 all_dots c inside
      rw [(isDot_eq_false_iff c).2 no_dot] at dot
      cases dot
    rw [List.dropWhile_append, if_neg (by simpa using stops)]
    simp
  · intro dotted
    obtain ⟨front, back, split⟩ := List.append_of_mem dotted
    cases front with
    | nil => exact absurd rfl (head_ne_of_dropWhile split)
    | cons c front =>
      have no_dot := head_ne_of_dropWhile split
      refine ⟨name.takeWhile isDot ++ c :: front, back, ?_, c, by simp, no_dot⟩
      rw [List.append_assoc, ← split, List.takeWhile_append_dropWhile]

/-- Two cuts at a dot that no dot follows are the same. -/
theorem cut_unique {stem other bare other_bare : List Char}
    (last : '.' ∉ bare) (other_last : '.' ∉ other_bare)
    (same : stem ++ '.' :: bare = other ++ '.' :: other_bare) :
    stem = other ∧ bare = other_bare := by
  rcases List.append_eq_append_iff.1 same with ⟨more, rfl, behind⟩ | ⟨more, rfl, behind⟩
  · cases more with
    | nil => simpa using behind
    | cons c more =>
      obtain ⟨-, rfl⟩ := List.cons.inj behind
      simp at last
  · cases more with
    | nil => simpa using behind.symm
    | cons c more =>
      obtain ⟨-, rfl⟩ := List.cons.inj behind
      simp at other_last

/-- Read from behind, characters without a dot in them are all passed; otherwise those behind the
last dot are. -/
theorem lastDot_cases (body : List Char) :
    ('.' ∉ body ∧ body.reverse.dropWhile (!isDot ·) = []) ∨
      ∃ front bare, body = front ++ '.' :: bare ∧ '.' ∉ bare ∧
        body.reverse.takeWhile (!isDot ·) = bare.reverse ∧
        body.reverse.dropWhile (!isDot ·) = '.' :: front.reverse := by
  have split : body.reverse.takeWhile (!isDot ·) ++ body.reverse.dropWhile (!isDot ·) =
      body.reverse := List.takeWhile_append_dropWhile
  have behind : '.' ∉ body.reverse.takeWhile (!isDot ·) := by
    intro dotted
    have no_dot := List.mem_takeWhile_imp dotted
    simp [isDot] at no_dot
  have stops := List.head?_dropWhile_not (!isDot ·) body.reverse
  generalize body.reverse.takeWhile (!isDot ·) = passed at split behind ⊢
  generalize body.reverse.dropWhile (!isDot ·) = left at split stops ⊢
  obtain rfl : body = left.reverse ++ passed.reverse := by
    rw [← List.reverse_append, split, List.reverse_reverse]
  cases left with
  | nil => exact Or.inl ⟨by simpa using behind, rfl⟩
  | cons last front =>
    obtain rfl : last = '.' := by simpa [isDot] using stops
    refine Or.inr ⟨front.reverse, passed.reverse, ?_, ?_, ?_, ?_⟩
    · rw [List.reverse_cons, List.append_assoc, List.singleton_append]
    · simpa using behind
    · rw [List.reverse_reverse]
    · rw [List.reverse_reverse]

/-- What is split off starts at the last dot, as long as that is no dot in front. -/
theorem splitChars_cases (name : List Char) :
    (¬HasInnerDot name ∧ splitChars name = (name, [])) ∨
      ∃ stem bare, name = stem ++ '.' :: bare ∧ '.' ∉ bare ∧ (∃ c ∈ stem, c ≠ '.') ∧
        splitChars name = (stem, '.' :: bare) := by
  have whole : name.takeWhile isDot ++ name.dropWhile isDot = name :=
    List.takeWhile_append_dropWhile
  rcases lastDot_cases (name.dropWhile isDot) with
    ⟨no_dot, passed⟩ | ⟨front, bare, body, behind, passed, left⟩
  · refine Or.inl ⟨mt (hasInnerDot_iff name).1 no_dot, ?_⟩
    simp [splitChars, passed]
  · refine Or.inr ⟨name.takeWhile isDot ++ front, bare, ?_, behind, ?_, ?_⟩
    · rw [List.append_assoc, ← body, whole]
    · cases front with
      | nil => exact absurd rfl (head_ne_of_dropWhile body)
      | cons c more => exact ⟨c, by simp, head_ne_of_dropWhile body⟩
    · simp [splitChars, passed, left]

/-- An extension is missing, or starts with the only dot in it. -/
theorem extension_cases (name : String) :
    extension name = "" ∨ ∃ bare, extension name = "." ++ bare ∧ '.' ∉ bare.toList := by
  rw [extension, splitExtension]
  rcases splitChars_cases name.toList with ⟨-, split⟩ | ⟨stem, bare, -, behind, -, split⟩
  · left
    rw [split]
  · right
    refine ⟨String.ofList bare, ?_, by rwa [String.toList_ofList]⟩
    rw [split]
    exact String.toList_inj.1 (by simp)

/-- A stem and an extension that are together the name. The extension is there if a dot comes after
a character that is none, and then starts with its only dot behind a stem that holds such a
character. -/
structure IsExtensionSplit (name stem extension : String) : Prop where
  whole : stem ++ extension = name
  spelled : extension = "" ∨ ∃ bare, extension = "." ++ bare ∧ '.' ∉ bare.toList
  present : extension ≠ "" ↔ HasInnerDot name.toList
  named : extension ≠ "" → ∃ c ∈ stem.toList, c ≠ '.'

theorem isExtensionSplit_splitExtension (name : String) :
    IsExtensionSplit name (splitExtension name).1 (splitExtension name).2 := by
  rw [splitExtension]
  rcases splitChars_cases name.toList with
    ⟨no_dot, split⟩ | ⟨stem, bare, whole, behind, named, split⟩
  · rw [split]
    exact ⟨by simp, Or.inl rfl, by simp [no_dot], by simp⟩
  · rw [split]
    have nonempty : String.ofList ('.' :: bare) ≠ "" := by simp
    have spelled : String.ofList ('.' :: bare) = "." ++ String.ofList bare :=
      String.toList_inj.1 (by simp)
    refine ⟨?_, Or.inr ⟨String.ofList bare, spelled, by rwa [String.toList_ofList]⟩, ?_, ?_⟩
    · rw [← String.ofList_append, ← whole, String.ofList_toList]
    · exact iff_of_true nonempty ⟨stem, bare, whole, named⟩
    · intro _
      rwa [String.toList_ofList]

/-- No other two parts are like these. -/
theorem IsExtensionSplit.splitExtension_eq {name stem extension : String}
    (split : IsExtensionSplit name stem extension) : splitExtension name = (stem, extension) := by
  rw [splitExtension]
  rcases splitChars_cases name.toList with
    ⟨no_dot, found⟩ | ⟨front, last, whole, behind, named, found⟩
  · have none : extension = "" := not_not.1 (mt split.present.1 no_dot)
    have all : stem = name := by simpa [none] using split.whole
    rw [found, none, all, String.ofList_toList]
  · have dotted : extension ≠ "" := split.present.2 ⟨front, last, whole, named⟩
    obtain ⟨bare, rfl, bare_behind⟩ := split.spelled.resolve_left dotted
    have chars : stem.toList ++ '.' :: bare.toList = front ++ '.' :: last := by
      rw [← whole, ← split.whole]
      simp
    obtain ⟨rfl, rfl⟩ := cut_unique bare_behind behind chars
    have spelled : String.ofList ('.' :: bare.toList) = "." ++ bare :=
      String.toList_inj.1 (by simp)
    rw [found, String.ofList_toList, spelled]

/-! ## Bytes -/

/-- The byte of a dot. -/
def dotByte : UInt8 := 0x2E

/-- Where the last dot stands among bytes. -/
def lastDot? : Bytes → Option Nat
  | [] => none
  | byte :: rest =>
    match lastDot? rest with
    | some offset => some (offset + 1)
    | none => if byte = dotByte then some 0 else none

/-- Where the bytes of a name are cut: at the last dot if that does not come before the end of the
dots in front, and behind all of them otherwise. -/
def cutOffset (bytes : Bytes) : Nat :=
  let leading := (bytes.takeWhile (· == dotByte)).length
  match lastDot? bytes with
  | some offset => if leading ≤ offset then offset else bytes.length
  | none => bytes.length

theorem lastDot?_of_not_mem {bytes : Bytes} (no_dot : dotByte ∉ bytes) : lastDot? bytes = none := by
  induction bytes with
  | nil => rfl
  | cons byte rest ih =>
    obtain ⟨different, no_dot⟩ := not_or.1 (mt List.mem_cons.2 no_dot)
    rw [lastDot?, ih no_dot]
    exact if_neg (Ne.symm different)

theorem lastDot?_append (front : Bytes) {back : Bytes} (behind : dotByte ∉ back) :
    lastDot? (front ++ dotByte :: back) = some front.length := by
  induction front with
  | nil => simp [lastDot?, lastDot?_of_not_mem behind]
  | cons byte front ih => simp [lastDot?, ih]

/-- Where only dots in front are dots, nothing is cut off. -/
theorem cutOffset_of_leading {dots body : Bytes} (all : ∀ byte ∈ dots, byte = dotByte)
    (behind : dotByte ∉ body) : cutOffset (dots ++ body) = (dots ++ body).length := by
  have leads : dots.length ≤ ((dots ++ body).takeWhile (· == dotByte)).length := by
    rw [List.takeWhile_append_of_pos (by simpa using all), List.length_append]
    omega
  rw [cutOffset]
  rcases List.eq_nil_or_concat dots with rfl | ⟨front, last, rfl⟩
  · rw [List.nil_append, lastDot?_of_not_mem behind]
  · obtain rfl : last = dotByte := all last (by simp)
    rw [List.concat_eq_append, List.append_assoc, List.singleton_append] at leads ⊢
    rw [lastDot?_append front behind]
    simp only [List.length_append, List.length_cons, List.length_nil] at leads ⊢
    rw [if_neg (by omega)]

/-- A dot behind another byte is cut at if it is the last one. -/
theorem cutOffset_of_inner {front back : Bytes} (named : ∃ byte ∈ front, byte ≠ dotByte)
    (behind : dotByte ∉ back) : cutOffset (front ++ dotByte :: back) = front.length := by
  obtain ⟨byte, inside, different⟩ := named
  have stops : (front.takeWhile (· == dotByte)).length ≠ front.length := by
    intro all
    have same := List.takeWhile_prefix (· == dotByte) |>.eq_of_length all
    have dot := List.takeWhile_eq_self_iff.1 same byte inside
    exact different (beq_iff_eq.1 dot)
  have leading : ((front ++ dotByte :: back).takeWhile (· == dotByte)).length ≤ front.length := by
    rw [List.takeWhile_append, if_neg stops]
    exact (List.takeWhile_prefix _).length_le
  rw [cutOffset, lastDot?_append front behind]
  exact if_pos leading

/-! ## Names and their bytes -/

theorem dotByte_mem_encode_iff (text : List Char) : dotByte ∈ Utf8.encode text ↔ '.' ∈ text := by
  have ascii : '.'.toNat < 0x80 := by decide
  exact Utf8.mem_encode_iff_of_ascii ascii text

theorem exists_byte_ne {text : List Char} (named : ∃ c ∈ text, c ≠ '.') :
    ∃ byte ∈ Utf8.encode text, byte ≠ dotByte := by
  obtain ⟨c, inside, no_dot⟩ := named
  obtain ⟨lead, tail, -, bytes, -⟩ := Utf8.encodeChar_spells c
  have first : lead ∈ Utf8.encodeChar c := by simp [bytes]
  refine ⟨lead, List.mem_flatMap.2 ⟨c, inside, first⟩, ?_⟩
  rintro rfl
  have code := (Utf8.mem_encodeChar_iff_of_ascii (by decide) c).1 first
  exact no_dot (Char.toNat_inj.1 code)

theorem eq_dotByte_of_mem {name : List Char} {byte : UInt8}
    (inside : byte ∈ Utf8.encode (name.takeWhile isDot)) : byte = dotByte := by
  obtain ⟨c, leads, inside⟩ := List.mem_flatMap.1 inside
  obtain rfl : c = '.' := by simpa [isDot] using List.mem_takeWhile_imp leads
  exact List.mem_singleton.1 inside

/-- The comparison of offsets cuts where the stem ends. -/
theorem cutOffset_ofString (name : String) :
    cutOffset (Utf8.ofString name) = (Utf8.ofString (splitExtension name).1).length := by
  rw [splitExtension]
  rcases splitChars_cases name.toList with
    ⟨no_dot, split⟩ | ⟨stem, bare, whole, behind, named, split⟩
  · have parts : Utf8.ofString name = Utf8.encode (name.toList.takeWhile isDot) ++
        Utf8.encode (name.toList.dropWhile isDot) := by
      rw [Utf8.encode, Utf8.encode, ← List.flatMap_append, List.takeWhile_append_dropWhile]
      rfl
    have body : dotByte ∉ Utf8.encode (name.toList.dropWhile isDot) := by
      rwa [dotByte_mem_encode_iff, ← hasInnerDot_iff]
    rw [split, String.ofList_toList, parts]
    exact cutOffset_of_leading (fun byte inside => eq_dotByte_of_mem inside) body
  · have parts : Utf8.ofString name = Utf8.encode stem ++ dotByte :: Utf8.encode bare := by
      rw [Utf8.ofString, whole, Utf8.encode, List.flatMap_append]
      rfl
    have rest : dotByte ∉ Utf8.encode bare := by rwa [dotByte_mem_encode_iff]
    rw [split, parts, cutOffset_of_inner (exists_byte_ne named) rest, Utf8.ofString,
      String.toList_ofList]

/-- The split of a name is the only one at its last dot, for all that comes with it: the parts are
the name, and the extension is missing or starts with its only dot, which it does if a dot comes
after another character, and then such a character is in the stem. The offset that comes from
comparing where the last dot stands with how many bytes the dots in front are is one between
characters, and cuts the bytes of the name into those of the stem and of the extension. -/
theorem splitExtension_unique (name : String) :
    (∀ stem extension : String,
      splitExtension name = (stem, extension) ↔ IsExtensionSplit name stem extension) ∧
    String.Pos.Raw.IsValid name ⟨cutOffset (Utf8.ofString name)⟩ ∧
    Utf8.ofString (splitExtension name).1 =
      (Utf8.ofString name).take (cutOffset (Utf8.ofString name)) ∧
    Utf8.ofString (splitExtension name).2 =
      (Utf8.ofString name).drop (cutOffset (Utf8.ofString name)) := by
  have split := isExtensionSplit_splitExtension name
  have bytes : Utf8.ofString name =
      Utf8.ofString (splitExtension name).1 ++ Utf8.ofString (splitExtension name).2 := by
    rw [← Utf8.ofString_append, split.whole]
  refine ⟨fun stem extension => ⟨fun found => ?_, IsExtensionSplit.splitExtension_eq⟩, ?_, ?_, ?_⟩
  · rwa [found] at split
  · rw [String.Pos.Raw.isValid_iff_exists_append]
    refine ⟨_, _, split.whole.symm, ?_⟩
    rw [cutOffset_ofString, Utf8.length_ofString]
    rfl
  · rw [cutOffset_ofString, bytes, List.take_left]
  · rw [cutOffset_ofString, bytes, List.drop_left]

example : splitExtension "..é.." = ("..é.", ".") ∧ cutOffset (Utf8.ofString "..é..") = 5 := by
  decide +kernel

end TreeBundle.FileName
