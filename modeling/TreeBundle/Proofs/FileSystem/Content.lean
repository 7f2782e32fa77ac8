import TreeBundle.FileSystem.Read
import TreeBundle.Proofs.Text.Lossy

/-!
# What is read of a file

A regular file is read as the text that its bytes show, with their number and whether something had
to be replaced. Nothing is exactly if the bytes are valid, and then the text encodes to them; in no
other case does it.
-/
namespace TreeBundle.FileSystem
set_option autoImplicit false

theorem regularBytes_eq_ok_iff {files : FileSystem} {path : NativePath} {contents : Bytes} :
    files.regularBytes path = .ok contents ↔ files.node path = .ok (.file contents) := by
  rw [regularBytes]
  split
  · next found => simp [found]
  · next found => simp [found]
  · next other _ found => simpa [found] using other contents
  · next problem found => simp [found]

theorem size_contentOf (bytes : Bytes) : (contentOf bytes).size = bytes.length := by
  rw [contentOf]
  split <;> rfl

theorem text_contentOf (bytes : Bytes) : (contentOf bytes).text = Utf8.lossyString bytes := by
  rw [contentOf]
  cases decoded : Utf8.string? bytes with
  | none => rfl
  | some text => exact (Utf8.lossyString_of_string? decoded).symm

theorem lossy_contentOf_eq_false_iff (bytes : Bytes) :
    (contentOf bytes).lossy = false ↔ bytes.toByteArray.IsValidUTF8 := by
  rw [← Utf8.isSome_string?_iff, contentOf]
  cases Utf8.string? bytes <;> simp

/-- No text encodes to bytes that something was replaced in. -/
theorem toUTF8_text_contentOf_iff (bytes : Bytes) :
    (contentOf bytes).text.toUTF8 = bytes.toByteArray ↔ (contentOf bytes).lossy = false := by
  rw [lossy_contentOf_eq_false_iff]
  constructor
  · intro same
    rw [← same]
    exact String.isValidUTF8 _
  · intro valid
    obtain ⟨text, decoded⟩ := Option.isSome_iff_exists.1 ((Utf8.isSome_string?_iff bytes).2 valid)
    rw [text_contentOf, Utf8.lossyString_of_string? decoded, ← Utf8.toByteArray_ofString,
      ← Utf8.string?_eq_some_iff.1 decoded]

theorem shows_text_contentOf_iff {bytes : Bytes} {text : String} :
    Utf8.Shows bytes text.toList ↔ text = (contentOf bytes).text := by
  rw [Utf8.shows_iff, text_contentOf, Utf8.lossyString, ← String.toList_inj, String.toList_ofList]

/-- Reading a regular file, also through links, loses nothing silently. The size is the number of
bytes. They count as lossy unless they are valid UTF-8, and the text encodes to the bytes in just
the cases that do not count as lossy. In all cases it is the one text that the bytes show: their
encoded characters in order, with one replacement for each maximal broken subpart. -/
theorem content_loses_nothing {files : FileSystem} {path : NativePath} {bytes : Bytes}
    (regular : files.node path = .ok (.file bytes)) :
    ∃ content, files.content path = .ok content ∧
      content.size = bytes.length ∧
      (content.lossy = false ↔ bytes.toByteArray.IsValidUTF8) ∧
      (content.text.toUTF8 = bytes.toByteArray ↔ content.lossy = false) ∧
      (∀ text : String, Utf8.Shows bytes text.toList ↔ text = content.text) := by
  refine ⟨contentOf bytes, ?_, size_contentOf bytes, lossy_contentOf_eq_false_iff bytes,
    toUTF8_text_contentOf_iff bytes, fun text => shows_text_contentOf_iff⟩
  rw [content, regularBytes_eq_ok_iff.2 regular]
  rfl

/-- A file with a character that is cut off and a byte that starts none, and a link to it. -/
def cutOff : FileSystem where
  root := .directory
    [(Utf8.ofString "a", .file [0x61, 0xE2, 0x82, 0xFF, 0xF0, 0x9F, 0x98, 0x80]),
      (Utf8.ofString "b", .link "a")]
  working := []

/-- Both are replaced once, and the text no longer encodes to the bytes. -/
theorem content_loses_nothing_cutOff :
    cutOff.node (.ofString "/b") =
        .ok (.file [0x61, 0xE2, 0x82, 0xFF, 0xF0, 0x9F, 0x98, 0x80]) ∧
      ∃ content, cutOff.content (.ofString "/b") = .ok content ∧ content.size = 8 ∧
        content.lossy = true ∧
        content.text.toUTF8 ≠
          ([0x61, 0xE2, 0x82, 0xFF, 0xF0, 0x9F, 0x98, 0x80] : Bytes).toByteArray ∧
        content.text = "a\uFFFD\uFFFD😀" := by
  have regular : cutOff.node (.ofString "/b") =
      .ok (.file [0x61, 0xE2, 0x82, 0xFF, 0xF0, 0x9F, 0x98, 0x80]) := by rfl
  obtain ⟨content, found, size, valid, faithful, shown⟩ := content_loses_nothing regular
  have lossy : content.lossy = true := by
    rw [← Bool.not_eq_false, valid]
    decide
  have text : "a\uFFFD\uFFFD😀" = content.text := by
    rw [← shown, Utf8.shows_iff]
    decide +kernel
  refine ⟨regular, content, found, size, lossy, ?_, text.symm⟩
  rw [Ne, faithful, lossy]
  decide

end TreeBundle.FileSystem
