import TreeBundle.Proofs.Decide.Precedence
import TreeBundle.Proofs.FileSystem.Content
import TreeBundle.Proofs.FileSystem.Refused

/-!
# What of a file the shebang rule looks at

The rule inspects a line that is cut off, ended and decoded, yet it holds by the first two bytes of
a regular file alone: neither of them ends the line, both are within any limit that leaves room for
them, and nothing that is replaced decodes to either. A first line in turn depends on nothing past
its limit. A file that cannot be opened has no shebang, whatever it holds.
-/
namespace TreeBundle
set_option autoImplicit false

namespace FileSystem

/-- Bytes that agree up to a limit have the same first line within it. -/
theorem firstLineOf_congr {limit : Nat} {bytes others : Bytes}
    (agree : bytes.take limit = others.take limit) :
    firstLineOf limit bytes = firstLineOf limit others := by
  rw [firstLineOf, firstLineOf, agree]

end FileSystem

namespace RuleSet

/-- The mark comes before the end of the line exactly if it comes first at all. -/
theorem mark_prefix_iff (bytes : Bytes) :
    Utf8.encode shebangMark <+: bytes.takeWhile (· != FileSystem.lineFeed) ↔
      bytes.take 2 = [0x23, 0x21] := by
  have mark : Utf8.encode shebangMark = [0x23, 0x21] := by decide
  have no_line_feed : [0x23, 0x21].takeWhile (· != FileSystem.lineFeed) = [0x23, 0x21] := by decide
  rw [mark]
  constructor
  · intro comes_first
    have inside : [0x23, 0x21] <+: bytes := comes_first.trans (List.takeWhile_prefix _)
    exact (List.prefix_iff_eq_take.1 inside).symm
  · intro starts
    obtain ⟨rest, rfl⟩ : ∃ rest, bytes = [0x23, 0x21] ++ rest :=
      ⟨bytes.drop 2, by rw [← starts, List.take_append_drop]⟩
    rw [List.takeWhile_append, no_line_feed, if_pos rfl]
    exact List.prefix_append _ _

theorem startsWithMark_iff (files : FileSystem) (path : NativePath) :
    files.StartsWithMark path ↔
      ∃ contents, files.node path = .ok (.file contents) ∧ contents.take 2 = [0x23, 0x21] := by
  simp only [FileSystem.StartsWithMark, FileSystem.regularBytes_eq_ok_iff, mark_prefix_iff]

/-- The shebang rule holds exactly for the files without extension that are regular, links
followed, that may be opened, and whose first two bytes are `#` and `!`, if it is switched on; and
two files that agree up to a limit have the same first line within it. -/
theorem hasShebang_iff_first_two_bytes :
    (∀ (rules : RuleSet) (files : FileSystem) (name : String) (dir : NativePath),
      rules.hasShebang files name dir = true ↔
        rules.includeShebang = true ∧ FileName.extension name = "" ∧
          ∃ contents, files.node (dir.join (.ofString name)) = .ok (.file contents) ∧
            contents.take 2 = [0x23, 0x21]) ∧
    (∀ (limit : Nat) (files others : FileSystem) (path other : NativePath)
      (contents other_contents : Bytes), files.node path = .ok (.file contents) →
        others.node other = .ok (.file other_contents) →
        contents.take limit = other_contents.take limit →
        ∃ line, files.firstLine path limit = .ok line ∧
          others.firstLine other limit = .ok line) := by
  refine ⟨fun rules files name dir => ?_, ?_⟩
  · rw [hasShebang_iff, startsWithMark_iff]
  · intro limit files others path other contents other_contents found other_found agree
    refine ⟨FileSystem.firstLineOf limit contents, ?_, ?_⟩
    · rw [FileSystem.firstLine, FileSystem.regularBytes_eq_ok_iff.2 found]
      rfl
    · rw [FileSystem.firstLine, FileSystem.regularBytes_eq_ok_iff.2 other_found,
        FileSystem.firstLineOf_congr agree]
      rfl

/-- Two files that differ in the middle of what may be one character, the third byte after the
mark. -/
def marked : FileSystem where
  root := .directory
    [(Utf8.ofString "run", .file [0x23, 0x21, 0xE2, 0x82, 0xAC]),
      (Utf8.ofString "tool", .file [0x23, 0x21, 0xE2, 0x82, 0x0A])]
  working := []

theorem hasShebang_iff_first_two_bytes_marked :
    { forOwnSources with includeShebang := true }.hasShebang marked "run" (.ofString "/") = true ∧
    ∃ line, marked.firstLine (.ofString "/run") 4 = .ok line ∧
      marked.firstLine (.ofString "/tool") 4 = .ok line := by
  have run : marked.node (.ofString "/run") = .ok (.file [0x23, 0x21, 0xE2, 0x82, 0xAC]) := rfl
  have tool : marked.node (.ofString "/tool") = .ok (.file [0x23, 0x21, 0xE2, 0x82, 0x0A]) := rfl
  have no_extension : FileName.extension "run" = "" := by decide +kernel
  exact ⟨(hasShebang_iff_first_two_bytes.1 _ marked "run" (.ofString "/")).2
      ⟨rfl, no_extension, _, run, rfl⟩,
    hasShebang_iff_first_two_bytes.2 4 marked marked _ _ _ _ run tool rfl⟩

/-! ## Files that cannot be opened -/

/-- Rules that admit scripts too. -/
def forScripts : RuleSet :=
  { forOwnSources with includeShebang := true }

/-- A script that may not be opened. -/
def withheldScript : FileSystem where
  root := .directory [(Utf8.ofString "run", .lockedFile (Utf8.ofString "#!/bin/sh\n"))]
  working := []

/-- A script to which a link leads through too many others. -/
def windingScript : FileSystem where
  root := .directory
    [(Utf8.ofString "s", .link (.ofString ".")),
      (Utf8.ofString "script", .file (Utf8.ofString "#!/bin/sh\n")),
      (Utf8.ofString "run", .link (FileSystem.longWay.join (.ofString "script")))]
  working := []

/-- What a file begins with does not decide alone: a script that may not be opened has no shebang,
nor has one that is reached through too many links. -/
theorem unopened_script_has_no_shebang :
    ¬(∀ (rules : RuleSet) (files : FileSystem) (name : String) (dir : NativePath),
      rules.hasShebang files name dir = true ↔
        rules.includeShebang = true ∧ FileName.extension name = "" ∧
          ∃ contents, files.FileLiesAt (dir.join (.ofString name)) contents ∧
            contents.take 2 = [0x23, 0x21]) ∧
    (withheldScript.FileLiesAt (.ofString "/run") (Utf8.ofString "#!/bin/sh\n") ∧
      forScripts.hasShebang withheldScript "run" (.ofString "/") = false) ∧
    windingScript.FileLiesAt (.ofString "/run") (Utf8.ofString "#!/bin/sh\n") ∧
    forScripts.hasShebang windingScript "run" (.ofString "/") = false := by
  have withheld : withheldScript.FileLiesAt (.ofString "/run") (Utf8.ofString "#!/bin/sh\n") :=
    ⟨0, [Utf8.ofString "run"], rfl⟩
  have winding : windingScript.FileLiesAt (.ofString "/run") (Utf8.ofString "#!/bin/sh\n") :=
    ⟨FileSystem.linkLimit + 2, [Utf8.ofString "script"], rfl⟩
  have withheld_plain : forScripts.hasShebang withheldScript "run" (.ofString "/") = false := by
    decide +kernel
  have winding_plain : forScripts.hasShebang windingScript "run" (.ofString "/") = false := by
    decide +kernel
  refine ⟨fun claimed => ?_, ⟨withheld, withheld_plain⟩, winding, winding_plain⟩
  have no_extension : FileName.extension "run" = "" := by decide +kernel
  have marked := (claimed forScripts withheldScript "run" (.ofString "/")).2
    ⟨rfl, no_extension, _, withheld, rfl⟩
  rw [withheld_plain] at marked
  cases marked

end RuleSet
end TreeBundle
