import TreeBundle.Explain
import TreeBundle.Proofs.FileSystem.Tree
import TreeBundle.Proofs.Path.Prefix
import TreeBundle.Proofs.Rules.RuleSet

/-!
# Explaining absolute paths

A path is explained by its normal form below the root alone. So a path that lies below an absolute
root is explained as the relative path it was made from, whatever slashes, dots and backslashes
either of them is spelled with.
-/
namespace TreeBundle
set_option autoImplicit false

variable {rules : RuleSet} {files : FileSystem} {root base path : NativePath}

theorem explain_congr {left right : NativePath}
    (same : relativeForm root left = relativeForm root right) :
    explain rules files root left = explain rules files root right := by
  rw [explain, explain, same]

theorem relativeForm_of_relative (root : NativePath) (relative : path.isAbsolute = false) :
    relativeForm root path = RelPath.normalize path.text := by
  rw [relativeForm, if_neg (by simp [relative])]

/-- Put below the root in any of its spellings, a relative path keeps its normal form. -/
theorem relativeForm_join (absolute : root.isAbsolute = true) (same : base.same root = true)
    (relative : path.isAbsolute = false) :
    relativeForm root (base.join path) = RelPath.normalize path.text := by
  have base_absolute := NativePath.isAbsolute_of_same absolute same
  have nonempty := NativePath.bytes_ne_nil_of_absolute base_absolute
  have joined_absolute : (base.join path).isAbsolute = true := by
    rw [NativePath.isAbsolute_join nonempty relative, base_absolute]
  obtain ⟨rest, stripped, parts_eq⟩ := NativePath.relativeTo?_join absolute same relative
  rw [relativeForm, if_pos joined_absolute, stripped, Option.getD_some, RelPath.normalize_eq,
    parts_eq, ← RelPath.normalize_eq]

/-- Explaining an absolute path below an absolute root is explaining the relative one: the whole
explanation and the events are the same, for every spelling of the root and of the relative path,
and also where the absolute path spells the root in another way. Both are about the normal form of
the relative path. -/
theorem explain_join (rules : RuleSet) (files : FileSystem) (root path : NativePath)
    (absolute : root.isAbsolute = true) (relative : path.isAbsolute = false) :
    explain rules files root (root.join path) = explain rules files root path ∧
    (∀ base : NativePath, base.same root = true →
      explain rules files root (base.join path) = explain rules files root path) ∧
    (explain rules files root path).1.path = RelPath.normalize path.text := by
  have form := relativeForm_of_relative root relative
  have below : ∀ base : NativePath, base.same root = true →
      explain rules files root (base.join path) = explain rules files root path := by
    intro base same
    apply explain_congr
    rw [relativeForm_join absolute same relative, form]
  refine ⟨below root ?_, below, form⟩
  exact beq_self_eq_true root.components

theorem explain_join_respelled :
    (NativePath.ofString "//src/./").isAbsolute = true ∧
    (NativePath.ofString ".//a/..\\x.c/.").isAbsolute = false ∧
    explain .forOwnSources .vendored (.ofString "//src/./")
        (.ofString "//src/././/a/..\\x.c/.") =
      explain .forOwnSources .vendored (.ofString "//src/./") (.ofString ".//a/..\\x.c/.") := by
  have absolute : (NativePath.ofString "//src/./").isAbsolute = true := by decide +kernel
  have relative : (NativePath.ofString ".//a/..\\x.c/.").isAbsolute = false := by decide +kernel
  exact ⟨absolute, relative, (explain_join .forOwnSources .vendored _ _ absolute relative).1⟩

end TreeBundle
