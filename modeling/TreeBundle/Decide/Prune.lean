import TreeBundle.Rules.RuleSet

/-!
# Pruning directories

Before a directory is entered, excluded directories are cut: the directory itself, or some of its
subdirectories.
-/
namespace TreeBundle
set_option autoImplicit false

structure Pruning where
  /-- Whether the files of the directory are looked at. -/
  processCurrent : Bool
  /-- The subdirectories that are kept. -/
  kept : List String
  /-- The directories that were cut, in normal form. -/
  cut : List String
  deriving DecidableEq, Repr

namespace RuleSet

def keepsChild (rules : RuleSet) (current name : String) : Bool :=
  !rules.isExcludedDir (RelPath.join current name)

def prune (rules : RuleSet) (rel : String) (subdirs : List String) : Pruning :=
  let current := RelPath.normalize rel
  if rules.isExcludedDir current then ⟨false, [], [current]⟩
  else
    let kept := subdirs.filter (rules.keepsChild current)
    let cut := (subdirs.filter (!rules.keepsChild current ·)).map (RelPath.join current)
    ⟨true, kept, cut⟩

/-- The first excluded one of a directory and those that the names lead to from it. -/
def firstExcluded (rules : RuleSet) (dir : String) : List String → Option String
  | [] => if rules.isExcludedDir dir then some dir else none
  | name :: rest =>
    if rules.isExcludedDir dir then some dir
    else rules.firstExcluded (RelPath.join dir name) rest

/-- The first directory on the way to a file that is excluded, if any. -/
def prunedAncestor (rules : RuleSet) (file : String) : Option String :=
  let names := Text.pieces (· == '/') (RelPath.normalize file).toList
  rules.firstExcluded RelPath.root (names.dropLast.map String.ofList)

end RuleSet
end TreeBundle
