import TreeBundle.Decide.Decision
import TreeBundle.Decide.FileName
import TreeBundle.FileSystem.Read
import TreeBundle.Rules.RuleSet

/-!
# Classifying files

The rules are tried in order on a file's name; only the last one looks into the file.
-/
namespace TreeBundle.RuleSet
set_option autoImplicit false

def shebangMark : List Char := ['#', '!']

/-- Whether a file without extension starts with `#!`. A file that cannot be read does not. -/
def hasShebang (rules : RuleSet) (files : FileSystem) (name : String) (dir : NativePath) : Bool :=
  rules.includeShebang && FileName.extension name == "" &&
    match files.firstLine (dir.join (.ofString name)) FileSystem.firstLineLimit with
    | .ok line => shebangMark.isPrefixOf line.toList
    | .error _ => false

/-- Whether a rule applies to a file in a directory. -/
def applies (rules : RuleSet) (files : FileSystem) (name : String) (dir : NativePath) :
    RuleKind → Bool
  | .excludeFilename => rules.isExcludedFilename name
  | .excludeExtension => rules.isExcludedExtension (FileName.extension name)
  | .excludeRegex => rules.matchesExcludePattern name
  | .includeFilename => rules.isIncludedFilename name
  | .includeExtension =>
    let extension := FileName.extension name
    extension != "" && rules.isIncludedExtension extension
  | .includeRegex => rules.matchesIncludePattern name
  | .shebang => rules.hasShebang files name dir
  | .byDefault => true

/-- The rules that can decide a file, in order; the rest is left to the default. -/
def fileRules : List RuleKind :=
  RuleKind.all.filter (· != .byDefault)

def decide (rules : RuleSet) (files : FileSystem) (name : String) (dir : NativePath) : Decision :=
  .byRule ((fileRules.find? (rules.applies files name dir)).getD .byDefault)

def admits (rules : RuleSet) (files : FileSystem) (name : String) (dir : NativePath) : Bool :=
  (rules.decide files name dir).verdict.isAdmitted

end TreeBundle.RuleSet
