import TreeBundle.Path.Relative
import TreeBundle.Pattern.Compile
import TreeBundle.Rules.Tables

/-!
# Compiled rules

What the decisions read: extensions with their leading dot, directories and files in normal form,
and compiled patterns.
-/
namespace TreeBundle
set_option autoImplicit false

structure RuleSet where
  includeExtensions : List String
  excludeExtensions : List String
  includeFilenames : List String
  excludeFilenames : List String
  includePatterns : List Pattern.Program
  excludePatterns : List Pattern.Program
  includeShebang : Bool
  excludeDirs : List String
  alwaysIncludeFiles : List String

/-- A pattern that does not compile, with the table it stands in. -/
structure BadPattern where
  table : Table
  pattern : String
  cause : Pattern.PatternError
  deriving DecidableEq, Repr

/-- The message up to the description of the cause. -/
def BadPattern.message (problem : BadPattern) : String :=
  "Invalid " ++ problem.table.name ++ " pattern '" ++ problem.pattern ++ "': "

namespace RuleSet

def normalizeExtension (extension : String) : String :=
  if extension.toList.head? = some '.' then extension else "." ++ extension

def compilePattern (table : Table) (pattern : String) : Except BadPattern Pattern.Program :=
  (Pattern.compile pattern).mapError fun cause => ⟨table, pattern, cause⟩

/-- The items without those that occurred before. -/
def firstOccurrences (items : List String) : List String :=
  items.foldl (fun kept item => if kept.contains item then kept else kept ++ [item]) []

def compile (tables : RuleTables) : Except BadPattern RuleSet := do
  let includePatterns ← tables.includeRegexes.mapM (compilePattern .includeRegexes)
  let excludePatterns ← tables.excludeRegexes.mapM (compilePattern .excludeRegexes)
  return {
    includeExtensions := tables.includeExtensions.toList.map normalizeExtension
    excludeExtensions := tables.excludeExtensions.toList.map normalizeExtension
    includeFilenames := tables.includeFilenames.toList
    excludeFilenames := tables.excludeFilenames.toList
    includePatterns
    excludePatterns
    includeShebang := tables.includeShebang
    excludeDirs := firstOccurrences (tables.excludeDirs.toList.map RelPath.normalize)
    alwaysIncludeFiles := firstOccurrences (tables.alwaysIncludeFiles.map RelPath.normalize) }

def isExcludedFilename (rules : RuleSet) (name : String) : Bool :=
  rules.excludeFilenames.contains name

def isExcludedExtension (rules : RuleSet) (extension : String) : Bool :=
  rules.excludeExtensions.contains extension

def matchesExcludePattern (rules : RuleSet) (name : String) : Bool :=
  rules.excludePatterns.any fun program => Pattern.isMatch program name

def isIncludedFilename (rules : RuleSet) (name : String) : Bool :=
  rules.includeFilenames.contains name

def isIncludedExtension (rules : RuleSet) (extension : String) : Bool :=
  rules.includeExtensions.contains extension

def matchesIncludePattern (rules : RuleSet) (name : String) : Bool :=
  rules.includePatterns.any fun program => Pattern.isMatch program name

/-- Whether a directory in normal form is left out. -/
def isExcludedDir (rules : RuleSet) (rel : String) : Bool :=
  rules.excludeDirs.contains rel

/-- Whether a file in normal form is written in any case. -/
def isAlwaysIncluded (rules : RuleSet) (rel : String) : Bool :=
  rules.alwaysIncludeFiles.contains rel

end RuleSet
end TreeBundle
