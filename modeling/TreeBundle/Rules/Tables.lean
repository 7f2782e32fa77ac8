import TreeBundle.Data.StringSet

/-!
# Rule tables

The tables an operator edits: which file names, extensions and patterns are admitted or rejected,
which directories are left out, and which files are written in any case.
-/
namespace TreeBundle
set_option autoImplicit false

structure RuleTables where
  includeExtensions : StringSet
  excludeExtensions : StringSet
  includeFilenames : StringSet
  excludeFilenames : StringSet
  includeRegexes : List String
  excludeRegexes : List String
  includeShebang : Bool
  excludeDirs : StringSet
  alwaysIncludeFiles : List String
  deriving DecidableEq

/-- The tables by name, in the order in which they are written. -/
inductive Table where
  | includeExtensions
  | excludeExtensions
  | includeFilenames
  | excludeFilenames
  | includeRegexes
  | excludeRegexes
  | includeShebang
  | excludeDirs
  | alwaysIncludeFiles
  deriving DecidableEq, Repr

namespace Table

def all : List Table :=
  [.includeExtensions, .excludeExtensions, .includeFilenames, .excludeFilenames, .includeRegexes,
    .excludeRegexes, .includeShebang, .excludeDirs, .alwaysIncludeFiles]

def name : Table → String
  | .includeExtensions => "include_extensions"
  | .excludeExtensions => "exclude_extensions"
  | .includeFilenames => "include_filenames"
  | .excludeFilenames => "exclude_filenames"
  | .includeRegexes => "include_regexes"
  | .excludeRegexes => "exclude_regexes"
  | .includeShebang => "include_shebang"
  | .excludeDirs => "exclude_dirs"
  | .alwaysIncludeFiles => "always_include_files"

def ofName? (text : String) : Option Table :=
  all.find? (·.name == text)

/-- What a table holds: a set, a list in its own order, or a switch. -/
inductive Content where
  | set (items : StringSet)
  | list (items : List String)
  | switch (value : Bool)
  deriving DecidableEq

end Table

namespace RuleTables

/-- The tables in effect where nothing else is said. -/
def builtIn : RuleTables where
  includeExtensions := .ofList [".c", ".h"]
  excludeExtensions := .ofList [".o", ".md", ".data", ".js", ".wasm", ".txt"]
  includeFilenames := .ofList ["Makefile"]
  excludeFilenames := .ofList ["output.md", "README.org", ".emscripten"]
  includeRegexes := ["^\\d+$"]
  excludeRegexes := ["^gpt\\d+.py$"]
  includeShebang := true
  excludeDirs := .ofList
    [".emscripten_cache", ".git", "web", "src/core", "src/gfx", "src/apps"]
  alwaysIncludeFiles :=
    ["src/apps/console_processor.c", "src/apps/console_processor_ext.c",
      "src/apps/console_sink.c"]

def content (tables : RuleTables) : Table → Table.Content
  | .includeExtensions => .set tables.includeExtensions
  | .excludeExtensions => .set tables.excludeExtensions
  | .includeFilenames => .set tables.includeFilenames
  | .excludeFilenames => .set tables.excludeFilenames
  | .includeRegexes => .list tables.includeRegexes
  | .excludeRegexes => .list tables.excludeRegexes
  | .includeShebang => .switch tables.includeShebang
  | .excludeDirs => .set tables.excludeDirs
  | .alwaysIncludeFiles => .list tables.alwaysIncludeFiles

end RuleTables
end TreeBundle
