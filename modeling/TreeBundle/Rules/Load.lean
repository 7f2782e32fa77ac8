import TreeBundle.FileSystem.Read
import TreeBundle.Rules.Document

/-!
# Loading rules

The rules of a run are those of the file that was asked for, else of the rules file in the root if
there is one, else the built-in ones. A file that is chosen and cannot be used is an error.
-/
namespace TreeBundle
set_option autoImplicit false

inductive RulesError where
  | unreadable (path : NativePath) (cause : IoError)
  | unusable (path : NativePath) (cause : RuleTables.DocumentError)
  deriving DecidableEq, Repr

/-- The message, for an unusable file up to the description of the cause. -/
def RulesError.message : RulesError → String
  | .unreadable path cause => "Failed to read rules file " ++ path.text ++ ": " ++ cause.message
  | .unusable path _ => "Failed to parse rules file " ++ path.text ++ ": "

namespace RuleTables

/-- The rules file that is looked for in the root. -/
def fileName : String := "fencepack.toml"

def read (path : NativePath) (document : String) : Except RulesError RuleTables :=
  (parse document).mapError (.unusable path)

def load (files : FileSystem) (path : NativePath) : Except RulesError RuleTables :=
  match files.text path with
  | .ok document => read path document
  | .error problem => .error (.unreadable path problem)

/-- The rules of a run, and the file they come from. -/
def discover (files : FileSystem) (root : NativePath) (explicit : Option NativePath) :
    Except RulesError (RuleTables × Option NativePath) :=
  match explicit with
  | some path => (load files path).map fun tables => (tables, some path)
  | none =>
    let candidate := root.join (.ofString fileName)
    if files.isFile candidate then
      (load files candidate).map fun tables => (tables, some candidate)
    else .ok (builtIn, none)

end RuleTables
end TreeBundle
