import TreeBundle.Pattern.Footprint
import TreeBundle.Pattern.Parser

/-!
# Compiled patterns

A pattern is compiled as the text it stands in between `^(?:` and `)$`. The text, not the pattern
alone, has to be well formed.
-/
namespace TreeBundle.Pattern
set_option autoImplicit false

inductive PatternError where
  | malformed
  | tooBig
  deriving DecidableEq, Repr

def wrap (pattern : List Char) : List Char :=
  "^(?:".toList ++ pattern ++ ")$".toList

def program? (text : List Char) : Except PatternError Program :=
  match (parse? text).bind (meaning? .initial) with
  | none => .error .malformed
  | some (program, _) => if sizeLimit < footprint program then .error .tooBig else .ok program

/-- A pattern whose matches have to span the whole text. -/
def compile (pattern : String) : Except PatternError Program :=
  program? (wrap pattern.toList)

def isMatch (program : Program) (text : String) : Bool :=
  program.isFound (Subject.ofString text).reader

end TreeBundle.Pattern
