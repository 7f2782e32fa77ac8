import TreeBundle.Text.Pieces

/-!
# Relative paths in normal form

A path below the root is compared by its normal form: slashes separate, empty components and `.`
are gone, and `..` has cancelled the name before it where there was one. The root itself is `.`.
-/
namespace TreeBundle.RelPath
set_option autoImplicit false

def isSeparator (c : Char) : Bool :=
  c == '/' || c == '\\'

abbrev Component := List Char

def here : Component := ['.']

def up : Component := ['.', '.']

/-- One component applied to the names above it, the nearest first. -/
def push (stack : List Component) (component : Component) : List Component :=
  if component = [] ∨ component = here then stack
  else if component = up then
    match stack with
    | [] => [up]
    | last :: rest => if last = up then up :: last :: rest else rest
  else component :: stack

/-- The components of the normal form, outermost first; none for the root. -/
def components (text : List Char) : List Component :=
  ((Text.pieces isSeparator text).foldl push []).reverse

def ofComponents : List Component → List Char
  | [] => here
  | first :: others => Text.joinWith '/' (first :: others)

def normal (text : List Char) : List Char :=
  ofComponents (components text)

/-- The root's own path. -/
def root : String := "."

def normalize (path : String) : String :=
  String.ofList (normal path.toList)

/-- The normal form of `name` below `base`. -/
def join (base name : String) : String :=
  normalize (base ++ "/" ++ name)

/-- The path before the last slash and the name after it; a path without slashes lies in the
root. -/
def splitLast (path : String) : String × String :=
  match (Text.pieces (· == '/') path.toList).reverse with
  | name :: parent :: above =>
    (String.ofList (Text.joinWith '/' (parent :: above).reverse), String.ofList name)
  | _ => (root, path)

end TreeBundle.RelPath
