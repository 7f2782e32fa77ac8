/-!
# File names and their extensions

The extension starts at the last dot of a name; dots at the very start never begin one.
-/
namespace TreeBundle.FileName
set_option autoImplicit false

def isDot (c : Char) : Bool :=
  c == '.'

/-- Stem and extension, the extension with its dot. A name without extension is all stem. -/
def splitChars (name : List Char) : List Char × List Char :=
  let leading := name.takeWhile isDot
  let body := name.dropWhile isDot
  let after := (body.reverse.takeWhile (!isDot ·)).reverse
  match (body.reverse.dropWhile (!isDot ·)).reverse with
  | [] => (name, [])
  | upToDot => (leading ++ upToDot.dropLast, '.' :: after)

def splitExtension (name : String) : String × String :=
  let found := splitChars name.toList
  (String.ofList found.1, String.ofList found.2)

def extension (name : String) : String :=
  (splitExtension name).2

end TreeBundle.FileName
