import TreeBundle.Number.Hexadecimal
import TreeBundle.Unicode.Category
import TreeBundle.Unicode.Property

/-!
# Quoted text in messages

A message that names a piece of text shows it between double quotes, with everything that would
not print as itself escaped: control and format characters, blanks other than the space,
unassigned characters, and marks that would combine with their neighbour.
-/
namespace TreeBundle.Text.Quoted
set_option autoImplicit false

def unprintableCategories : List String :=
  ["cc", "cf", "co", "zl", "zp", "zs"]

def inCategory (code : Nat) (name : String) : Bool :=
  match Unicode.findRanges Unicode.categories name with
  | some ranges => Unicode.inRanges ranges code
  | none => false

def isAssigned (code : Nat) : Bool :=
  Unicode.categories.any fun entry => Unicode.inRanges entry.ranges code

def extendsGrapheme (code : Nat) : Bool :=
  match Unicode.findRanges Unicode.properties "graphemeextend" with
  | some ranges => Unicode.inRanges ranges code
  | none => false

def isPrintable (c : Char) : Bool :=
  let code := c.toNat
  if code < 0x80 then decide (0x20 ≤ code ∧ code < 0x7F)
  else isAssigned code && !(unprintableCategories.any (inCategory code)) && !(extendsGrapheme code)

def encodeChar (c : Char) : List Char :=
  if c = '\x00' then ['\\', '0']
  else if c = '\t' then ['\\', 't']
  else if c = '\n' then ['\\', 'n']
  else if c = '\r' then ['\\', 'r']
  else if c = '"' ∨ c = '\\' then ['\\', c]
  else if isPrintable c then [c]
  else "\\u\x7b".toList ++ Hexadecimal.digits 8 c.toNat ['\x7d']

def encode (text : String) : String :=
  String.ofList ('"' :: text.toList.flatMap encodeChar ++ ['"'])

end TreeBundle.Text.Quoted
