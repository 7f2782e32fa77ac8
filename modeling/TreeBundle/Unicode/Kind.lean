import TreeBundle.Unicode.Category
import TreeBundle.Unicode.Property

/-!
# Kinds of characters

Blanks, letters and numbers over all of Unicode; the ASCII characters are decided without a table.
-/
namespace TreeBundle.Unicode
set_option autoImplicit false

def isInTable (table : List NamedRuns) (name : String) (c : Char) : Bool :=
  match findRanges table name with
  | some ranges => inRanges ranges c.toNat
  | none => false

def isWhiteSpace (c : Char) : Bool :=
  if c.toNat < 0x80 then c == ' ' || (decide (9 ≤ c.toNat) && decide (c.toNat ≤ 13))
  else isInTable properties "wspace" c

def isAlphabetic (c : Char) : Bool :=
  if c.toNat < 0x80 then c.isAlpha else isInTable properties "alpha" c

def isNumeric (c : Char) : Bool :=
  if c.toNat < 0x80 then c.isDigit else ["nd", "nl", "no"].any (isInTable categories · c)

end TreeBundle.Unicode
