import TreeBundle.Unicode.CaseFold
import TreeBundle.Unicode.Runs

/-!
# Character classes

A class is built from ranges of code points by the set operations and by closing it under case:
the closure holds every character that has a case variant in the class.
-/
namespace TreeBundle.Pattern
set_option autoImplicit false

inductive SetOperation where
  | intersection
  | difference
  | symmetricDifference
  deriving DecidableEq, Repr

inductive CharClass where
  | ofRanges (content : Unicode.Ranges)
  | union (left right : CharClass)
  | combine (operation : SetOperation) (left right : CharClass)
  | complement (inner : CharClass)
  | caseClosure (inner : CharClass)
  | asciiCaseClosure (inner : CharClass)
  deriving Repr

def SetOperation.apply : SetOperation → Bool → Bool → Bool
  | .intersection, left, right => left && right
  | .difference, left, right => left && !right
  | .symmetricDifference, left, right => left != right

/-- The same letter in the other case, among the ASCII letters. -/
def otherAsciiCase (code : Nat) : Nat :=
  if 0x41 ≤ code ∧ code ≤ 0x5A then code + 0x20
  else if 0x61 ≤ code ∧ code ≤ 0x7A then code - 0x20
  else code

namespace CharClass

def contains : CharClass → Nat → Bool
  | .ofRanges content, code => Unicode.inRanges content code
  | .union left right, code => left.contains code || right.contains code
  | .combine operation left right, code =>
    operation.apply (left.contains code) (right.contains code)
  | .complement inner, code => !inner.contains code
  | .caseClosure inner, code => (Unicode.caseVariants code).any inner.contains
  | .asciiCaseClosure inner, code =>
    inner.contains code || inner.contains (otherAsciiCase code)

def none : CharClass := .ofRanges []

def all : CharClass := .ofRanges [(0, 0x10FFFF)]

def single (code : Nat) : CharClass := .ofRanges [(code, code)]

def ofRange (low high : Nat) : CharClass := .ofRanges [(low, high)]

def unions (classes : List CharClass) : CharClass :=
  classes.foldr .union none

def complementIf (negated : Bool) (inner : CharClass) : CharClass :=
  if negated then .complement inner else inner

end CharClass
end TreeBundle.Pattern
