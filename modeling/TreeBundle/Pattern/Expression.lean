import TreeBundle.Pattern.CharClass

/-!
# Pattern expressions

What a pattern says before its flags are applied.
-/
namespace TreeBundle.Pattern
set_option autoImplicit false

inductive Flag where
  | ignoreCase
  | multiLine
  | dotMatchesNewLine
  | swapGreed
  | unicode
  | crlf
  | extended
  deriving DecidableEq, Repr

/-- The flags a group sets and clears, in the order written. -/
abbrev FlagChanges := List (Flag × Bool)

/-- A single character. One written with two hexadecimal digits stands for a byte where Unicode
is off. -/
structure Literal where
  char : Char
  isByte : Bool
  deriving DecidableEq, Repr

inductive PerlKind where
  | digit
  | space
  | word
  deriving DecidableEq, Repr

/-- How a property class names its property. -/
inductive PropertyName where
  | plain (name : List Char)
  | valued (name value : List Char)
  deriving DecidableEq, Repr

/-- A class written as an escape, which may also stand inside brackets. -/
inductive ClassEscape where
  | perl (kind : PerlKind) (negated : Bool)
  | property (name : PropertyName) (negated : Bool)
  deriving DecidableEq, Repr

/-- The content of a bracketed class. -/
inductive ClassSet where
  | empty
  | literal (literal : Literal)
  | range (low high : Literal)
  | ascii (content : Unicode.Ranges) (negated : Bool)
  | escape (escape : ClassEscape)
  | bracketed (negated : Bool) (inner : ClassSet)
  | union (items : List ClassSet)
  | combine (operation : SetOperation) (left right : ClassSet)
  deriving Repr

inductive Boundary where
  | edge
  | inside
  | start
  | stop
  | startHalf
  | stopHalf
  deriving DecidableEq, Repr

inductive Assertion where
  | lineStart
  | lineEnd
  | textStart
  | textEnd
  | word (boundary : Boundary)
  deriving DecidableEq, Repr

inductive Expression where
  | empty
  | setFlags (changes : FlagChanges)
  | literal (literal : Literal)
  | dot
  | assertion (assertion : Assertion)
  | escape (escape : ClassEscape)
  | bracketed (negated : Bool) (inner : ClassSet)
  | repetition (body : Expression) (least : Nat) (greatest : Option Nat)
  | group (capturing : Bool) (changes : FlagChanges) (body : Expression)
  | concatenation (items : List Expression)
  | alternation (branches : List Expression)
  deriving Repr

mutual

/-- How deep a class nests: brackets, operations, and unions of several items. -/
def ClassSet.depth : ClassSet → Nat
  | .bracketed _ inner => inner.depth + 1
  | .union items => ClassSet.depths items + 1
  | .combine _ left right => max left.depth right.depth + 1
  | _ => 0

def ClassSet.depths : List ClassSet → Nat
  | [] => 0
  | item :: rest => max item.depth (ClassSet.depths rest)

end

mutual

/-- How deep an expression nests. -/
def Expression.depth : Expression → Nat
  | .bracketed _ inner => inner.depth + 1
  | .repetition body _ _ => body.depth + 1
  | .group _ _ body => body.depth + 1
  | .concatenation items => Expression.depths items + 1
  | .alternation branches => Expression.depths branches + 1
  | _ => 0

def Expression.depths : List Expression → Nat
  | [] => 0
  | item :: rest => max item.depth (Expression.depths rest)

end

/-- How deep a pattern may nest. -/
def nestingLimit : Nat := 250

end TreeBundle.Pattern
