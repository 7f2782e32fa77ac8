import TreeBundle.Pattern.Expression
import TreeBundle.Pattern.Property
import TreeBundle.Pattern.Regex

/-!
# The meaning of patterns

Flags turn a pattern into a regular expression over character classes. A flag set inside a group
holds to the group's end, through all its branches. With Unicode off only ASCII may be matched, so
whatever could match part of a character is refused.
-/
namespace TreeBundle.Pattern
set_option autoImplicit false

structure Flags where
  ignoreCase : Bool
  multiLine : Bool
  dotMatchesNewLine : Bool
  unicode : Bool
  crlf : Bool
  deriving DecidableEq, Repr

namespace Flags

def initial : Flags := ⟨false, false, false, true, false⟩

def set (flags : Flags) : Flag × Bool → Flags
  | (.ignoreCase, value) => { flags with ignoreCase := value }
  | (.multiLine, value) => { flags with multiLine := value }
  | (.dotMatchesNewLine, value) => { flags with dotMatchesNewLine := value }
  | (.unicode, value) => { flags with unicode := value }
  | (.crlf, value) => { flags with crlf := value }
  | (.swapGreed, _) => flags
  | (.extended, _) => flags

def apply (flags : Flags) (changes : FlagChanges) : Flags :=
  changes.foldl set flags

/-- The class with the case variants of its members, if case is ignored. -/
def fold (flags : Flags) (content : CharClass) : CharClass :=
  if !flags.ignoreCase then content
  else if flags.unicode then .caseClosure content
  else .asciiCaseClosure content

/-- Case is folded before a class is negated. -/
def foldAndNegate? (flags : Flags) (negated : Bool) (content : CharClass) : Option CharClass :=
  if negated && !flags.unicode then none
  else some (CharClass.complementIf negated (flags.fold content))

end Flags

def unicodeDigit : CharClass := ofCategories ["nd"]

def unicodeSpace : CharClass := (ofTable? Unicode.properties "wspace").getD .none

def unicodeWord : CharClass :=
  CharClass.unions
    ((ofTable? Unicode.properties "alpha").toList ++
      [ofCategories ["mn", "mc", "me", "nd", "pc"]] ++
      (ofTable? Unicode.properties "joinc").toList)

def asciiWord : CharClass :=
  .ofRanges [(0x30, 0x39), (0x41, 0x5A), (0x5F, 0x5F), (0x61, 0x7A)]

def perlClass (unicode : Bool) : PerlKind → CharClass
  | .digit => if unicode then unicodeDigit else .ofRange 0x30 0x39
  | .space => if unicode then unicodeSpace else .ofRanges [(9, 13), (0x20, 0x20)]
  | .word => if unicode then unicodeWord else asciiWord

def escapeClass? (flags : Flags) : ClassEscape → Option CharClass
  | .perl kind negated =>
    if negated && !flags.unicode then none
    else some (CharClass.complementIf negated (perlClass flags.unicode kind))
  | .property name negated =>
    if flags.unicode then (property? name).bind (flags.foldAndNegate? negated) else none

def isAllowedInClass (flags : Flags) (literal : Literal) : Bool :=
  flags.unicode || decide (literal.char.toNat < 0x80)

mutual

def classOf? (flags : Flags) : ClassSet → Option CharClass
  | .empty => some .none
  | .literal literal =>
    if isAllowedInClass flags literal then some (.single literal.char.toNat) else none
  | .range low high =>
    if isAllowedInClass flags low && isAllowedInClass flags high then
      some (.ofRange low.char.toNat high.char.toNat)
    else none
  | .ascii content negated => flags.foldAndNegate? negated (.ofRanges content)
  | .escape escape => escapeClass? flags escape
  | .bracketed negated inner => (classOf? flags inner).bind (flags.foldAndNegate? negated)
  | .union items => (classesOf? flags items).map CharClass.unions
  | .combine operation left right => do
    let left ← classOf? flags left
    let right ← classOf? flags right
    return .combine operation (flags.fold left) (flags.fold right)

def classesOf? (flags : Flags) : List ClassSet → Option (List CharClass)
  | [] => some []
  | item :: rest => do
    let first ← classOf? flags item
    let others ← classesOf? flags rest
    return first :: others

end

abbrev Program := Regex CharClass Look

def literalProgram? (flags : Flags) (literal : Literal) : Option Program :=
  let code := literal.char.toNat
  if !flags.unicode && literal.isByte && decide (0x80 ≤ code) then none
  else if !flags.unicode && decide (0x80 ≤ code) then some (.single (.single code))
  else some (.single (flags.fold (.single code)))

def dot? (flags : Flags) : Option Program :=
  if !flags.unicode then none
  else if flags.dotMatchesNewLine then some (.single .all)
  else if flags.crlf then
    some (.single (.complement (.ofRanges [(0x0A, 0x0A), (0x0D, 0x0D)])))
  else some (.single (.complement (.single 0x0A)))

def lookOf (flags : Flags) : Assertion → Look
  | .lineStart =>
    if !flags.multiLine then .textStart else if flags.crlf then .lineStartCrlf else .lineStart
  | .lineEnd =>
    if !flags.multiLine then .textEnd else if flags.crlf then .lineEndCrlf else .lineEnd
  | .textStart => .textStart
  | .textEnd => .textEnd
  | .word .edge => .wordEdge flags.unicode
  | .word .inside => .wordInside flags.unicode
  | .word .start => .wordStart flags.unicode
  | .word .stop => .wordEnd flags.unicode
  | .word .startHalf => .wordStartHalf flags.unicode
  | .word .stopHalf => .wordEndHalf flags.unicode

def repetition (least : Nat) (greatest : Option Nat) (body : Program) : Program :=
  match greatest with
  | none => .atLeast least body
  | some greatest =>
    if least = greatest then .times least body
    else .sequence (.times least body) (.upTo (greatest - least) body)

mutual

/-- The program of an expression, and the flags that hold after it. -/
def meaning? (flags : Flags) : Expression → Option (Program × Flags)
  | .empty => some (.empty, flags)
  | .setFlags changes => some (.empty, flags.apply changes)
  | .literal literal => (literalProgram? flags literal).map fun program => (program, flags)
  | .dot => (dot? flags).map fun program => (program, flags)
  | .assertion assertion => some (.look (lookOf flags assertion), flags)
  | .escape escape =>
    (escapeClass? flags escape).map fun content => (.single content, flags)
  | .bracketed negated inner =>
    ((classOf? flags inner).bind (flags.foldAndNegate? negated)).map fun content =>
      (.single content, flags)
  | .repetition body least greatest =>
    (meaning? flags body).map fun found => (repetition least greatest found.1, found.2)
  | .group _ changes body =>
    (meaning? (flags.apply changes) body).map fun found => (found.1, flags)
  | .concatenation items => sequenceOf? flags items
  | .alternation branches => choiceOf? flags branches

def sequenceOf? (flags : Flags) : List Expression → Option (Program × Flags)
  | [] => some (.empty, flags)
  | item :: rest =>
    match meaning? flags item with
    | none => none
    | some (first, flags) =>
      (sequenceOf? flags rest).map fun found => (.sequence first found.1, found.2)

def choiceOf? (flags : Flags) : List Expression → Option (Program × Flags)
  | [] => some (.empty, flags)
  | [branch] => meaning? flags branch
  | branch :: next :: rest =>
    match meaning? flags branch with
    | none => none
    | some (first, flags) =>
      (choiceOf? flags (next :: rest)).map fun found => (.either first found.1, found.2)

end

/-- How a text answers the tests of a program. -/
structure Subject where
  chars : Array Char

namespace Subject

def ofString (text : String) : Subject := ⟨text.toList.toArray⟩

def isWordAt (subject : Subject) (unicode : Bool) (i : Nat) : Bool :=
  match subject.chars[i]? with
  | some c => (perlClass unicode .word).contains c.toNat
  | none => false

def isWordBefore (subject : Subject) (unicode : Bool) (i : Nat) : Bool :=
  decide (0 < i) && subject.isWordAt unicode (i - 1)

/-- Whether the character before a position is `c`. -/
def follows (subject : Subject) (c : Char) (i : Nat) : Bool :=
  decide (0 < i) && subject.chars[i - 1]? == some c

/-- Whether the character at a position is `c`. -/
def precedes (subject : Subject) (c : Char) (i : Nat) : Bool :=
  subject.chars[i]? == some c

def look (subject : Subject) (condition : Look) (i : Nat) : Bool :=
  let atStart := i == 0
  let atEnd := i == subject.chars.size
  match condition with
  | .textStart => atStart
  | .textEnd => atEnd
  | .lineStart => atStart || subject.follows '\n' i
  | .lineEnd => atEnd || subject.precedes '\n' i
  | .lineStartCrlf =>
    atStart || subject.follows '\n' i ||
      (subject.follows '\r' i && !subject.precedes '\n' i)
  | .lineEndCrlf =>
    atEnd || subject.precedes '\r' i ||
      (subject.precedes '\n' i && !subject.follows '\r' i)
  | .wordEdge unicode => subject.isWordBefore unicode i != subject.isWordAt unicode i
  | .wordInside unicode => subject.isWordBefore unicode i == subject.isWordAt unicode i
  | .wordStart unicode => !subject.isWordBefore unicode i && subject.isWordAt unicode i
  | .wordEnd unicode => subject.isWordBefore unicode i && !subject.isWordAt unicode i
  | .wordStartHalf unicode => !subject.isWordBefore unicode i
  | .wordEndHalf unicode => !subject.isWordAt unicode i

def reader (subject : Subject) : Reader CharClass Look where
  size := subject.chars.size
  single content i :=
    match subject.chars[i]? with
    | some c => content.contains c.toNat
    | none => false
  look := subject.look

end Subject
end TreeBundle.Pattern
