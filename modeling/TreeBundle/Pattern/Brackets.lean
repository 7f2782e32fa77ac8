import TreeBundle.Pattern.Escape

/-!
# Reading bracketed classes

Brackets hold characters, ranges, escapes and further brackets, joined by set operations that
group to the left. A hyphen or a closing bracket that comes first stands for itself.
-/
namespace TreeBundle.Pattern
set_option autoImplicit false

/-- The ranges of the named ASCII classes. -/
def asciiClasses : List (String × Unicode.Ranges) := [
  ("alnum", [(0x30, 0x39), (0x41, 0x5A), (0x61, 0x7A)]),
  ("alpha", [(0x41, 0x5A), (0x61, 0x7A)]),
  ("ascii", [(0, 0x7F)]),
  ("blank", [(9, 9), (0x20, 0x20)]),
  ("cntrl", [(0, 0x1F), (0x7F, 0x7F)]),
  ("digit", [(0x30, 0x39)]),
  ("graph", [(0x21, 0x7E)]),
  ("lower", [(0x61, 0x7A)]),
  ("print", [(0x20, 0x7E)]),
  ("punct", [(0x21, 0x2F), (0x3A, 0x40), (0x5B, 0x60), (0x7B, 0x7E)]),
  ("space", [(9, 13), (0x20, 0x20)]),
  ("upper", [(0x41, 0x5A)]),
  ("word", [(0x30, 0x39), (0x41, 0x5A), (0x5F, 0x5F), (0x61, 0x7A)]),
  ("xdigit", [(0x30, 0x39), (0x41, 0x46), (0x61, 0x66)])]

/-- A named ASCII class, read after its first bracket. -/
def asciiClass? (text : List Char) : Reading ClassSet :=
  match text with
  | ':' :: rest =>
    let (negated, rest) := match rest with
      | '^' :: rest => (true, rest)
      | rest => (false, rest)
    match rest.dropWhile (· != ':') with
    | ':' :: ']' :: after =>
      (asciiClasses.lookup (String.ofList (rest.takeWhile (· != ':')))).map fun content =>
        (.ascii content negated, after)
    | _ => none
  | _ => none

/-- Brackets that are still open. -/
structure OpenClass where
  negated : Bool
  /-- The operation that waits for its right operand, with its left one. -/
  waiting : Option (SetOperation × ClassSet)
  /-- The items of the operand being read, the last one first. -/
  items : List ClassSet

def ClassSet.ofItems : List ClassSet → ClassSet
  | [] => .empty
  | [item] => item
  | items => .union items

namespace OpenClass

def content (opened : OpenClass) : ClassSet :=
  let operand := ClassSet.ofItems opened.items.reverse
  match opened.waiting with
  | none => operand
  | some (operation, left) => .combine operation left operand

def push (opened : OpenClass) (item : ClassSet) : OpenClass :=
  { opened with items := item :: opened.items }

def operate (opened : OpenClass) (operation : SetOperation) : OpenClass :=
  { opened with waiting := some (operation, opened.content), items := [] }

end OpenClass

/-- The hyphens at the start of a class, each standing for itself. -/
def leadingHyphens (extended : Bool) (text : List Char) : List ClassSet × List Char :=
  match text with
  | [] => ([], [])
  | c :: rest =>
    if c = '-' then
      let found := leadingHyphens extended (skip extended rest)
      (.literal ⟨'-', false⟩ :: found.1, found.2)
    else ([], c :: rest)
termination_by text.length
decreasing_by
  have := length_skip_le extended rest
  simp only [List.length_cons]
  omega

/-- The start of a class, read after its bracket. -/
def openClass (extended : Bool) (text : List Char) : OpenClass × List Char :=
  let (negated, rest) := match skip extended text with
    | '^' :: rest => (true, skip extended rest)
    | text => (false, text)
  match leadingHyphens extended rest with
  | ([], ']' :: rest) => (⟨negated, none, [.literal ⟨']', false⟩]⟩, skip extended rest)
  | (hyphens, rest) => (⟨negated, none, hyphens⟩, rest)

def classAtom? (extended : Bool) : List Char → Reading Atom
  | [] => none
  | '\\' :: rest => escape? extended rest
  | c :: rest => some (plainLiteral c, rest)

def Atom.toClassSet? : Atom → Option ClassSet
  | .literal character => some (.literal character)
  | .escape kind => some (.escape kind)
  | _ => none

/-- The next character that is no blank. A comment's mark is passed over as well, but not the
comment. -/
def nextVisible? (extended : Bool) (text : List Char) : Option Char :=
  if extended then (scan false text).or text.head? else text.head?
where
  scan (inComment : Bool) : List Char → Option Char
    | [] => none
    | c :: rest =>
      if Unicode.isWhiteSpace c then scan inComment rest
      else if !inComment && c == '#' then scan true rest
      else some c

/-- A single item or a range. A hyphen before a closing bracket or another hyphen makes no
range. -/
def classItem? (extended : Bool) (text : List Char) : Option (ClassSet × List Char) := do
  let (first, rest) ← classAtom? extended text
  match skip extended rest with
  | '-' :: after =>
    let next := nextVisible? extended after
    if next = some ']' ∨ next = some '-' then
      (first.toClassSet?).map fun item => (item, '-' :: after)
    else
      match first, classAtom? extended (skip extended after) with
      | .literal low, some (.literal high, rest) =>
        if low.char ≤ high.char then some (.range low high, rest) else none
      | _, _ => none
  | rest => (first.toClassSet?).map fun item => (item, rest)

/-- The rest of a class up to its last closing bracket; `fuel` bounds its items. -/
def classRest? (extended : Bool) :
    Nat → OpenClass → List OpenClass → List Char → Reading (Bool × ClassSet)
  | 0, _, _, _ => none
  | fuel + 1, current, enclosing, text =>
    match skip extended text with
    | [] => none
    | '[' :: rest =>
      match asciiClass? rest with
      | some (item, rest) => classRest? extended fuel (current.push item) enclosing rest
      | none =>
        let (opened, rest) := openClass extended rest
        classRest? extended fuel opened (current :: enclosing) rest
    | ']' :: rest =>
      match enclosing with
      | [] => some ((current.negated, current.content), rest)
      | outer :: further =>
        classRest? extended fuel (outer.push (.bracketed current.negated current.content))
          further rest
    | '&' :: '&' :: rest => classRest? extended fuel (current.operate .intersection) enclosing rest
    | '-' :: '-' :: rest => classRest? extended fuel (current.operate .difference) enclosing rest
    | '~' :: '~' :: rest =>
      classRest? extended fuel (current.operate .symmetricDifference) enclosing rest
    | text =>
      match classItem? extended text with
      | some (item, rest) => classRest? extended fuel (current.push item) enclosing rest
      | none => none

/-- A bracketed class, read after its bracket. -/
def bracketed? (extended : Bool) (text : List Char) : Reading (Bool × ClassSet) :=
  let (opened, rest) := openClass extended text
  classRest? extended (text.length + 1) opened [] rest

end TreeBundle.Pattern
