import TreeBundle.Pattern.Brackets

/-!
# Reading patterns

A pattern is read from left to right; groups that are still open wait on a stack. Every way in
which a pattern can be malformed gives the same answer, none.
-/
namespace TreeBundle.Pattern
set_option autoImplicit false

def flagOf? : Char → Option Flag
  | 'i' => some .ignoreCase
  | 'm' => some .multiLine
  | 's' => some .dotMatchesNewLine
  | 'U' => some .swapGreed
  | 'u' => some .unicode
  | 'R' => some .crlf
  | 'x' => some .extended
  | _ => none

/-- Flags up to the mark that ends them, which is returned with them. A hyphen clears the flags
after it; there is at most one, a flag follows it, and no flag is named twice. -/
def flags? (cleared : Bool) (changes : FlagChanges) : List Char →
    Option (FlagChanges × Char × List Char)
  | [] => none
  | c :: rest =>
    if c = ':' ∨ c = ')' then some (changes, c, rest)
    else if c = '-' then
      if cleared || rest.head? == some ':' || rest.head? == some ')' then none
      else flags? true changes rest
    else
      match flagOf? c with
      | some flag =>
        if (changes.lookup flag).isSome then none
        else flags? cleared (changes ++ [(flag, !cleared)]) rest
      | none => none

def isNameStart (c : Char) : Bool :=
  c == '_' || Unicode.isAlphabetic c

def isNamePart (c : Char) : Bool :=
  isNameStart c || Unicode.isNumeric c || c == '.' || c == '[' || c == ']'

/-- The name of a group up to its closing bracket. -/
def groupName? (text : List Char) : Reading (List Char) :=
  let name := text.takeWhile (· != '>')
  match name, text.dropWhile (· != '>') with
  | first :: others, _ :: rest =>
    if isNameStart first && others.all isNamePart then some (name, rest) else none
  | _, _ => none

/-- How a parenthesis opens. -/
inductive Opening where
  | setFlags (changes : FlagChanges)
  | group (changes : FlagChanges)
  | capture (name : Option (List Char))

def lookAroundMarks : List (List Char) :=
  ["?=".toList, "?!".toList, "?<=".toList, "?<!".toList]

/-- The opening of a group, read after its parenthesis. Groups that look around are refused. -/
def opening? (text : List Char) : Reading Opening :=
  if lookAroundMarks.any (·.isPrefixOf text) then none
  else
    match text with
    | '?' :: 'P' :: '<' :: rest =>
      (groupName? rest).map fun found => (.capture (some found.1), found.2)
    | '?' :: '<' :: rest => (groupName? rest).map fun found => (.capture (some found.1), found.2)
    | '?' :: rest =>
      match flags? false [] rest with
      | some (changes, ':', rest) => some (.group changes, rest)
      | some ([], _, _) => none
      | some (changes, _, rest) => some (.setFlags changes, rest)
      | none => none
    | rest => some (.capture none, rest)

/-- The counts of a repetition, read after the brace. -/
def counts? (extended : Bool) (text : List Char) : Option ((Nat × Option Nat) × List Char) := do
  let (least, rest) ← decimal? extended (skip extended text)
  match rest with
  | '\x7d' :: rest => return ((least, some least), rest)
  | ',' :: rest =>
    match skip extended rest with
    | '\x7d' :: rest => return ((least, none), rest)
    | text =>
      let (greatest, rest) ← decimal? extended text
      guard (least ≤ greatest)
      match rest with
      | '\x7d' :: rest => return ((least, some greatest), rest)
      | _ => none
  | _ => none

/-- A group that is still open, with what it interrupted. -/
structure OpenGroup where
  capturing : Bool
  changes : FlagChanges
  branches : List Expression
  items : List Expression
  extended : Bool

/-- A pattern read so far. Lists have the latest part first. -/
structure Draft where
  branches : List Expression
  items : List Expression
  extended : Bool
  enclosing : List OpenGroup
  names : List (List Char)

namespace Draft

def empty : Draft := ⟨[], [], false, [], []⟩

def push (draft : Draft) (item : Expression) : Draft :=
  { draft with items := item :: draft.items }

def branch (draft : Draft) : Expression :=
  match draft.items.reverse with
  | [] => .empty
  | [item] => item
  | items => .concatenation items

def body (draft : Draft) : Expression :=
  match draft.branches with
  | [] => draft.branch
  | branches => .alternation (branches.reverse ++ [draft.branch])

def nextBranch (draft : Draft) : Draft :=
  { draft with branches := draft.branch :: draft.branches, items := [] }

def openGroup (draft : Draft) (capturing : Bool) (changes : FlagChanges) : Draft :=
  { draft with
    branches := []
    items := []
    extended := (changes.lookup .extended).getD draft.extended
    enclosing :=
      ⟨capturing, changes, draft.branches, draft.items, draft.extended⟩ :: draft.enclosing }

def closeGroup? (draft : Draft) : Option Draft :=
  match draft.enclosing with
  | [] => none
  | group :: further =>
    some
      { draft with
        branches := group.branches
        items := .group group.capturing group.changes draft.body :: group.items
        extended := group.extended
        enclosing := further }

/-- Flags that are set for the rest of the group. -/
def setFlags (draft : Draft) (changes : FlagChanges) : Draft :=
  { draft.push (.setFlags changes) with
    extended := (changes.lookup .extended).getD draft.extended }

def enter? (draft : Draft) : Opening → Option Draft
  | .setFlags changes => some (draft.setFlags changes)
  | .group changes => some (draft.openGroup false changes)
  | .capture none => some (draft.openGroup true [])
  | .capture (some name) =>
    if draft.names.contains name then none
    else some { draft.openGroup true [] with names := name :: draft.names }

/-- Repeats the last item; flags are not repeated. -/
def repeat? (draft : Draft) (least : Nat) (greatest : Option Nat) : Option Draft :=
  match draft.items with
  | [] => none
  | .setFlags _ :: _ => none
  | item :: others => some { draft with items := .repetition item least greatest :: others }

end Draft

/-- A question mark after a repetition only changes which match is preferred. -/
def dropLazyMark : List Char → List Char
  | '?' :: rest => rest
  | rest => rest

def Atom.toExpression : Atom → Expression
  | .literal character => .literal character
  | .dot => .dot
  | .assertion kind => .assertion kind
  | .escape kind => .escape kind

def atom? (extended : Bool) : List Char → Reading Atom
  | [] => none
  | '\\' :: rest => escape? extended rest
  | '.' :: rest => some (.dot, rest)
  | '^' :: rest => some (.assertion .lineStart, rest)
  | '$' :: rest => some (.assertion .lineEnd, rest)
  | c :: rest => some (plainLiteral c, rest)

/-- Reads the next part of a pattern. -/
def Draft.step (draft : Draft) : List Char → Option (Draft × List Char)
  | '(' :: rest => do
    let (opening, rest) ← opening? (skip draft.extended rest)
    return (← draft.enter? opening, rest)
  | ')' :: rest => draft.closeGroup?.map fun draft => (draft, rest)
  | '|' :: rest => some (draft.nextBranch, rest)
  | '[' :: rest =>
    (bracketed? draft.extended rest).map fun found =>
      (draft.push (.bracketed found.1.1 found.1.2), found.2)
  | '?' :: rest => (draft.repeat? 0 (some 1)).map fun draft => (draft, dropLazyMark rest)
  | '*' :: rest => (draft.repeat? 0 none).map fun draft => (draft, dropLazyMark rest)
  | '+' :: rest => (draft.repeat? 1 none).map fun draft => (draft, dropLazyMark rest)
  | '\x7b' :: rest => do
    let ((least, greatest), rest) ← counts? draft.extended rest
    return (← draft.repeat? least greatest, dropLazyMark (skip draft.extended rest))
  | text =>
    (atom? draft.extended text).map fun found => (draft.push found.1.toExpression, found.2)

/-- Reads to the end; `fuel` bounds the number of parts. -/
def Draft.run : Nat → Draft → List Char → Option Draft
  | fuel, draft, text =>
    match skip draft.extended text with
    | [] => some draft
    | c :: rest =>
      match fuel with
      | 0 => none
      | fuel + 1 =>
        match draft.step (c :: rest) with
        | some (draft, rest) => Draft.run fuel draft rest
        | none => none

/-- The expression a pattern writes. -/
def parse? (pattern : List Char) : Option Expression := do
  let draft ← Draft.empty.run (pattern.length + 1) pattern
  guard (draft.enclosing.isEmpty && decide (draft.body.depth ≤ nestingLimit))
  return draft.body

end TreeBundle.Pattern
