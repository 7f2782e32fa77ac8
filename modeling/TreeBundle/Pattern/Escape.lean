import TreeBundle.Number.Hexadecimal
import TreeBundle.Pattern.Expression
import TreeBundle.Text.Reading
import TreeBundle.Unicode.Kind

/-!
# Reading escapes

The parts of a pattern that are read alike inside and outside brackets. In extended mode blanks
and comments may stand between most characters, even those of one escape.
-/
namespace TreeBundle.Pattern
set_option autoImplicit false

/-- Skips blanks and comments. -/
def skipSpace (text : List Char) : List Char :=
  match text with
  | [] => []
  | c :: rest =>
    if Unicode.isWhiteSpace c then skipSpace rest
    else if c = '#' then skipSpace ((rest.dropWhile (· != '\n')).drop 1)
    else c :: rest
termination_by text.length
decreasing_by
  · simp only [List.length_cons]; omega
  · have := (List.dropWhile_sublist (l := rest) (· != '\n')).length_le
    simp only [List.length_drop, List.length_cons]
    omega

def skip (extended : Bool) (text : List Char) : List Char :=
  if extended then skipSpace text else text

theorem length_skipSpace_le (text : List Char) : (skipSpace text).length ≤ text.length := by
  fun_induction skipSpace text with
  | case1 => simp
  | case2 c rest blank ih => simp only [List.length_cons]; omega
  | case3 rest blank ih =>
    have := (List.dropWhile_sublist (l := rest) (· != '\n')).length_le
    simp only [List.length_drop, List.length_cons] at *
    omega
  | case4 => simp

theorem length_skip_le (extended : Bool) (text : List Char) :
    (skip extended text).length ≤ text.length := by
  unfold skip
  split
  · exact length_skipSpace_le text
  · exact Nat.le_refl _

/-- Decimal digits with what may be skipped after each. -/
def decimalDigits (extended : Bool) (text : List Char) : List Char × List Char :=
  match text with
  | [] => ([], [])
  | c :: rest =>
    if c.isDigit then
      let found := decimalDigits extended (skip extended rest)
      (c :: found.1, found.2)
    else ([], c :: rest)
termination_by text.length
decreasing_by
  have := length_skip_le extended rest
  simp only [List.length_cons]
  omega

/-- A number of 32 bits, with blanks around it in any mode. -/
def decimal? (extended : Bool) (text : List Char) : Reading Nat :=
  let found := decimalDigits extended (text.dropWhile Unicode.isWhiteSpace)
  let value := found.1.foldl (fun value c => value * 10 + (c.toNat - '0'.toNat)) 0
  if found.1.isEmpty || decide (Nat.pow 2 32 ≤ value) then none
  else some (value, found.2.dropWhile Unicode.isWhiteSpace)

/-- Exactly `count` hexadecimal digits after those read into `value`. -/
def fixedHex? (extended : Bool) : Nat → Nat → List Char → Reading Nat
  | 0, value, text => some (value, text)
  | _ + 1, _, [] => none
  | count + 1, value, c :: rest =>
    match Hexadecimal.value? c with
    | some digit => fixedHex? extended count (value * 16 + digit) (skip extended rest)
    | none => none

/-- Characters up to a closing brace, with what may be skipped after each. -/
def untilBrace? (extended : Bool) (text : List Char) : Reading (List Char) :=
  match text with
  | [] => none
  | c :: rest =>
    if c = '\x7d' then some ([], rest)
    else (untilBrace? extended (skip extended rest)).map fun found => (c :: found.1, found.2)
termination_by text.length
decreasing_by
  have := length_skip_le extended rest
  simp only [List.length_cons]
  omega

def bracedHex? (digits : List Char) : Option Nat :=
  if digits.isEmpty then none else Hexadecimal.number? digits

/-- A character by its number, read after the letter that says how many digits follow. -/
def hexLiteral? (extended : Bool) (count : Nat) (text : List Char) :
    Option (Literal × List Char) :=
  match skip extended text with
  | '\x7b' :: rest => do
    let (digits, rest) ← untilBrace? extended (skip extended rest)
    let c ← (bracedHex? digits).bind charOf?
    return (⟨c, false⟩, rest)
  | text => do
    let (code, rest) ← fixedHex? extended count 0 text
    let c ← charOf? code
    return (⟨c, decide (count = 2)⟩, rest)

/-- What stands before and after the first occurrence of `mark`. -/
def cutAt? (mark : List Char) : List Char → Option (List Char × List Char)
  | [] => none
  | c :: rest =>
    if mark.isPrefixOf (c :: rest) then some ([], (c :: rest).drop mark.length)
    else (cutAt? mark rest).map fun found => (c :: found.1, found.2)

def propertyName (name : List Char) : PropertyName :=
  match ((cutAt? ['!', '='] name).or (cutAt? [':'] name)).or (cutAt? ['='] name) with
  | some (name, value) => .valued name value
  | none => .plain name

/-- The name of a property class: in braces, or a single letter. -/
def propertyClass? (extended : Bool) (text : List Char) : Reading PropertyName :=
  match skip extended text with
  | [] => none
  | '\x7b' :: rest =>
    (untilBrace? extended (skip extended rest)).map fun found =>
      (propertyName found.1, found.2)
  | c :: rest => if c = '\\' then none else some (.plain [c], skip extended rest)

def isBoundaryNameChar (c : Char) : Bool :=
  c.isAlpha || c == '-'

def boundaryNameChars (extended : Bool) (text : List Char) : List Char × List Char :=
  match text with
  | [] => ([], [])
  | c :: rest =>
    if isBoundaryNameChar c then
      let found := boundaryNameChars extended (skip extended rest)
      (c :: found.1, found.2)
    else ([], c :: rest)
termination_by text.length
decreasing_by
  have := length_skip_le extended rest
  simp only [List.length_cons]
  omega

def boundaryNames : List (String × Boundary) :=
  [("start", .start), ("end", .stop), ("start-half", .startHalf), ("end-half", .stopHalf)]

/-- A word boundary may be narrowed by a name in braces; braces that cannot hold a name are left
to be a repetition. -/
def boundary? (extended : Bool) (text : List Char) : Reading Boundary :=
  match text with
  | '\x7b' :: rest =>
    match skip extended rest with
    | [] => none
    | c :: inner =>
      if isBoundaryNameChar c then
        match boundaryNameChars extended (c :: inner) with
        | (name, '\x7d' :: rest) =>
          (boundaryNames.lookup (String.ofList name)).map fun boundary => (boundary, rest)
        | _ => none
      else some (.edge, text)
  | _ => some (.edge, text)

/-- One unit of a pattern. -/
inductive Atom where
  | literal (literal : Literal)
  | dot
  | assertion (assertion : Assertion)
  | escape (escape : ClassEscape)
  deriving Repr

def plainLiteral (c : Char) : Atom :=
  .literal ⟨c, false⟩

/-- ASCII punctuation, blanks and controls may be escaped, the angle brackets excepted. -/
def isEscapable (c : Char) : Bool :=
  decide (c.toNat < 0x80) && !c.isAlphanum && c != '<' && c != '>'

def controlEscape? : Char → Option Char
  | 'a' => some '\x07'
  | 'f' => some '\x0c'
  | 't' => some '\t'
  | 'n' => some '\n'
  | 'r' => some '\r'
  | 'v' => some '\x0b'
  | _ => none

def atomEscape? : Char → Option Atom
  | 'd' => some (.escape (.perl .digit false))
  | 'D' => some (.escape (.perl .digit true))
  | 's' => some (.escape (.perl .space false))
  | 'S' => some (.escape (.perl .space true))
  | 'w' => some (.escape (.perl .word false))
  | 'W' => some (.escape (.perl .word true))
  | 'A' => some (.assertion .textStart)
  | 'z' => some (.assertion .textEnd)
  | 'B' => some (.assertion (.word .inside))
  | '<' => some (.assertion (.word .start))
  | '>' => some (.assertion (.word .stop))
  | c =>
    if isEscapable c then some (plainLiteral c) else (controlEscape? c).map plainLiteral

/-- What an escape stands for, read after the backslash. -/
def escape? (extended : Bool) : List Char → Reading Atom
  | [] => none
  | 'x' :: rest => (hexLiteral? extended 2 rest).map fun found => (.literal found.1, found.2)
  | 'u' :: rest => (hexLiteral? extended 4 rest).map fun found => (.literal found.1, found.2)
  | 'U' :: rest => (hexLiteral? extended 8 rest).map fun found => (.literal found.1, found.2)
  | 'p' :: rest =>
    (propertyClass? extended rest).map fun found => (.escape (.property found.1 false), found.2)
  | 'P' :: rest =>
    (propertyClass? extended rest).map fun found => (.escape (.property found.1 true), found.2)
  | 'b' :: rest =>
    (boundary? extended rest).map fun found => (.assertion (.word found.1), found.2)
  | c :: rest => (atomEscape? c).map fun atom => (atom, rest)

end TreeBundle.Pattern
