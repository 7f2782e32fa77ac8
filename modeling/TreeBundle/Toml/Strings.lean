import TreeBundle.Number.Hexadecimal
import TreeBundle.Text.Reading

/-!
# Reading TOML strings

The four forms of a string: basic and literal, each on one line or over several. A reader starts
after the opening quotes and returns the text with what follows the closing quotes.
-/
namespace TreeBundle.Toml
set_option autoImplicit false

def isBlank (c : Char) : Bool :=
  c == ' ' || c == '\t'

/-- Whether a character may stand unescaped in a one-line string or a comment. -/
def isPlain (c : Char) : Bool :=
  c == '\t' || (decide (0x20 ≤ c.toNat) && c != '\x7f')

/-- The number of characters of a line ending that the input starts with. -/
def lineEndSize : List Char → Nat
  | '\n' :: _ => 1
  | '\r' :: '\n' :: _ => 2
  | _ => 0

/-- The number of blanks and line endings that the input starts with. -/
def spaceSize : List Char → Nat
  | [] => 0
  | '\r' :: '\n' :: rest => spaceSize rest + 2
  | c :: rest => if isBlank c || c == '\n' then spaceSize rest + 1 else 0

/-- The character that exactly `count` hexadecimal digits name, and the size of the escape. -/
def codeEscape? (count : Nat) (digits : List Char) : Option (Char × Nat) := do
  guard (count ≤ digits.length)
  let code ← Hexadecimal.number? (digits.take count)
  let c ← charOf? code
  return (c, count + 1)

/-- The character that an escape stands for, read after the backslash, and its size. -/
def escape? : List Char → Option (Char × Nat)
  | 'b' :: _ => some ('\x08', 1)
  | 't' :: _ => some ('\t', 1)
  | 'n' :: _ => some ('\n', 1)
  | 'f' :: _ => some ('\x0c', 1)
  | 'r' :: _ => some ('\r', 1)
  | '"' :: _ => some ('"', 1)
  | '\\' :: _ => some ('\\', 1)
  | 'u' :: rest => codeEscape? 4 rest
  | 'U' :: rest => codeEscape? 8 rest
  | _ => none

/-- What an escaped line ending leaves out, read after the backslash: blanks, the line ending, and
all blanks and line endings after it. -/
def foldedSize? (text : List Char) : Option Nat :=
  let blanks := (text.takeWhile isBlank).length
  match lineEndSize (text.drop blanks) with
  | 0 => none
  | size + 1 =>
    some (blanks + (size + 1) + spaceSize (text.drop (blanks + (size + 1))))

def prepend (c : Char) (found : Reading (List Char)) : Reading (List Char) :=
  found.map fun text => (c :: text.1, text.2)

def basicBody (text : List Char) : Reading (List Char) :=
  match text with
  | [] => none
  | c :: rest =>
    if c = '"' then some ([], rest)
    else if c = '\\' then
      match escape? rest with
      | some (plain, size) => prepend plain (basicBody (rest.drop size))
      | none => none
    else if isPlain c then prepend c (basicBody rest)
    else none
termination_by text.length
decreasing_by all_goals simp only [List.length_drop, List.length_cons]; omega

def literalBody : List Char → Reading (List Char)
  | [] => none
  | c :: rest =>
    if c = '\'' then some ([], rest)
    else if isPlain c then prepend c (literalBody rest)
    else none

/-- The end of a long string, where three quotes stand: up to two quotes before the last three
belong to the text. -/
def longEnd? (quote : Char) : List Char → Reading (List Char)
  | a :: b :: c :: rest =>
    if a = quote ∧ b = quote ∧ c = quote then
      match rest with
      | d :: e :: after =>
        if d = quote ∧ e = quote then some ([quote, quote], after)
        else if d = quote then some ([quote], e :: after)
        else some ([], d :: e :: after)
      | [d] => if d = quote then some ([quote], []) else some ([], [d])
      | [] => some ([], [])
    else none
  | _ => none

def longBasicBody (text : List Char) : Reading (List Char) :=
  match text with
  | [] => none
  | c :: rest =>
    match longEnd? '"' (c :: rest) with
    | some ending => some ending
    | none =>
      if c = '\\' then
        match foldedSize? rest with
        | some size => longBasicBody (rest.drop size)
        | none =>
          match escape? rest with
          | some (plain, size) => prepend plain (longBasicBody (rest.drop size))
          | none => none
      else if lineEndSize (c :: rest) = 2 then prepend '\n' (longBasicBody (rest.drop 1))
      else if c = '\n' ∨ isPlain c then prepend c (longBasicBody rest)
      else none
termination_by text.length
decreasing_by all_goals simp only [List.length_drop, List.length_cons]; omega

def longLiteralBody (text : List Char) : Reading (List Char) :=
  match text with
  | [] => none
  | c :: rest =>
    match longEnd? '\'' (c :: rest) with
    | some ending => some ending
    | none =>
      if lineEndSize (c :: rest) = 2 then prepend '\n' (longLiteralBody (rest.drop 1))
      else if c = '\n' ∨ isPlain c then prepend c (longLiteralBody rest)
      else none
termination_by text.length
decreasing_by all_goals simp only [List.length_drop, List.length_cons]; omega

/-- A line ending right after the opening quotes of a long string is not part of it. -/
def dropLineEnd (text : List Char) : List Char :=
  text.drop (lineEndSize text)

/-- A one-line string. -/
def shortString? : List Char → Reading (List Char)
  | '"' :: rest => basicBody rest
  | '\'' :: rest => literalBody rest
  | _ => none

/-- A string in any of its four forms. -/
def string? : List Char → Reading (List Char)
  | '"' :: '"' :: '"' :: rest => longBasicBody (dropLineEnd rest)
  | '\'' :: '\'' :: '\'' :: rest => longLiteralBody (dropLineEnd rest)
  | text => shortString? text

end TreeBundle.Toml
