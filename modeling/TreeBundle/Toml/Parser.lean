import TreeBundle.Toml.Document
import TreeBundle.Toml.Scalars

/-!
# Reading TOML

A text is read statement by statement, one to a line. Arrays and inline tables may nest and keys
may be dotted, up to a fixed limit.
-/
namespace TreeBundle.Toml
set_option autoImplicit false

/-- The number of parts a key, and of levels a nested value, must stay below. -/
def nestingLimit : Nat := 80

def skipBlanks (text : List Char) : List Char :=
  text.dropWhile isBlank

def isCommentChar (c : Char) : Bool :=
  isPlain c || c == '\x7f'

def skipComment : List Char → List Char
  | '#' :: rest => rest.dropWhile isCommentChar
  | text => text

/-- Skips blanks, line endings and comments between the items of an array. -/
def skipSpace (text : List Char) : List Char :=
  match text with
  | [] => []
  | '#' :: rest => skipSpace (rest.dropWhile isCommentChar)
  | '\r' :: '\n' :: rest => skipSpace rest
  | c :: rest => if isBlank c || c == '\n' then skipSpace rest else c :: rest
termination_by text.length
decreasing_by
  · have := (List.dropWhile_sublist (l := rest) isCommentChar).length_le
    simp only [List.length_cons]
    omega
  all_goals simp only [List.length_cons]; omega

def isBareKeyChar (c : Char) : Bool :=
  c.isAlphanum || c == '_' || c == '-'

/-- One part of a key: quoted, or bare. -/
def keyPart? (text : List Char) : Reading String :=
  match shortString? text with
  | some (key, rest) => some (String.ofList key, rest)
  | none =>
    let key := text.takeWhile isBareKeyChar
    if key.isEmpty then none else some (String.ofList key, text.dropWhile isBareKeyChar)

/-- The parts of a dotted key, of which there are at most `limit`; blanks may surround each. -/
def keyPath? : Nat → List Char → Reading (List String)
  | 0, _ => none
  | limit + 1, text =>
    match keyPart? (skipBlanks text) with
    | none => none
    | some (key, rest) =>
      match skipBlanks rest with
      | '.' :: rest => (keyPath? limit rest).map fun found => (key :: found.1, found.2)
      | rest => some ([key], rest)

def key? (text : List Char) : Reading (List String) :=
  keyPath? (nestingLimit - 1) text

/-- The items of an array up to its closing bracket; `fuel` bounds their number. -/
def items? (item? : List Char → Reading Datum) : Nat → List Char → Reading (List Datum)
  | 0, _ => none
  | fuel + 1, text =>
    match skipSpace text with
    | ']' :: rest => some ([], rest)
    | text =>
      match item? text with
      | none => none
      | some (item, rest) =>
        match skipSpace rest with
        | ',' :: rest => (items? item? fuel rest).map fun found => (item :: found.1, found.2)
        | ']' :: rest => some ([item], rest)
        | _ => none

/-- A key, an equals sign and a value. -/
def assignment? (value? : List Char → Reading Datum) (text : List Char) :
    Reading (List String × Datum) :=
  match key? text with
  | some (path, '=' :: rest) =>
    (value? (skipBlanks rest)).map fun found => ((path, found.1), found.2)
  | _ => none

/-- The assignments of an inline table up to its closing brace; `fuel` bounds their number. -/
def assignments? (value? : List Char → Reading Datum) :
    Nat → List Char → Reading (List (List String × Datum))
  | 0, _ => none
  | fuel + 1, text =>
    match assignment? value? text with
    | none => none
    | some (first, rest) =>
      match skipBlanks rest with
      | ',' :: rest =>
        (assignments? value? fuel rest).map fun found => (first :: found.1, found.2)
      | '\x7d' :: rest => some ([first], rest)
      | _ => none

def inlineTable? (value? : List Char → Reading Datum) (text : List Char) : Reading Datum :=
  match skipBlanks text with
  | '\x7d' :: rest => some (.map [], rest)
  | text =>
    match assignments? value? (text.length + 1) text with
    | none => none
    | some (assignments, rest) => (ofAssignments? assignments).map fun found => (.map found, rest)

/-- A value with at most `depth` levels of arrays and inline tables. -/
def value? : Nat → List Char → Reading Datum
  | 0, '[' :: _ => none
  | 0, '\x7b' :: _ => none
  | depth + 1, '[' :: rest =>
    (items? (value? depth) (rest.length + 1) rest).map fun found => (.list found.1, found.2)
  | depth + 1, '\x7b' :: rest => inlineTable? (value? depth) rest
  | _, '"' :: rest => text? ('"' :: rest)
  | _, '\'' :: rest => text? ('\'' :: rest)
  | _, text => scalar? text
where
  text? (text : List Char) : Reading Datum :=
    (string? text).map fun found => (.text (String.ofList found.1), found.2)

/-- The input after the rest of a line that holds nothing but blanks and a comment. -/
def endLine? (text : List Char) : Option (List Char) :=
  match skipComment (skipBlanks text) with
  | [] => some []
  | rest =>
    match lineEndSize rest with
    | 0 => none
    | size + 1 => some (rest.drop (size + 1))

/-- A header up to its closing bracket. -/
def header? : List Char → Reading Statement
  | '[' :: '[' :: rest =>
    match key? rest with
    | some (path, ']' :: ']' :: rest) => some (.element path, rest)
    | _ => none
  | '[' :: rest =>
    match key? rest with
    | some (path, ']' :: rest) => some (.header path, rest)
    | _ => none
  | _ => none

/-- One line, or as many as the value of an assignment takes. -/
def line? (text : List Char) : Reading (Option Statement) :=
  match skipBlanks text with
  | [] => some (none, [])
  | '[' :: rest => ended (header? ('[' :: rest))
  | c :: rest =>
    if c = '#' ∨ 0 < lineEndSize (c :: rest) then
      (endLine? (c :: rest)).map fun rest => (none, rest)
    else
      ended ((assignment? (value? (nestingLimit - 1)) (c :: rest)).map fun found =>
        (.assignment found.1.1 found.1.2, found.2))
where
  ended : Reading Statement → Reading (Option Statement)
    | none => none
    | some (statement, rest) => (endLine? rest).map fun rest => (some statement, rest)

/-- The statements of a text; `fuel` bounds its lines. -/
def statements? : Nat → List Char → Option (List Statement)
  | _, [] => some []
  | 0, _ => none
  | fuel + 1, text =>
    match line? text with
    | none => none
    | some (found, rest) => (statements? fuel rest).map (found.toList ++ ·)

def dropByteOrderMark : List Char → List Char
  | '\uFEFF' :: rest => rest
  | text => text

/-- The entries of a document in order of definition. -/
def parse? (document : String) : Option (List (String × Datum)) :=
  let text := dropByteOrderMark document.toList
  (statements? (text.length + 1) text).bind ofStatements?

end TreeBundle.Toml
