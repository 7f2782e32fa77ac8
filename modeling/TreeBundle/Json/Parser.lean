import TreeBundle.Data.Datum
import TreeBundle.Number.Hexadecimal

/-!
# Reading JSON

A text is read to its end as one value. A number without fraction and exponent that fits 64 bits
is an integer, any other number a double; `-0` is a double.
-/
namespace TreeBundle.Json
set_option autoImplicit false

def isBlank (c : Char) : Bool :=
  c == ' ' || c == '\n' || c == '\t' || c == '\r'

def skipBlanks (text : List Char) : List Char :=
  text.dropWhile isBlank

def isHighSurrogate (code : Nat) : Bool := decide (0xD800 ≤ code ∧ code < 0xDC00)

def isLowSurrogate (code : Nat) : Bool := decide (0xDC00 ≤ code ∧ code < 0xE000)

def shortEscape? : Char → Option Char
  | '"' => some '"'
  | '\\' => some '\\'
  | '/' => some '/'
  | 'b' => some '\x08'
  | 'f' => some '\x0c'
  | 'n' => some '\n'
  | 'r' => some '\r'
  | 't' => some '\t'
  | _ => none

/-- The characters up to the closing quote, and what follows it. -/
def stringBody : List Char → Option (List Char × List Char)
  | [] => none
  | '"' :: rest => some ([], rest)
  | '\\' :: 'u' :: a :: b :: c :: d :: rest =>
    match Hexadecimal.number? [a, b, c, d] with
    | none => none
    | some code =>
      if isHighSurrogate code then
        match rest with
        | '\\' :: 'u' :: e :: f :: g :: h :: rest =>
          match Hexadecimal.number? [e, f, g, h] with
          | none => none
          | some low =>
            if isLowSurrogate low then
              (stringBody rest).map fun found =>
                (Char.ofNat (0x10000 + (code - 0xD800) * 0x400 + (low - 0xDC00)) :: found.1,
                  found.2)
            else none
        | _ => none
      else if isLowSurrogate code then none
      else (stringBody rest).map fun found => (Char.ofNat code :: found.1, found.2)
  | '\\' :: c :: rest =>
    match shortEscape? c with
    | some plain => (stringBody rest).map fun found => (plain :: found.1, found.2)
    | none => none
  | c :: rest =>
    if c.toNat < 0x20 || c == '\\' then none
    else (stringBody rest).map fun found => (c :: found.1, found.2)

def digitsValue (digits : List Char) : Nat :=
  digits.foldl (fun value c => value * 10 + (c.toNat - '0'.toNat)) 0

/-- The fraction digits after a point, if one follows. -/
def fraction? : List Char → Option (List Char × List Char)
  | '.' :: rest =>
    let digits := rest.takeWhile Char.isDigit
    if digits.isEmpty then none else some (digits, rest.dropWhile Char.isDigit)
  | rest => some ([], rest)

/-- The exponent, if one follows. -/
def exponent? : List Char → Option (Option Int × List Char)
  | mark :: rest =>
    if mark == 'e' || mark == 'E' then
      let signed := match rest with
        | '-' :: rest => (true, rest)
        | '+' :: rest => (false, rest)
        | rest => (false, rest)
      let digits := signed.2.takeWhile Char.isDigit
      if digits.isEmpty then none
      else
        let size : Int := digitsValue digits
        some (some (if signed.1 then -size else size), signed.2.dropWhile Char.isDigit)
    else some (none, mark :: rest)
  | [] => some (none, [])

def number? (text : List Char) : Option (Datum × List Char) := do
  let (negative, unsigned) := match text with
    | '-' :: rest => (true, rest)
    | rest => (false, rest)
  let whole := unsigned.takeWhile Char.isDigit
  guard (!whole.isEmpty && (whole.length == 1 || whole.head? != some '0'))
  let (decimals, rest) ← fraction? (unsigned.dropWhile Char.isDigit)
  let (exponent, rest) ← exponent? rest
  let size := digitsValue whole
  let isInteger := decimals.isEmpty && exponent.isNone &&
    (if negative then decide (0 < size ∧ size ≤ Nat.pow 2 63) else decide (size < Nat.pow 2 64))
  if isInteger then
    return (.integer (if negative then -Int.ofNat size else size), rest)
  else
    return (.float (.ofDecimal negative (digitsValue (whole ++ decimals))
      (exponent.getD 0 - decimals.length)), rest)

def word? (word : List Char) (value : Datum) (text : List Char) : Option (Datum × List Char) :=
  if word.isPrefixOf text then some (value, text.drop word.length) else none

mutual

/-- A value after optional blanks; `fuel` bounds the number of values and punctuation marks. -/
def value? : Nat → List Char → Option (Datum × List Char)
  | 0, _ => none
  | fuel + 1, text =>
    match skipBlanks text with
    | '"' :: rest => (stringBody rest).map fun found => (.text (String.ofList found.1), found.2)
    | '[' :: rest =>
      match skipBlanks rest with
      | ']' :: rest => some (.list [], rest)
      | _ => (items? fuel rest).map fun found => (.list found.1, found.2)
    | '\x7b' :: rest =>
      match skipBlanks rest with
      | '\x7d' :: rest => some (.map [], rest)
      | _ => (entries? fuel rest).map fun found => (.map found.1, found.2)
    | 't' :: rest => word? "true".toList (.boolean true) ('t' :: rest)
    | 'f' :: rest => word? "false".toList (.boolean false) ('f' :: rest)
    | 'n' :: rest => word? "null".toList .null ('n' :: rest)
    | text => number? text

def items? : Nat → List Char → Option (List Datum × List Char)
  | 0, _ => none
  | fuel + 1, text =>
    match value? fuel text with
    | none => none
    | some (item, rest) =>
      match skipBlanks rest with
      | ',' :: rest => (items? fuel rest).map fun found => (item :: found.1, found.2)
      | ']' :: rest => some ([item], rest)
      | _ => none

def entries? : Nat → List Char → Option (List (String × Datum) × List Char)
  | 0, _ => none
  | fuel + 1, text =>
    match skipBlanks text with
    | '"' :: rest =>
      match stringBody rest with
      | none => none
      | some (key, rest) =>
        match skipBlanks rest with
        | ':' :: rest =>
          match value? fuel rest with
          | none => none
          | some (value, rest) =>
            match skipBlanks rest with
            | ',' :: rest =>
              (entries? fuel rest).map fun found => ((String.ofList key, value) :: found.1, found.2)
            | '\x7d' :: rest => some ([(String.ofList key, value)], rest)
            | _ => none
        | _ => none
    | _ => none

end

/-- The value a text holds, with nothing but blanks around it. -/
def parse? (text : String) : Option Datum :=
  match value? (2 * text.length + 2) text.toList with
  | some (value, rest) => if (skipBlanks rest).isEmpty then some value else none
  | none => none

end TreeBundle.Json
