import TreeBundle.Data.Datum
import TreeBundle.Number.Hexadecimal
import TreeBundle.Toml.Strings

/-!
# Reading TOML numbers, dates and truth values

An integer must fit 64 bits. A decimal too large for a double is refused when it is positive and
is negative infinity otherwise. A date or a time has to exist; as data it reads as a map.
-/
namespace TreeBundle.Toml
set_option autoImplicit false

/-- Digits after the first one; a single underscore may stand between two digits. -/
def moreDigits (isDigit : Char → Bool) : List Char → List Char × List Char
  | [] => ([], [])
  | '_' :: c :: rest =>
    if isDigit c then
      let found := moreDigits isDigit rest
      (c :: found.1, found.2)
    else ([], '_' :: c :: rest)
  | c :: rest =>
    if isDigit c then
      let found := moreDigits isDigit rest
      (c :: found.1, found.2)
    else ([], c :: rest)

def digits? (isDigit : Char → Bool) : List Char → Reading (List Char)
  | c :: rest =>
    if isDigit c then
      let found := moreDigits isDigit rest
      some (c :: found.1, found.2)
    else none
  | [] => none

/-- The digits of a whole decimal number: a zero stands alone. -/
def wholeDigits? : List Char → Reading (List Char)
  | '0' :: rest => some (['0'], rest)
  | text => digits? Char.isDigit text

def valueInBase (base : Nat) (digits : List Char) : Nat :=
  digits.foldl (fun value c => value * base + (Hexadecimal.value? c).getD 0) 0

/-- A sign and the input after it; without one the number is not negative. -/
def sign : List Char → Bool × List Char
  | '-' :: rest => (true, rest)
  | '+' :: rest => (false, rest)
  | text => (false, text)

/-- A non-negative integer in another base than ten. -/
def basedInteger? (base : Nat) (isDigit : Char → Bool) (text : List Char) :
    Option (Datum × List Char) := do
  let (digits, rest) ← digits? isDigit text
  let value := valueInBase base digits
  guard (value < Nat.pow 2 63)
  return (.integer value, rest)

/-- The digits after a point, if one stands here. -/
def fraction? : List Char → Option (Option (List Char) × List Char)
  | '.' :: rest => (digits? Char.isDigit rest).map fun found => (some found.1, found.2)
  | rest => some (none, rest)

/-- The exponent, if one stands here. -/
def exponent? : List Char → Option (Option Int × List Char)
  | [] => some (none, [])
  | mark :: rest =>
    if mark = 'e' ∨ mark = 'E' then
      let (negative, unsigned) := sign rest
      (digits? Char.isDigit unsigned).map fun found =>
        let size : Int := valueInBase 10 found.1
        (some (if negative then -size else size), found.2)
    else some (none, mark :: rest)

def decimal? (text : List Char) : Option (Datum × List Char) := do
  let (negative, unsigned) := sign text
  let (whole, rest) ← wholeDigits? unsigned
  let (decimals, rest) ← fraction? rest
  let (exponent, rest) ← exponent? rest
  if decimals.isNone && exponent.isNone then
    let size := valueInBase 10 whole
    guard (if negative then size ≤ Nat.pow 2 63 else size < Nat.pow 2 63)
    return (.integer (if negative then -Int.ofNat size else size), rest)
  else
    let places := decimals.getD []
    let value := Binary64.ofDecimal negative (valueInBase 10 (whole ++ places))
      (exponent.getD 0 - places.length)
    guard (value ≠ .infinite false)
    return (.float value, rest)

def word? (word : List Char) (value : Datum) (text : List Char) : Reading Datum :=
  if word.isPrefixOf text then some (value, text.drop word.length) else none

/-- Infinity and not-a-number, with an optional sign. -/
def specialFloat? (text : List Char) : Reading Datum :=
  let (negative, unsigned) := sign text
  (word? "inf".toList (.float (.infinite negative)) unsigned).or
    (word? "nan".toList (.float .nan) unsigned)

def isOctalDigit (c : Char) : Bool := decide ('0' ≤ c) && decide (c ≤ '7')

def isBinaryDigit (c : Char) : Bool := c == '0' || c == '1'

def isHexDigit (c : Char) : Bool := (Hexadecimal.value? c).isSome

def number? : List Char → Reading Datum
  | '0' :: 'x' :: rest => basedInteger? 16 isHexDigit rest
  | '0' :: 'o' :: rest => basedInteger? 8 isOctalDigit rest
  | '0' :: 'b' :: rest => basedInteger? 2 isBinaryDigit rest
  | text => (specialFloat? text).or (decimal? text)

/-- A number written with exactly `count` digits. -/
def fixedDigits? (count : Nat) (text : List Char) : Reading Nat :=
  let digits := text.take count
  if digits.length = count ∧ digits.all Char.isDigit then
    some (valueInBase 10 digits, text.drop count)
  else none

def mark? (c : Char) : List Char → Option (List Char)
  | first :: rest => if first = c then some rest else none
  | [] => none

def isLeapYear (year : Nat) : Bool :=
  year % 4 == 0 && (year % 100 != 0 || year % 400 == 0)

def daysOfMonth (year month : Nat) : Nat :=
  if month = 2 then if isLeapYear year then 29 else 28
  else if month = 4 ∨ month = 6 ∨ month = 9 ∨ month = 11 then 30
  else 31

/-- The input after a date. -/
def date? (text : List Char) : Option (List Char) := do
  let (year, rest) ← fixedDigits? 4 text
  let rest ← mark? '-' rest
  let (month, rest) ← fixedDigits? 2 rest
  guard (1 ≤ month ∧ month ≤ 12)
  let rest ← mark? '-' rest
  let (day, rest) ← fixedDigits? 2 rest
  guard (1 ≤ day ∧ day ≤ daysOfMonth year month)
  return rest

def secondsFraction : List Char → List Char
  | '.' :: rest => if (rest.takeWhile Char.isDigit).isEmpty then '.' :: rest
    else rest.dropWhile Char.isDigit
  | rest => rest

def hourMinute? (text : List Char) : Option (List Char) := do
  let (hour, rest) ← fixedDigits? 2 text
  guard (hour ≤ 23)
  let rest ← mark? ':' rest
  let (minute, rest) ← fixedDigits? 2 rest
  guard (minute ≤ 59)
  return rest

/-- The input after a time of day; a leap second is allowed. -/
def time? (text : List Char) : Option (List Char) := do
  let rest ← hourMinute? text
  let rest ← mark? ':' rest
  let (second, rest) ← fixedDigits? 2 rest
  guard (second ≤ 60)
  return secondsFraction rest

def afterOffset (text : List Char) : List Char :=
  match text with
  | c :: rest =>
    if c = 'Z' ∨ c = 'z' then rest
    else if c = '+' ∨ c = '-' then (hourMinute? rest).getD text
    else text
  | [] => []

/-- The input after a date, a time, or both. -/
def moment? (text : List Char) : Option (List Char) :=
  match date? text with
  | none => time? text
  | some rest =>
    match rest with
    | c :: clock =>
      if c = 'T' ∨ c = 't' ∨ c = ' ' then
        match time? clock with
        | some after => some (afterOffset after)
        | none => some rest
      else some rest
    | [] => some []

/-- A truth value, a date or time, or a number. -/
def scalar? : List Char → Reading Datum
  | 't' :: rest => word? "true".toList (.boolean true) ('t' :: rest)
  | 'f' :: rest => word? "false".toList (.boolean false) ('f' :: rest)
  | text =>
    match moment? text with
    | some rest => some (.map [], rest)
    | none => number? text

end TreeBundle.Toml
