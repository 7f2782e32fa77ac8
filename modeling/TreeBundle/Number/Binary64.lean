/-!
# Double-precision numbers

A document's number is rounded to the nearest double, ties to the even significand, and a message
shows a double by the fewest digits that round back to it, the nearest of those. All arithmetic is
on naturals.
-/
namespace TreeBundle
set_option autoImplicit false

/-- A finite value is `significand * 2 ^ exponent`, up to its sign. -/
inductive Binary64 where
  | nan
  | infinite (negative : Bool)
  | finite (negative : Bool) (significand : Nat) (exponent : Int)
  deriving DecidableEq, Repr

namespace Binary64

def leastExponent : Int := -1074

def greatestExponent : Int := 971

/-- The quotient rounded to the nearest natural, a tie to the even one. -/
def roundQuotient (num den : Nat) : Nat :=
  let quotient := num / den
  let twice := 2 * (num % den)
  if twice < den then quotient
  else if den < twice then quotient + 1
  else quotient + quotient % 2

/-- The double nearest to `num / den`. -/
def ofRatio (negative : Bool) (num den : Nat) : Binary64 :=
  if num = 0 then .finite negative 0 0
  else
    let scaledNum (power : Int) : Nat := num * Nat.pow 2 (-power).toNat
    let scaledDen (power : Int) : Nat := den * Nat.pow 2 power.toNat
    let estimate : Int := Int.ofNat num.log2 - Int.ofNat den.log2 - 52
    let wanted :=
      if scaledNum estimate / scaledDen estimate < Nat.pow 2 52 then estimate - 1 else estimate
    let exponent := max wanted leastExponent
    let significand := roundQuotient (scaledNum exponent) (scaledDen exponent)
    let normal :=
      if significand = Nat.pow 2 53 then (Nat.pow 2 52, exponent + 1) else (significand, exponent)
    if normal.2 > greatestExponent then .infinite negative
    else .finite negative normal.1 normal.2

/-- The double nearest to `digits * 10 ^ power`. Numbers far outside the range are settled by
their size alone. -/
def ofDecimal (negative : Bool) (digits : Nat) (power : Int) : Binary64 :=
  let size : Int := Int.ofNat (Nat.toDigits 10 digits).length + power
  if digits = 0 ∨ size < -400 then .finite negative 0 0
  else if size > 400 then .infinite negative
  else ofRatio negative (digits * Nat.pow 10 power.toNat) (Nat.pow 10 (-power).toNat)

/-- Whether `significand * 2 ^ exponent` is at least `10 ^ power`. -/
def reaches (significand : Nat) (exponent power : Int) : Bool :=
  decide (Nat.pow 10 power.toNat * Nat.pow 2 (-exponent).toNat ≤
    significand * Nat.pow 2 exponent.toNat * Nat.pow 10 (-power).toNat)

/-- How many digits stand before the decimal point; zero or less counts the zeros after it. -/
def digitsBeforePoint (significand : Nat) (exponent : Int) : Int :=
  let guess := (Int.ofNat significand.log2 + exponent) * 30103 / 100000
  if reaches significand exponent (guess + 1) then guess + 2 else guess + 1

/-- The multiple of `10 ^ power` that rounds to the given double and is nearest to it. Of the
doubles' rounding interval the ends belong to it if the significand is even. -/
def onGrid? (significand : Nat) (exponent power : Int) : Option Nat :=
  let unit := Nat.pow 2 (exponent - 2).toNat * Nat.pow 10 (-power).toNat
  let step := Nat.pow 10 power.toNat * Nat.pow 2 (2 - exponent).toNat
  let middle := 4 * significand * unit
  let low :=
    if significand = Nat.pow 2 52 ∧ exponent > leastExponent then middle - unit
    else middle - 2 * unit
  let high := middle + 2 * unit
  let inside (candidate : Nat) : Bool :=
    let value := candidate * step
    if significand % 2 = 0 then decide (low ≤ value ∧ value ≤ high)
    else decide (low < value ∧ value < high)
  let below := middle / step
  match inside below, inside (below + 1) with
  | true, true => some (if 2 * middle < (2 * below + 1) * step then below else below + 1)
  | true, false => some below
  | false, true => some (below + 1)
  | false, false => none

/-- The fewest digits that round back, with the power of ten of the last one; `left` more digits
than `used` may be tried. Only a rounding up to a power of ten ends in a zero, which is dropped. -/
def fewestDigits (significand : Nat) (exponent point : Int) : Nat → Nat → Nat × Int
  | 0, _ => (significand * Nat.pow 2 exponent.toNat, 0)
  | left + 1, used =>
    let power := point - Int.ofNat (used + 1)
    match onGrid? significand exponent power with
    | some digits => if digits % 10 = 0 then (digits / 10, power + 1) else (digits, power)
    | none => fewestDigits significand exponent point left (used + 1)

/-- How messages write a finite double. -/
structure Style where
  /-- An exponent is written unless more digits than this stand before the point, counted
  negatively for zeros after it. -/
  least : Option Int
  /-- An exponent is written if more digits than this stand before the point. -/
  greatest : Option Int

/-- All digits and zeros are written out. -/
def Style.positional : Style := ⟨none, none⟩

/-- An exponent replaces more than four zeros after the point and more than sixteen digits before
it. -/
def Style.compact : Style := ⟨some (-5), some 16⟩

def Style.isPositional (style : Style) (point : Int) : Bool :=
  (match style.least with | some least => decide (least < point) | none => true) &&
    (match style.greatest with | some greatest => decide (point ≤ greatest) | none => true)

def unsignedText (style : Style) (digits : List Char) (point : Int) : List Char :=
  let count := digits.length
  if style.isPositional point then
    if point ≤ 0 then '0' :: '.' :: (List.replicate (-point).toNat '0' ++ digits)
    else if point.toNat < count then digits.take point.toNat ++ '.' :: digits.drop point.toNat
    else digits ++ (List.replicate (point.toNat - count) '0' ++ ['.', '0'])
  else
    let exponent := (toString (point - 1)).toList
    match digits with
    | [] => []
    | [digit] => digit :: 'e' :: exponent
    | digit :: others => digit :: '.' :: (others ++ 'e' :: exponent)

def text (style : Style) : Binary64 → String
  | .nan => "NaN"
  | .infinite negative => if negative then "-inf" else "inf"
  | .finite negative significand exponent =>
    let sign := if negative then ['-'] else []
    if significand = 0 then String.ofList (sign ++ ['0', '.', '0'])
    else
      let found := fewestDigits significand exponent (digitsBeforePoint significand exponent) 17 0
      let digits := Nat.toDigits 10 found.1
      String.ofList
        (sign ++ unsignedText style digits (Int.ofNat digits.length + found.2))

end Binary64
end TreeBundle
