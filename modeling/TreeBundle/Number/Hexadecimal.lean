/-!
# Hexadecimal digits

Digits are read in either case and written in the case asked for; reading a written digit gives
its value back.
-/
namespace TreeBundle.Hexadecimal
set_option autoImplicit false

def value? (c : Char) : Option Nat :=
  if '0' ≤ c ∧ c ≤ '9' then some (c.toNat - '0'.toNat)
  else if 'a' ≤ c ∧ c ≤ 'f' then some (c.toNat - 'a'.toNat + 10)
  else if 'A' ≤ c ∧ c ≤ 'F' then some (c.toNat - 'A'.toNat + 10)
  else none

def digit (n : Nat) : Char :=
  if n < 10 then Char.ofNat ('0'.toNat + n) else Char.ofNat ('a'.toNat + (n - 10))

def upperDigit (n : Nat) : Char :=
  if n < 10 then Char.ofNat ('0'.toNat + n) else Char.ofNat ('A'.toNat + (n - 10))

theorem value?_digit : ∀ n < 16, value? (digit n) = some n := by decide

theorem value?_upperDigit : ∀ n < 16, value? (upperDigit n) = some n := by decide

/-- The number that digits spell, if they are all digits. -/
def number? (digits : List Char) : Option Nat :=
  digits.foldlM (fun value c => (value? c).map fun digit => value * 16 + digit) 0

/-- The digits of `n` before `tail`; `fuel` bounds their number. -/
def digits : Nat → Nat → List Char → List Char
  | 0, _, tail => tail
  | fuel + 1, n, tail =>
    if n < 16 then digit n :: tail else digits fuel (n / 16) (digit (n % 16) :: tail)

end TreeBundle.Hexadecimal
