/-!
# Readers

A reader takes something off the front of a text and returns it with the rest, or fails.
-/
namespace TreeBundle
set_option autoImplicit false

abbrev Reading (α : Type) := Option (α × List Char)

/-- The character with a code point. -/
def charOf? (code : Nat) : Option Char :=
  if code.isValidChar then some (Char.ofNat code) else none

end TreeBundle
