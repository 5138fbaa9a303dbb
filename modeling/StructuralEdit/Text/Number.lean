import StructuralEdit.Text.Basic
/-!
Numbers written in decimal digits.
-/
namespace StructuralEdit

/-- All counts and offsets that are written as numbers lie below this one, the 64th power of
two. -/
def numberLimit : Nat := 18446744073709551616

def Text.toNat? (t : Text) : Option Nat :=
  if t ≠ [] ∧ t.all Char.isDigit then some (Nat.ofDigitChars 10 t 0) else none

end StructuralEdit
