/-!
Numbers with a binary fraction of 53 digits: rounding to the nearest one, and to whole units.
-/
namespace StructuralEdit

def roundDiv (num den : Nat) : Nat :=
  let q := num / den
  let r := num % den
  if 2 * r < den then q else if den < 2 * r then q + 1 else q + q % 2

/-- The number `mantissa * 2 ^ exponent`. -/
structure Binary64 where
  mantissa : Nat
  exponent : Int
  deriving DecidableEq, Repr

namespace Binary64

/-- The nearest number with 53 binary digits, however large or small, to a quotient. -/
def nearest (num den : Nat) : Binary64 :=
  if num = 0 then ⟨0, 0⟩
  else
    let scaled (e : Int) : Nat × Nat := (num <<< (-e).toNat, den <<< e.toNat)
    let e : Int := num.log2 - den.log2 - 52
    let (n, d) := scaled e
    let e := if n < d <<< 52 then e - 1 else e
    let (n, d) := scaled e
    ⟨roundDiv n d, e⟩

def ratio (x : Binary64) : Nat × Nat :=
  (x.mantissa <<< x.exponent.toNat, 1 <<< (-x.exponent).toNat)

def add (x y : Binary64) : Binary64 :=
  let (a, b) := x.ratio
  let (c, d) := y.ratio
  nearest (a * d + c * b) (b * d)

def round (x : Binary64) (parts : Nat) : Nat :=
  let (a, b) := x.ratio
  roundDiv (a * parts) b

end Binary64

end StructuralEdit
