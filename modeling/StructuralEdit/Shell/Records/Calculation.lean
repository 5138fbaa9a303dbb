import StructuralEdit.Shell.Records.Script
import StructuralEdit.Shell.Records.Value
/-!
Arithmetic of scripts that process records.
-/
namespace StructuralEdit.Shell.Records

def toFloat : Real → Float
  | .finite negative size e =>
    let x := (Float.ofNat size).scaleB e
    if negative then -x else x
  | .infinite negative => if negative then -(1.0 / 0.0) else 1.0 / 0.0
  | .undefined _ => 0.0 / 0.0

def ofBits (bits : Nat) : Real :=
  let negative : Bool := bits.testBit 63
  let e := (bits >>> 52) % 2048
  let fraction := bits % (1 <<< 52)
  if e = 2047 then if fraction = 0 then .infinite negative else .undefined negative
  else if e = 0 then .finite negative fraction (-1074)
  else .finite negative (fraction + (1 <<< 52)) ((e : Int) - 1075)

/-- What a function of analysis gives. What it is not defined for is below zero. -/
def ofFloat (x : Float) : Real := if x.isNaN then .undefined true else ofBits x.toBits.toNat

/-- Applies a function of analysis. What is no number stays what it is. -/
def analytic (f : Float → Float) (r : Real) : Real :=
  match r with
  | .undefined negative => .undefined negative
  | r => ofFloat (f (toFloat r))

def analytic₂ (f : Float → Float → Float) (a b : Real) : Real :=
  match a, b with
  | .undefined negative, _ => .undefined negative
  | _, .undefined negative => .undefined negative
  | a, b => ofFloat (f (toFloat a) (toFloat b))

def power (a b : Real) : Real :=
  if b.isZero then .ofNat 1
  else if a.compare? (.ofNat 1) = some .eq then .ofNat 1
  else analytic₂ Float.pow a b

def Arithmetic.apply (op : Arithmetic) (a b : Real) : Real :=
  match op with
  | .add => Real.add Real.double a b
  | .sub => Real.sub Real.double a b
  | .mul => Real.mul Real.double a b
  | .div => Real.div Real.double a b
  | .mod => Real.remainder Real.double a b
  | .pow => power a b

def Relation.holds (r : Relation) (o : Ordering) : Bool :=
  match r with
  | .less => o = .lt
  | .lessOrEqual => o ≠ .gt
  | .equal => o = .eq
  | .unequal => o ≠ .eq
  | .greater => o = .gt
  | .greaterOrEqual => o ≠ .lt

end StructuralEdit.Shell.Records
