import StructuralEdit.Shell.Format
/-!
Values of scripts that process records. Text can stand for a number, and a number for text.
-/
namespace StructuralEdit.Shell.Records

inductive Value where
  | unset
  | number (r : Real)
  | text (t : Text)
  /-- Text from the input, which is a number if it looks like one. -/
  | input (t : Text)

namespace Value

def ofNat (n : Nat) : Value := .number (.ofNat n)

def ofBool (b : Bool) : Value := ofNat (if b then 1 else 0)

def numberOf (t : Text) : Real :=
  match Real.readPrefix? Real.double true t with
  | some (r, _) => r
  | none => .zero

def numberOf? (t : Text) : Option Real :=
  match Real.readPrefix? Real.double true t with
  | some (r, rest) => if rest.all isSpace then some r else none
  | none => none

def toNumber : Value → Real
  | .unset => .zero
  | .number r => r
  | .text t | .input t => numberOf t

def number? : Value → Option Real
  | .unset => some .zero
  | .number r => some r
  | .text _ => none
  | .input t => numberOf? t

/-- A whole number that is not too large for all its digits to be written. -/
def whole? (r : Real) : Option Int :=
  match r, r.truncate? with
  | .finite negative size e, some n =>
    let (num, den) := Real.ratio size e
    let isWhole : Bool := num % den = 0
    let fits : Bool := if negative then n.natAbs ≤ 1 <<< 63 else n.natAbs ≤ 1 <<< 64
    if isWhole && fits then some (min n 18446744073709551615) else none
  | _, _ => none

def render (format : Text) (r : Real) : Text :=
  let lead := format.takeWhile (· ≠ '%')
  match format.drop lead.length with
  | _ :: rest =>
    match Format.readDirective "lhq".toList rest with
    | .ok (d, tail) =>
      let amount : Format.Amount → Option Int
        | .given n => some n
        | _ => none
      let layout := d.layout (amount d.width) (amount d.precision)
      let shown :=
        if "di".toList.contains d.conversion then layout.decimal (r.truncate?.getD 0)
        else layout.real d.conversion r
      lead ++ shown ++ tail
    | .error _ => format
  | [] => format

/-- The text for a number. Whole numbers are written with all their digits. -/
def numberText (format : Text) (r : Real) : Text :=
  match whole? r with
  | some n => shownInt n
  | none => render format r

def toText (format : Text) : Value → Text
  | .unset => []
  | .number r => numberText format r
  | .text t | .input t => t

def holds : Value → Bool
  | .unset => false
  | .number r => !r.isZero
  | .text t => !t.isEmpty
  | .input t =>
    match numberOf? t with
    | some r => !r.isZero
    | none => !t.isEmpty

end Value

end StructuralEdit.Shell.Records
