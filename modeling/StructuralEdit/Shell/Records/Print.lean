import StructuralEdit.Shell.Records.Value
/-!
Formatted output of values.
-/
namespace StructuralEdit.Shell.Records

inductive FormatMistake where
  | missingArgument
  | badConversion (number : Nat)
  deriving DecidableEq

def FormatMistake.message (m : FormatMistake) (function : String) (format : Text) : Text :=
  let call := function.toList ++ '(' :: '"' :: format ++ ['"', ')']
  match m with
  | .missingArgument => "not enough arguments passed to ".toList ++ call
  | .badConversion n => "improper conversion(number ".toList ++ shown n ++ ") in ".toList ++ call

def greatestSigned : Nat := 9223372036854775807

def greatestUnsigned : Nat := 18446744073709551615

def decimalOf (r : Real) : Int :=
  match r with
  | .finite .. =>
    let n := (r.truncate?).getD 0
    if (greatestUnsigned : Int) < n then greatestUnsigned
    else if n < -(greatestSigned : Int) then -(greatestSigned : Int)
    else n
  | .infinite negative => if negative then -(greatestSigned : Int) else greatestUnsigned
  | .undefined _ => -(greatestSigned : Int) - 1

/-- The number for a conversion without a sign. Below zero it counts from the end. -/
def unsignedOf (r : Real) : Nat :=
  let n := decimalOf r
  if n < 0 then (n + greatestUnsigned + 1).toNat else n.toNat

structure Printing where
  out : List Text := []
  arguments : List Value
  conversions : Nat := 0

namespace Printing

def amount (a : Format.Amount) (s : Printing) : Except FormatMistake (Option Int × Printing) :=
  match a with
  | .absent => .ok (none, s)
  | .given n => .ok (some (n : Int), s)
  | .argument =>
    match s.arguments with
    | v :: rest => .ok (some (decimalOf v.toNumber), { s with arguments := rest })
    | [] => .error .missingArgument

def directive (format : Text) (d : Format.Directive) (s : Printing) :
    Except FormatMistake Printing := do
  let (width, s) ← s.amount d.width
  let (precision, s) ← s.amount d.precision
  let s := { s with conversions := s.conversions + 1 }
  match s.arguments with
  | [] => .error .missingArgument
  | v :: rest =>
    let layout := d.layout width precision
    let emit (t : Text) : Except FormatMistake Printing :=
      .ok { s with out := t :: s.out, arguments := rest }
    let c := d.conversion
    if c = 'c' then
      match v.number? with
      | some r =>
        if v matches .unset then emit (layout.pad ['\x00'])
        else emit (layout.pad [Char.ofNat (unsignedOf r % 256)])
      | none => emit (layout.pad [(v.toText format).headD '\x00'])
    else if c = 's' then emit (layout.text (v.toText format))
    else if c = 'd' ∨ c = 'i' then emit (layout.decimal (decimalOf v.toNumber))
    else if "ouxX".toList.contains c then emit (layout.unsigned c (unsignedOf v.toNumber))
    else if "efgEG".toList.contains c then emit (layout.real c v.toNumber)
    else .error (.badConversion s.conversions)

/-- Goes through a format. The first argument bounds its directives, and the second one says how
numbers are written as text. The answer has what has been written even if a mistake ends it. -/
def run (numbers : Text) : Nat → Text → Printing → Text × Option FormatMistake
  | 0, _, s => (s.out.reverse.flatten, none)
  | n + 1, t, s =>
    let plain := t.takeWhile (· ≠ '%')
    let s := { s with out := plain :: s.out }
    let stop (m : FormatMistake) : Text × Option FormatMistake :=
      (s.out.reverse.flatten, some m)
    match t.drop plain.length with
    | '%' :: '%' :: rest => run numbers n rest { s with out := ['%'] :: s.out }
    | '%' :: rest =>
      match Format.readDirective "lh".toList rest with
      | .ok (d, rest) =>
        match directive numbers d s with
        | .ok s => run numbers n rest s
        | .error m => stop m
      | .error _ => stop (if s.arguments.isEmpty then .missingArgument else .badConversion
          (s.conversions + 1))
    | _ => (s.out.reverse.flatten, none)

end Printing

def formatted (numbers format : Text) (vs : List Value) : Text × Option FormatMistake :=
  Printing.run numbers (format.length + 1) format { arguments := vs }

end StructuralEdit.Shell.Records
