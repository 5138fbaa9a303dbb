import StructuralEdit.Binary64
import StructuralEdit.Shell.Octets
/-!
Binary numbers of a fixed precision, how they are read from decimal digits, and how they are
written.
-/
namespace StructuralEdit.Shell

/-- A number `size * 2 ^ exponent` with a sign, or none that is finite. -/
inductive Real where
  | finite (negative : Bool) (size : Nat) (exponent : Int)
  | infinite (negative : Bool)
  | undefined (negative : Bool)
  deriving DecidableEq, Repr

namespace Real

/-- How many binary digits numbers have: usually 53, and 64 where they are longer. -/
structure Precision where
  digits : Nat
  limit : Nat

def double : Precision := { digits := 53, limit := 1024 }

def extended : Precision := { digits := 64, limit := 16384 }

def zero : Real := .finite false 0 0

def nearest (p : Precision) (negative : Bool) (num den : Nat) : Real :=
  if den = 1 ∧ num < 1 <<< p.digits then .finite negative num 0
  else if num = 0 then .finite negative 0 0
  else
    let scaled (e : Int) : Nat × Nat := (num <<< (-e).toNat, den <<< e.toNat)
    let e : Int := num.log2 - den.log2 - (p.digits - 1)
    let (n, d) := scaled e
    let e := if n < d <<< (p.digits - 1) then e - 1 else e
    let lowest : Int := 3 - p.limit - p.digits
    let e := max e lowest
    let (n, d) := scaled e
    let size := roundDiv n d
    if size = 0 then .finite negative 0 0
    else if (p.limit : Int) ≤ e + size.log2 then .infinite negative
    else .finite negative size e

def ofNat (n : Nat) : Real := nearest double false n 1

def ofInt (n : Int) : Real := nearest double (n < 0) n.natAbs 1

def ratio (size : Nat) (exponent : Int) : Nat × Nat :=
  (size <<< exponent.toNat, 1 <<< (-exponent).toNat)

def isNegative : Real → Bool
  | .finite negative _ _ | .infinite negative | .undefined negative => negative

def isZero : Real → Bool
  | .finite _ 0 _ => true
  | _ => false

def neg : Real → Real
  | .finite negative m e => .finite (!negative) m e
  | .infinite negative => .infinite (!negative)
  | .undefined negative => .undefined (!negative)

def signed (negative : Bool) (m : Nat) : Int := if negative then -m else m

/-- Two finite numbers as integers over the same power of two, which is given by its exponent. -/
def align (a : Int) (e : Int) (b : Int) (f : Int) : Int × Int × Int :=
  let low := min e f
  (a * ((1 <<< (e - low).toNat : Nat) : Int), b * ((1 <<< (f - low).toNat : Nat) : Int), low)

def ofScaled (p : Precision) (n : Int) (e : Int) : Real :=
  let (num, den) := ratio n.natAbs e
  nearest p (n < 0) num den

def add (p : Precision) : Real → Real → Real
  | .finite n m e, .finite n' m' e' =>
    let (a, b, low) := align (signed n m) e (signed n' m') e'
    if a + b = 0 then .finite (n && n') 0 0 else ofScaled p (a + b) low
  | .undefined n, _ => .undefined n
  | _, .undefined n => .undefined n
  | .infinite n, .infinite n' => if n = n' then .infinite n else .undefined true
  | .infinite n, _ => .infinite n
  | _, .infinite n => .infinite n

def sub (p : Precision) (a b : Real) : Real := add p a (neg b)

def mul (p : Precision) : Real → Real → Real
  | .finite n m e, .finite n' m' e' =>
    let (num, den) := ratio (m * m') (e + e')
    nearest p (n != n') num den
  | .undefined n, _ => .undefined n
  | _, .undefined n => .undefined n
  | a, b =>
    if a.isZero || b.isZero then .undefined true else .infinite (a.isNegative != b.isNegative)

def div (p : Precision) : Real → Real → Real
  | .finite n m e, .finite n' m' e' =>
    if m' = 0 then if m = 0 then .undefined true else .infinite (n != n')
    else
      let (num, den) := ratio m (e - e')
      nearest p (n != n') num (den * m')
  | .undefined n, _ => .undefined n
  | _, .undefined n => .undefined n
  | .infinite n, b => if b matches .infinite _ then .undefined true
    else .infinite (n != b.isNegative)
  | a, .infinite n => .finite (a.isNegative != n) 0 0

def truncate? : Real → Option Int
  | .finite n m e =>
    let (num, den) := ratio m e
    some (signed n (num / den))
  | _ => none

def truncated (r : Real) : Real :=
  match r with
  | .finite n m e =>
    let (num, den) := ratio m e
    .finite n (num / den) 0
  | r => r

/-- What is left of a number when it is divided by another one as often as it goes. -/
def remainder (p : Precision) : Real → Real → Real
  | .finite n m e, .finite n' m' e' =>
    if m' = 0 then .undefined true
    else
      let (a, b, low) := align (signed n m) e (signed n' m') e'
      let r := a.tmod b
      if r = 0 then .finite n 0 0 else ofScaled p r low
  | .finite n m e, .infinite _ => .finite n m e
  | .undefined n, _ => .undefined n
  | _, .undefined n => .undefined n
  | _, _ => .undefined true

def compare? : Real → Real → Option Ordering
  | .finite n m e, .finite n' m' e' =>
    let (a, b, _) := align (signed n m) e (signed n' m') e'
    some (compare a b)
  | .undefined _, _ | _, .undefined _ => none
  | .infinite n, .infinite n' => some (compare n' n)
  | .infinite n, _ => some (if n then .lt else .gt)
  | _, .infinite n => some (if n then .gt else .lt)

/-! ### Reading -/

def ofDecimal (p : Precision) (negative : Bool) (digits : Nat) (scale : Int) : Real :=
  if digits = 0 then .finite negative 0 0
  else
    let magnitude : Int := (Nat.toDigits 10 digits).length + scale
    if magnitude < -6000 then .finite negative 0 0
    else if 6000 < magnitude then .infinite negative
    else nearest p negative (digits * Nat.pow 10 scale.toNat) (Nat.pow 10 (-scale).toNat)

def dropWord? (word : String) (t : Text) : Option Text :=
  let n := word.length
  if (t.take n).map Char.toLower = word.toList then some (t.drop n) else none

def readPower (isMark : Char → Bool) (t : Text) : Int × Text :=
  match t with
  | c :: rest =>
    if isMark c then
      let (negative, digits) : Bool × Text := match rest with
        | '-' :: ds => (true, ds)
        | '+' :: ds => (false, ds)
        | ds => (false, ds)
      let shown := digits.takeWhile Char.isDigit
      if shown.isEmpty then (0, t)
      else
        let n : Int := (min (ofDigits 10 shown) 100000 : Nat)
        (if negative then -n else n, digits.drop shown.length)
    else (0, t)
  | [] => (0, [])

/-- Reads a number at the beginning of text, and gives what is left. Hexadecimal digits and the
words for what is not finite are known if that is allowed. -/
def readPrefix? (p : Precision) (words : Bool) (t : Text) : Option (Real × Text) :=
  let t := t.dropWhile isSpace
  let (negative, t) : Bool × Text := match t with
    | '-' :: t => (true, t)
    | '+' :: t => (false, t)
    | t => (false, t)
  let hex? : Option Text := if !words then none else match t with
    | '0' :: x :: rest => if x = 'x' ∨ x = 'X' then some rest else none
    | _ => none
  let read (base : Nat) (isDigit : Char → Bool) (t : Text) : Option (Nat × Nat × Text) :=
    let whole := t.takeWhile isDigit
    let (fraction, rest) : Text × Text := match t.drop whole.length with
      | '.' :: r => (r.takeWhile isDigit, r.dropWhile isDigit)
      | r => ([], r)
    if whole.isEmpty ∧ fraction.isEmpty then none
    else some (ofDigits base (whole ++ fraction), fraction.length, rest)
  match hex?.bind (read 16 isHexDigit) with
  | some (digits, places, rest) =>
    let (e, rest) := readPower (fun c => c = 'p' || c = 'P') rest
    let e := e - 4 * places
    let (num, den) := ratio digits e
    some (nearest p negative num den, rest)
  | none =>
    match read 10 Char.isDigit t with
    | some (digits, places, rest) =>
      let (e, rest) := readPower (fun c => c = 'e' || c = 'E') rest
      some (ofDecimal p negative digits (e - places), rest)
    | none =>
      if !words then none
      else match dropWord? "infinity" t, dropWord? "inf" t, dropWord? "nan" t with
        | some rest, _, _ | none, some rest, _ => some (.infinite negative, rest)
        | _, _, some rest => some (.undefined negative, rest)
        | _, _, _ => none

/-! ### Writing -/

def fixedDigits (num den places : Nat) : Text × Text :=
  let n := roundDiv (num * Nat.pow 10 places) den
  let digits := padLeft (places + 1) (shown n) '0'
  (digits.take (digits.length - places), digits.drop (digits.length - places))

def decimalExponent (num den : Nat) : Int :=
  let guess : Int := (Nat.toDigits 10 num).length - (Nat.toDigits 10 den).length
  let fits (e : Int) : Bool :=
    decide (den * Nat.pow 10 e.toNat ≤ num * Nat.pow 10 (-e).toNat)
  if fits guess then guess else guess - 1

/-- The first digits of a quotient, so many of them, and the power of ten of the first one. -/
def leadingDigits (num den count : Nat) : Text × Int :=
  if num = 0 then (List.replicate count '0', 0)
  else
    let e := decimalExponent num den
    let shift : Int := count - 1 - e
    let n := roundDiv (num * Nat.pow 10 shift.toNat) (den * Nat.pow 10 (-shift).toNat)
    let digits := shown n
    if digits.length > count then (digits.take count, e + 1) else (digits, e)

def withPoint (whole fraction : Text) (always : Bool) : Text :=
  if fraction.isEmpty ∧ !always then whole else whole ++ '.' :: fraction

def exponential (num den places : Nat) (mark : Char) (always : Bool) : Text :=
  let (digits, e) := leadingDigits num den (places + 1)
  let sign := if e < 0 then '-' else '+'
  withPoint (digits.take 1) (digits.drop 1) always ++
    mark :: sign :: padLeft 2 (shown e.natAbs) '0'

def withoutZeros (t : Text) : Text := (t.reverse.dropWhile (· = '0')).reverse

def general (num den digits : Nat) (mark : Char) (keepsZeros : Bool) : Text :=
  let digits := max digits 1
  let (ds, e) := leadingDigits num den digits
  if e < -4 ∨ (digits : Int) ≤ e then
    let fraction := if keepsZeros then ds.drop 1 else withoutZeros (ds.drop 1)
    let sign := if e < 0 then '-' else '+'
    withPoint (ds.take 1) fraction keepsZeros ++ mark :: sign :: padLeft 2 (shown e.natAbs) '0'
  else
    let (whole, fraction) := fixedDigits num den (digits - 1 - e).toNat
    withPoint whole (if keepsZeros then fraction else withoutZeros fraction) keepsZeros

/-- The digits of a number for a letter that says how it is written, without its sign. -/
def digitsFor (conversion : Char) (precision : Nat) (alternate : Bool) : Real → Text
  | .finite _ m e =>
    let (num, den) := ratio m e
    match conversion with
    | 'f' | 'F' =>
      let (whole, fraction) := fixedDigits num den precision
      withPoint whole fraction alternate
    | 'e' => exponential num den precision 'e' alternate
    | 'E' => exponential num den precision 'E' alternate
    | 'G' => general num den precision 'E' alternate
    | _ => general num den precision 'e' alternate
  | .infinite _ => if conversion.isUpper then "INF".toList else "inf".toList
  | .undefined _ => if conversion.isUpper then "NAN".toList else "nan".toList

def isFinite : Real → Bool
  | .finite .. => true
  | _ => false

end Real

end StructuralEdit.Shell
