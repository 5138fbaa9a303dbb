import StructuralEdit.Binary64
import StructuralEdit.Text.Number
/-!
Lengths of time in nanoseconds, written and shown in seconds.
-/
namespace StructuralEdit.Duration

def second : Nat := 1000000000

structure Seconds where
  negative : Bool
  digits : Nat
  scale : Int
  deriving DecidableEq, Repr

def readScale? (t : Text) : Option Int :=
  let (negative, digits) : Bool × Text := match t with
    | '-' :: t => (true, t)
    | '+' :: t => (false, t)
    | t => (false, t)
  (Text.toNat? digits).map fun n => if negative then -n else n

/-- Reads a decimal number: digits with at most one point among them, then an optional power of
ten. -/
def readSeconds? (t : Text) : Option Seconds :=
  let (negative, t) : Bool × Text := match t with
    | '-' :: t => (true, t)
    | '+' :: t => (false, t)
    | t => (false, t)
  let whole := t.takeWhile Char.isDigit
  let (fraction, t) : Text × Text := match t.drop whole.length with
    | '.' :: t => (t.takeWhile Char.isDigit, t.dropWhile Char.isDigit)
    | t => ([], t)
  let digits := whole ++ fraction
  let scale? : Option Int := match t with
    | [] => some 0
    | c :: t => if c = 'e' ∨ c = 'E' then readScale? t else none
  if digits.isEmpty then none
  else scale?.map fun scale =>
    { negative, digits := Nat.ofDigitChars 10 digits 0, scale := scale - fraction.length }

/-- Nanoseconds from seconds, by way of the nearest binary number. Neither a negative number nor
one that reaches `numberLimit` is a length of time. A number that is nearest to zero counts as
zero. -/
def ofSeconds? (s : Seconds) : Option Nat :=
  if s.digits = 0 then some 0
  else
    let magnitude : Int := (Nat.toDigits 10 s.digits).length + s.scale
    if magnitude < -400 then some 0
    else if 400 < magnitude then none
    else
      let num := s.digits * Nat.pow 10 s.scale.toNat
      let den := Nat.pow 10 (-s.scale).toNat
      if num <<< 1075 ≤ den then some 0
      else if s.negative then none
      else
        let x := Binary64.nearest num den
        let (a, b) := x.ratio
        if numberLimit * b ≤ a then none else some (x.round second)

def ofText? (t : Text) : Option Nat := (readSeconds? t).bind ofSeconds?

def toBinary (d : Nat) : Binary64 :=
  (Binary64.nearest (d / second) 1).add (.nearest (d % second) second)

def render (d : Nat) : String :=
  let tenths := (toBinary d).round 10
  toString (tenths / 10) ++ "." ++ toString (tenths % 10) ++ "s"

end StructuralEdit.Duration
