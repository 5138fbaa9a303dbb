import StructuralEdit.Shell.Real
/-!
Formats: text with directives that say how values are written.
-/
namespace StructuralEdit.Shell

inductive Format.Amount where
  | absent
  | given (n : Nat)
  | argument
  deriving DecidableEq

structure Format.Directive where
  flags : Text := []
  width : Format.Amount := .absent
  precision : Format.Amount := .absent
  conversion : Char
  written : Text

namespace Format

def readAmount (t : Text) : Amount × Text :=
  match t with
  | '*' :: rest => (.argument, rest)
  | t =>
    let digits := t.takeWhile Char.isDigit
    if digits.isEmpty then (.absent, t)
    else (.given (ofDigits 10 digits), t.drop digits.length)

/-- Reads a directive behind its percent sign. Some letters for sizes are passed over. There is
none if the format ends before its letter; then the answer has what is written. -/
def readDirective (sizes : Text) (t : Text) : Except Text (Directive × Text) :=
  let flags := t.takeWhile fun c => "-+ #0'".toList.contains c
  let (width, rest) := readAmount (t.drop flags.length)
  let (precision, rest) : Amount × Text := match rest with
    | '.' :: rest => match readAmount rest with
      | (.absent, rest) => (.given 0, rest)
      | r => r
    | rest => (.absent, rest)
  let rest := rest.dropWhile fun c => sizes.contains c
  match rest with
  | [] => .error t
  | c :: rest =>
    .ok ({ flags, width, precision, conversion := c, written := t.take (t.length - rest.length) },
      rest)

structure Layout where
  left : Bool := false
  plus : Bool := false
  blank : Bool := false
  alternate : Bool := false
  zeros : Bool := false
  width : Nat := 0
  precision : Option Nat := none

/-- The layout of a directive whose amounts are known. A width below zero is one to the left. -/
def Directive.layout (d : Directive) (width : Option Int) (precision : Option Int) : Layout :=
  let w := width.getD 0
  { left := d.flags.contains '-' || w < 0
    plus := d.flags.contains '+', blank := d.flags.contains ' '
    alternate := d.flags.contains '#', zeros := d.flags.contains '0'
    width := w.natAbs
    precision := precision.bind fun p => if p < 0 then none else some p.toNat }

namespace Layout

def pad (l : Layout) (t : Text) : Text :=
  if l.left then padRight l.width t ' ' else padLeft l.width t ' '

def number (l : Layout) (zeros : Bool) (mark digits : Text) : Text :=
  if zeros ∧ !l.left then mark ++ padLeft (l.width - mark.length) digits '0'
  else l.pad (mark ++ digits)

def sign (l : Layout) (negative : Bool) : Text :=
  if negative then ['-'] else if l.plus then ['+'] else if l.blank then [' '] else []

/-- Digits with zeros in front up to the precision. Zero has no digits if the precision is
zero. -/
def withPrecision (l : Layout) (digits : Text) : Text :=
  match l.precision with
  | some p => if p = 0 ∧ digits = ['0'] then [] else padLeft p digits '0'
  | none => digits

def text (l : Layout) (t : Text) : Text :=
  l.pad (match l.precision with
    | some p => t.take p
    | none => t)

def decimal (l : Layout) (n : Int) : Text :=
  l.number (l.zeros && l.precision.isNone) (l.sign (n < 0)) (l.withPrecision (shown n.natAbs))

def unsigned (l : Layout) (conversion : Char) (n : Nat) : Text :=
  let base := match conversion with
    | 'o' => 8
    | 'x' | 'X' => 16
    | _ => 10
  let digits := l.withPrecision (digitsIn base n)
  let digits := if conversion = 'X' then digits.map Char.toUpper else digits
  let digits := if conversion = 'o' ∧ l.alternate ∧ digits.head? ≠ some '0' then '0' :: digits
    else digits
  let mark := if l.alternate ∧ n ≠ 0 ∧ base = 16 then ['0', conversion] else []
  l.number (l.zeros && l.precision.isNone) mark digits

def real (l : Layout) (conversion : Char) (r : Real) : Text :=
  let digits := r.digitsFor conversion (l.precision.getD 6) l.alternate
  l.number (l.zeros && r.isFinite) (l.sign r.isNegative) digits

end Layout

end Format

end StructuralEdit.Shell
