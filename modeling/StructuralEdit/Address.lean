import StructuralEdit.Pattern.Matches
import StructuralEdit.Escape
import StructuralEdit.Failure
/-!
Addresses: where in a text a command works, seen from a current region.
-/
namespace StructuralEdit

inductive Direction where
  | forward
  | backward
  deriving DecidableEq, Repr

def Direction.delimiter : Direction → Char
  | .forward => '/'
  | .backward => '?'

inductive Address where
  | dot
  | finish
  | char (n : Nat)
  /-- A line, counted from one; line 0 is the start of the text. -/
  | line (n : Nat)
  | search (d : Direction) (p : Pattern)
  | range (a b : Address)
  deriving DecidableEq, Repr

namespace Address

def wholeText : Address := .range (.line 0) .finish

def render : Address → Text
  | .dot => ['.']
  | .finish => ['$']
  | .char n => '#' :: Nat.toDigits 10 n
  | .line n => Nat.toDigits 10 n
  | .search d p => d.delimiter :: escape d.delimiter p.source ++ [d.delimiter]
  | .range (.line 0) .finish => [',']
  | .range a b => render a ++ ',' :: render b

/-- The first match at or after a place, else the first before it. -/
def searchForward (t : Text) (p : Pattern) (n : Nat) : Option Region :=
  (p.find? t n).or ((p.scan t).find? fun m => m.start < n)

/-- The last match that stops at a place or before it, else the last that starts there or after
it. -/
def searchBackward (t : Text) (p : Pattern) (n : Nat) : Option Region :=
  -- A scan passes over matches that overlap the one before them.
  ((p.scan t).filter fun m => m.stop ≤ n).getLast?.or
    ((p.scan t).filter fun m => n ≤ m.start).getLast?

/-- The region that an address stands for. The end of a range is found from where its start
is. -/
def resolve (t : Text) (current : Region) : Address → Except Failure Region
  | .dot => .ok current
  | .finish => .ok (.point t.size)
  | .char n => .ok (.point (t.clamp n))
  | .line n => .ok (t.line n)
  | .search .forward p =>
    match searchForward t p (t.clamp current.stop) with
    | some m => .ok m
    | none => .error (.notFound p.source)
  | .search .backward p =>
    match searchBackward t p (t.clamp current.start) with
    | some m => .ok m
    | none => .error (.notFound p.source)
  | .range a b => do
    let first ← a.resolve t current
    let second ← b.resolve t first
    return .between first.start second.stop

end Address

end StructuralEdit
