/-!
Sets of characters as ordered lists of code point ranges. Surrogates are no characters: a range
never starts or ends on one, but it may reach across them.
-/
namespace StructuralEdit

/-- A set of characters. The ranges are inclusive and ascending. Ranges that touch are one, except
in a complement. -/
structure CharSet where
  ranges : List (Nat × Nat)
  deriving DecidableEq, Repr

namespace CharSet

def maxCode : Nat := 0x10FFFF

def succCode (n : Nat) : Nat := if n = 0xD7FF then 0xE000 else n + 1

def predCode (n : Nat) : Nat := if n = 0xE000 then 0xD7FF else n - 1

/-- Joins ascending ranges that touch or overlap, the first of them given apart. Ranges on the two
sides of the surrogates do not touch. -/
def joinFrom (r : Nat × Nat) : List (Nat × Nat) → List (Nat × Nat)
  | [] => [r]
  | s :: rs => if s.1 ≤ r.2 + 1 then joinFrom (r.1, max r.2 s.2) rs else r :: joinFrom s rs

def joinRanges : List (Nat × Nat) → List (Nat × Nat)
  | [] => []
  | r :: rs => joinFrom r rs

def ofRanges (rs : List (Nat × Nat)) : CharSet := ⟨joinRanges (rs.mergeSort fun a b => a.1 ≤ b.1)⟩

def empty : CharSet := ⟨[]⟩

def all : CharSet := ⟨[(0, maxCode)]⟩

def singleton (c : Char) : CharSet := ⟨[(c.toNat, c.toNat)]⟩

def interval (a b : Char) : CharSet := ⟨[(a.toNat, b.toNat)]⟩

def ofChars (cs : List Char) : CharSet := .ofRanges (cs.map fun c => (c.toNat, c.toNat))

def isEmpty (s : CharSet) : Bool := s.ranges.isEmpty

def isAscii (s : CharSet) : Bool := s.ranges.all fun r => r.2 < 128

def hasCodeIn (n : Nat) : List (Nat × Nat) → Bool
  | [] => false
  | (lo, hi) :: rs => if n < lo then false else if n ≤ hi then true else hasCodeIn n rs

def hasCode (s : CharSet) (n : Nat) : Bool := hasCodeIn n s.ranges

def contains (s : CharSet) (c : Char) : Bool := s.hasCode c.toNat

def union (s t : CharSet) : CharSet := .ofRanges (s.ranges ++ t.ranges)

/-- The ranges between the given ones, the first of which ends at `last`, and behind them. The gap
between two ranges has the ends that follow the one and precede the other, in order; so ranges
that meet at the surrogates leave a gap of the two characters that they meet with. -/
def gapsAfter (last : Nat) : List (Nat × Nat) → List (Nat × Nat)
  | [] => if last < maxCode then [(succCode last, maxCode)] else []
  | (lo, hi) :: rs =>
    let a := succCode last
    let b := predCode lo
    (min a b, max a b) :: gapsAfter hi rs

def compl (s : CharSet) : CharSet :=
  match s.ranges with
  | [] => all
  | (lo, hi) :: rs => ⟨(if 0 < lo then [(0, predCode lo)] else []) ++ gapsAfter hi rs⟩

def partsIn (r : Nat × Nat) : List (Nat × Nat) → List (Nat × Nat)
  | [] => []
  | (lo, hi) :: rs =>
    if r.2 < lo then []
    else if hi < r.1 then partsIn r rs
    else (max r.1 lo, min r.2 hi) :: partsIn r rs

def inter (s t : CharSet) : CharSet := ⟨s.ranges.flatMap (partsIn · t.ranges)⟩

def partsOutside (r : Nat × Nat) : List (Nat × Nat) → List (Nat × Nat)
  | [] => [r]
  | (lo, hi) :: rs =>
    if r.2 < lo then [r]
    else if hi < r.1 then partsOutside r rs
    else
      let rest := if hi < r.2 then partsOutside (succCode hi, r.2) rs else []
      if r.1 < lo then (r.1, predCode lo) :: rest else rest

def diff (s t : CharSet) : CharSet := ⟨s.ranges.flatMap (partsOutside · t.ranges)⟩

def symmDiff (s t : CharSet) : CharSet := (s.union t).diff (s.inter t)

def singleton? (s : CharSet) : Option Char :=
  match s.ranges with
  | [(lo, hi)] => if lo = hi then some (Char.ofNat lo) else none
  | _ => none

def toList (s : CharSet) : List Nat :=
  s.ranges.flatMap fun (lo, hi) => (List.range (hi + 1 - lo)).map (lo + ·)

end CharSet

end StructuralEdit
