import StructuralEdit.Text.Region
/-!
Changes to a text, and their application. Changes are given by places in the text before any of
them is made, in any order.
-/
namespace StructuralEdit

structure Change where
  start : Nat
  stop : Nat
  text : Text
  deriving DecidableEq, Repr

namespace Change

def replace (r : Region) (text : Text) : Change := ⟨r.start, r.stop, text⟩

def insert (n : Nat) (text : Text) : Change := replace (.point n) text

def precedes (a b : Change) : Bool := a.start < b.start || (a.start == b.start && a.stop ≤ b.stop)

/-- Changes in the order of their places; those at the same place keep their order. -/
def ordered (cs : List Change) : List Change := cs.mergeSort precedes

inductive Conflict where
  | overlap (start stop : Nat)
  | splitsCharacter (start stop : Nat)
  deriving DecidableEq, Repr

def Conflict.message : Conflict → String
  | .overlap a b =>
    "change #" ++ toString a ++ ",#" ++ toString b ++
      " overlaps another change or lies outside the buffer"
  | .splitsCharacter a b =>
    "change #" ++ toString a ++ ",#" ++ toString b ++ " splits a character"

/-- Makes changes from the last to the first. What follows byte `limit` is already changed, to
`tail`. -/
def applyBackward (t : Text) (limit : Nat) (tail : Text) : List Change → Except Conflict Text
  | [] => .ok (t.takeBytes limit ++ tail)
  | c :: cs =>
    if c.stop < c.start ∨ limit < c.stop then .error (.overlap c.start c.stop)
    else if t.isBoundary c.start ∧ t.isBoundary c.stop then
      applyBackward t c.start (c.text ++ t.slice ⟨c.stop, limit⟩ ++ tail) cs
    else .error (.splitsCharacter c.start c.stop)

def applyAll (t : Text) (cs : List Change) : Except Conflict Text :=
  applyBackward t t.size [] (ordered cs).reverse

end Change

end StructuralEdit
