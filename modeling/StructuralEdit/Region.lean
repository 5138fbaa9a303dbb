/-!
Stretches of a text, given by the bytes at which they start and stop.
-/
namespace StructuralEdit

/-- The bytes from `start` up to but not including `stop`. -/
structure Region where
  start : Nat
  stop : Nat
  deriving DecidableEq, Repr, Inhabited

namespace Region

/-- The region between two places; it is empty at the first if the second lies before it. -/
def between (start stop : Nat) : Region := ⟨start, max start stop⟩

def point (n : Nat) : Region := ⟨n, n⟩

def isEmpty (r : Region) : Bool := r.start = r.stop

def shift (r : Region) (base : Nat) : Region := ⟨r.start + base, r.stop + base⟩

def render (r : Region) : String := "#" ++ toString r.start ++ ",#" ++ toString r.stop

end Region

end StructuralEdit
