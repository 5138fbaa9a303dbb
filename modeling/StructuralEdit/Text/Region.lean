import StructuralEdit.Region
import StructuralEdit.Text.Lines
/-!
The regions of a text: the whole, its lines, and the part that a region covers.
-/
namespace StructuralEdit.Text

def whole (t : Text) : Region := ⟨0, size t⟩

def Valid (t : Text) (r : Region) : Prop :=
  r.start ≤ r.stop ∧ t.isBoundary r.start ∧ t.isBoundary r.stop

instance (t : Text) (r : Region) : Decidable (t.Valid r) :=
  inferInstanceAs (Decidable (_ ∧ _ ∧ _))

def slice (t : Text) (r : Region) : Text := dropBytes (takeBytes t r.stop) r.start

/-- The region between two places in either order, moved back to places inside the text. -/
def clampRegion (t : Text) (a b : Nat) : Region :=
  .between (t.clamp (min a b)) (t.clamp (max a b))

def lineFrom (here : Nat) : List Text → Nat → Region
  | [], _ => .point here
  | l :: _, 0 => ⟨here, here + size l⟩
  | l :: ls, n + 1 => lineFrom (here + size l) ls n

/-- The region of line `n`, counted from one. Line 0 is the start of the text. -/
def line (t : Text) : Nat → Region
  | 0 => .point 0
  | n + 1 => lineFrom 0 t.lines n

end StructuralEdit.Text
