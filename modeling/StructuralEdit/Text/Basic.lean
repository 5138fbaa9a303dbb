/-!
Text as a list of characters, with places in it counted in bytes of its UTF-8 form.
-/
namespace StructuralEdit

abbrev Text := List Char

def Text.precedes : Text → Text → Bool
  | [], _ => true
  | _ :: _, [] => false
  | a :: s, b :: t => a < b || (a = b && Text.precedes s t)

namespace Text

def size : Text → Nat
  | [] => 0
  | c :: t => c.utf8Size + size t

@[simp] theorem size_nil : size [] = 0 := rfl

@[simp] theorem size_cons (c : Char) (t : Text) : size (c :: t) = c.utf8Size + size t := rfl

@[simp] theorem size_append (s t : Text) : size (s ++ t) = size s + size t := by
  induction s with
  | nil => simp
  | cons c s ih => simp [ih, Nat.add_assoc]

/-- The longest beginning of at most `n` bytes. -/
def takeBytes : Text → Nat → Text
  | [], _ => []
  | c :: t, n => if c.utf8Size ≤ n then c :: takeBytes t (n - c.utf8Size) else []

def dropBytes : Text → Nat → Text
  | [], _ => []
  | c :: t, n => if c.utf8Size ≤ n then dropBytes t (n - c.utf8Size) else c :: t

@[simp] theorem takeBytes_append_dropBytes (t : Text) (n : Nat) :
    takeBytes t n ++ dropBytes t n = t := by
  fun_induction takeBytes t n with
  | case1 => rfl
  | case2 c t n h ih => simp [dropBytes, h, ih]
  | case3 c t n h => simp [dropBytes, h]

/-- The greatest place between two characters that is at most `n`. -/
def clamp (t : Text) (n : Nat) : Nat := size (takeBytes t n)

def isBoundary (t : Text) (n : Nat) : Bool := clamp t n = n

end Text

end StructuralEdit
