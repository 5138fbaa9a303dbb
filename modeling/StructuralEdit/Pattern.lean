import StructuralEdit.Regex.Match
import StructuralEdit.Region
/-!
Patterns that can be searched for. A search gives the leftmost match, and of those that start
there the one the pattern prefers; it sees the whole text, also before the place it starts from.
-/
namespace StructuralEdit

/-- The source of a pattern with the program that it stands for. -/
structure Pattern where
  source : Text
  program : Regex.Program
  ofPattern_eq : Regex.Program.ofPattern source = .ok program

namespace Pattern

theorem eq_of_source {p q : Pattern} (h : p.source = q.source) : p = q := by
  cases p with
  | mk s a ha =>
    cases q with
    | mk t b hb =>
      cases h
      cases Except.ok.inj (ha.symm.trans hb)
      rfl

instance : DecidableEq Pattern := fun p q =>
  if h : p.source = q.source then isTrue (eq_of_source h)
  else isFalse fun e => h (congrArg source e)

instance : Repr Pattern := ⟨fun p n => reprPrec p.source n⟩

def ofSource (source : Text) : Except Regex.PatternError Pattern :=
  match h : Regex.Program.ofPattern source with
  | .ok program => .ok ⟨source, program, h⟩
  | .error e => .error e

/-- The leftmost match in `rest`, which starts at byte `here` behind the character `prev`. -/
def findFrom (p : Pattern) (prev : Option Char) (here : Nat) : Text → Option Region
  | [] => (p.program.matchLength? prev []).map fun n => ⟨here, here + n⟩
  | c :: rest =>
    match p.program.matchLength? prev (c :: rest) with
    | some n => some ⟨here, here + n⟩
    | none => findFrom p (some c) (here + c.utf8Size) rest

def seek (p : Pattern) (n : Nat) (prev : Option Char) (here : Nat) : Text → Option Region
  | [] => if n ≤ here then p.findFrom prev here [] else none
  | c :: rest =>
    if n ≤ here then p.findFrom prev here (c :: rest)
    else seek p n (some c) (here + c.utf8Size) rest

def find? (p : Pattern) (t : Text) (n : Nat) : Option Region := p.seek n none 0 t

def occursIn (p : Pattern) (t : Text) : Bool := (p.find? t 0).isSome

end Pattern

end StructuralEdit
