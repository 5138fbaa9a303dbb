import StructuralEdit.Pattern
import StructuralEdit.Text.Region
/-!
All matches of a pattern in a text, and the stretches between them.
-/
namespace StructuralEdit

namespace Pattern

/-- The next match for a scan that stands at byte `n`. A scan does not report an empty match at
the end of the match before it, but looks one byte further. -/
def nextMatch? (p : Pattern) (t : Text) (n : Nat) (lastStop : Option Nat) : Option Region :=
  match p.find? t n with
  | none => none
  | some m => if m.isEmpty ∧ lastStop = some m.stop then p.find? t (n + 1) else some m

def scanFrom (p : Pattern) (t : Text) : Nat → Nat → Option Nat → List Region
  | 0, _, _ => []
  | bound + 1, n, lastStop =>
    match p.nextMatch? t n lastStop with
    | none => []
    | some m => m :: scanFrom p t bound m.stop (some m.stop)

/-- The successive matches in a text, from the left. No two of them stop at one place, so there
are at most as many as there are places. -/
def scan (p : Pattern) (t : Text) : List Region := p.scanFrom t (t.size + 1) 0 none

def afterChar? (t : Text) (n : Nat) : Option Nat :=
  (t.dropBytes n).head?.map fun c => n + c.utf8Size

/-- The matches found from byte `cursor` on. An empty match moves the cursor on by one character,
and is left out where the match before it stops. The first argument bounds the steps. -/
def matchesFrom (p : Pattern) (t : Text) : Nat → Nat → Option Nat → List Region
  | 0, _, _ => []
  | bound + 1, cursor, lastStop =>
    match p.find? t cursor with
    | none => []
    | some m =>
      let rest :=
        if m.isEmpty then
          match afterChar? t m.stop with
          | some next => matchesFrom p t bound next (some m.stop)
          | none => []
        else matchesFrom p t bound m.stop (some m.stop)
      if m.isEmpty ∧ lastStop = some m.start then rest else m :: rest

def matchesIn (p : Pattern) (t : Text) : List Region := p.matchesFrom t (t.size + 1) 0 none

end Pattern

def stretches (last stop : Nat) : List Region → List Region
  | [] => [.between last stop]
  | m :: ms => .between last m.start :: stretches m.stop stop ms

/-- The non-empty stretches of a region between the matches in it, or the region itself if there
are none. -/
def gaps (r : Region) (found : List Region) : List Region :=
  if found.isEmpty then [r]
  else (stretches r.start r.stop found).filter fun g => !g.isEmpty

end StructuralEdit
