import StructuralEdit.Regex.Program
/-!
Running a program on text. All ways to match go forward together, one character at a time, in
order of preference; where two of them meet, the preferred one goes on.
-/
namespace StructuralEdit.Regex

def Alphabet.has : Alphabet → Option Char → Bool
  | _, none => false
  | .unicode, some c => Property.word.contains c
  | .ascii, some c => AsciiClass.word.members.contains c

def Look.holds (prev next : Option Char) : Look → Bool
  | .textStart => prev.isNone
  | .textEnd => next.isNone
  | .lineStart => prev.isNone || prev = some '\n'
  | .lineEnd => next.isNone || next = some '\n'
  | .lineStartCrlf =>
    prev.isNone || prev = some '\n' || (prev = some '\r' && next ≠ some '\n')
  | .lineEndCrlf =>
    next.isNone || next = some '\r' || (next = some '\n' && prev ≠ some '\r')
  | .wordBoundary k => k.has prev != k.has next
  | .notWordBoundary k => k.has prev == k.has next
  | .wordStart k => !k.has prev && k.has next
  | .wordEnd k => k.has prev && !k.has next
  | .wordStartHalf k => !k.has prev
  | .wordEndHalf k => !k.has next

namespace Program

/-- The instructions that read or accept and are reached from `stack` without reading, most
preferred first. Each instruction is visited once; `seen` is the set of those visited. The first
argument bounds the steps. -/
def reach (p : Program) (prev next : Option Char) :
    Nat → List Nat → Nat → List Instruction
  | 0, _, _ => []
  | _ + 1, [], _ => []
  | n + 1, i :: stack, seen =>
    if seen.testBit i then reach p prev next n stack seen
    else
      let seen := seen ||| (1 <<< i)
      match p.code[i]? with
      | none => reach p prev next n stack seen
      | some (.branch a b) => reach p prev next n (a :: b :: stack) seen
      | some (.test l k) =>
        reach p prev next n (if l.holds prev next then k :: stack else stack) seen
      | some i => i :: reach p prev next n stack seen

def preferred : List Instruction → List (CharSet × Nat) × Bool
  | [] => ([], false)
  | .accept :: _ => ([], true)
  | .read s k :: is => ((s, k) :: (preferred is).1, (preferred is).2)
  | _ :: is => preferred is

/-- The length in bytes of the preferred match, when the instructions `is` are reached after
`consumed` bytes and `best` is the match found so far. -/
def run (p : Program) (prev : Option Char) (is : List Nat) (consumed : Nat)
    (best : Option Nat) : Text → Option Nat
  | [] =>
    let (_, accepts) := preferred (reach p prev none (is.length + 2 * p.code.size + 1) is 0)
    if accepts then some consumed else best
  | c :: rest =>
    let (ways, accepts) :=
      preferred (reach p prev (some c) (is.length + 2 * p.code.size + 1) is 0)
    let best := if accepts then some consumed else best
    match ways.filterMap fun (s, k) => if s.contains c then some k else none with
    | [] => best
    | is => run p (some c) is (consumed + c.utf8Size) best rest

/-- The length in bytes of the preferred match at the start of `rest`, where `prev` stands before
it. -/
def matchLength? (p : Program) (prev : Option Char) (rest : Text) : Option Nat :=
  run p prev [p.entry] 0 none rest

end Program

end StructuralEdit.Regex
