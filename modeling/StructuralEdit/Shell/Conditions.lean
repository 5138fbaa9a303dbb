import StructuralEdit.Shell.Builtin.Test
import StructuralEdit.Shell.Expansion
import StructuralEdit.Shell.Posix.Search
/-!
The command that tests a condition, and conditions between double brackets: words in those are not
split, and patterns stand on their right.
-/
namespace StructuralEdit.Shell.Machine

def regexText (ps : List Piece) : Text :=
  (Piece.quotable ps).flatMap fun (c, quoted) =>
    if quoted ∧ "\\.[]*+?()|^$\x7b\x7d".toList.contains c then ['\\', c] else [c]

def keepMatch (t : Array Char) (groups : Nat) (found : Posix.Match) (m : Machine) : Machine :=
  let parts := (List.range (groups + 1)).map fun (n : Nat) => ((n : Int), found.part t n)
  m.store "BASH_REMATCH".toList (.indexed parts)

def matchesRegex (run : Runner) (t : Text) (w : Word) (m : Machine) : Bool × Machine :=
  let (ps, m) := pieces run false depth w m
  let m := { m with status := 0 }
  let ignoresCase := m.hasFeature "nocasematch"
  match Posix.read { grammar := .extended, ignoresCase } (regexText ps) with
  | .error _ => (false, { m with status := 2 })
  | .ok r =>
    let chars := t.toArray
    match r.find? chars 0 with
    | some found => (true, m.keepMatch chars r.groups found)
    | none => (false, m.store "BASH_REMATCH".toList (.indexed []))

def isSet (t : Text) (m : Machine) : Bool × Machine :=
  let name := t.takeWhile (· ≠ '[')
  if name.length < t.length then
    let (v, m) := m.itemAt name ((t.drop (name.length + 1)).dropLast)
    (v.isSome, m)
  else ((m.parameter? t).isSome, m)

def facts (m : Machine) : Testing.Facts where
  files := m.files
  isSet t := (m.isSet t).1
  isOn t := m.has (String.ofList t)
  isReference t := (m.binding? t).any (·.isReference)

def holds (run : Runner) : Condition → Machine → Bool × Machine
  | .not c, m =>
    let (b, m) := holds run c m
    (!b, m)
  | .both a b, m =>
    let (x, m) := holds run a m
    if x ∧ m.isRunning then holds run b m else (false, m)
  | .either a b, m =>
    let (x, m) := holds run a m
    if x ∨ !m.isRunning then (x, m) else holds run b m
  | .unary o w, m =>
    let (t, m) := m.expandText run w
    match String.ofList o with
    | "-v" =>
      m.isSet t
    | _ => (Testing.unary m.facts o t, m)
  | .binary o a b, m =>
    let (x, m) := m.expandText run a
    match String.ofList o with
    | "=" | "==" =>
      let (g, m) := m.expandGlob run { m.textStyle with groups := true } b
      (g.accepts x, m)
    | "!=" =>
      let (g, m) := m.expandGlob run { m.textStyle with groups := true } b
      (!g.accepts x, m)
    | "=~" => m.matchesRegex run x b
    | s =>
      let (y, m) := m.expandText run b
      if Testing.numeric.contains s then
        let (i, m) := m.number x
        let (j, m) := m.number y
        (Testing.compareNumbers o i j, m)
      else match Testing.binary m.facts o x y with
        | .ok r => (r, m)
        | .error _ => (false, m)

/-- The command that tests a condition. With a bracket as its name it needs another one at the
end. -/
def test (name : Text) (args : List Text) (m : Machine) : Machine :=
  let noBracket := match m.dialect with
    | .dash => "missing ]"
    | .bash => "missing \x60]'"
  if name = ['['] ∧ args.getLast? ≠ some [']'] then m.complainOf name noBracket 2
  else
    let args := if name = ['['] then args.dropLast else args
    match Testing.holds (.shell m.dialect) m.facts args with
    | .ok b => { m with status := if b then 0 else 1 }
    | .error e =>
      m.complain (name ++ ": ".toList ++ e.message (.shell m.dialect)) 2

end StructuralEdit.Shell.Machine
