import StructuralEdit.Command
/-!
What a command does to a region, as a list of steps. The steps depend on the text alone: neither
changes nor what filters answer are seen by later parts of the command.
-/
namespace StructuralEdit

inductive Step where
  | print (r : Region)
  | edit (c : Change)
  | filter (command : Text) (r : Region)
  deriving DecidableEq, Repr

/-- The steps of a command up to its end, or up to the failure that ends it. -/
structure Walk where
  steps : List Step := []
  failure : Option Failure := none
  deriving DecidableEq, Repr

namespace Walk

def andThen (v w : Walk) : Walk :=
  match v.failure with
  | some _ => v
  | none => ⟨v.steps ++ w.steps, w.failure⟩

def each (walk : α → Walk) : List α → Walk
  | [] => {}
  | x :: xs =>
    let v := walk x
    if v.failure.isSome then v else v.andThen (each walk xs)

end Walk

/-- The matches of a pattern in a region, which sees nothing of the text around it. -/
def matchesInRegion (t : Text) (p : Pattern) (r : Region) : List Region :=
  (p.matchesIn (t.slice r)).map (·.shift r.start)

def targets (t : Text) (inverse : Bool) (p : Pattern) (r : Region) : List Region :=
  let found := matchesInRegion t p r
  if inverse then gaps r found else found

namespace Command

mutual

def walk (t : Text) : Command → Region → Walk
  | .print, r => { steps := [.print r] }
  | .delete, r => { steps := [.edit (.replace r [])] }
  | .change u, r => { steps := [.edit (.replace r u)] }
  | .append u, r => { steps := [.edit (.insert r.stop u)] }
  | .insert u, r => { steps := [.edit (.insert r.start u)] }
  | .filter f, r => { steps := [.filter f r] }
  | .extract inverse p sub, r => Walk.each (walk t sub) (targets t inverse p r)
  | .guard inverse p sub, r => if p.occursIn (t.slice r) != inverse then walk t sub r else {}
  | .group members, r => walkMembers t members r
  | .addressed a sub, r =>
    match a.resolve t r with
    | .ok s => walk t sub s
    | .error f => { failure := some f }

def walkMembers (t : Text) : List Command → Region → Walk
  | [], _ => {}
  | c :: cs, r =>
    let v := walk t c r
    if v.failure.isSome then v else v.andThen (walkMembers t cs r)

end

end Command

end StructuralEdit
