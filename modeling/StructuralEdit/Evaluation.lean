import StructuralEdit.Walk
/-!
What comes of a command: the changes it asks for, what it prints, and the filters that failed.
Nothing is changed until the whole command has been evaluated.
-/
namespace StructuralEdit

/-- A filter program as a function of a command and its input. What it remembers from call to call
is a value of type `σ`. -/
abbrev Filter (σ : Type) := Text → Text → σ → Except Failure Text × σ

structure Evaluation where
  changes : List Change := []
  output : Text := []
  failures : List Failure := []
  deriving DecidableEq, Repr

namespace Evaluation

def append (a b : Evaluation) : Evaluation :=
  ⟨a.changes ++ b.changes, a.output ++ b.output, a.failures ++ b.failures⟩

def hasChanges (e : Evaluation) : Bool := !e.changes.isEmpty

def outputLines (e : Evaluation) : Nat := e.output.rows.length

def apply (e : Evaluation) (t : Text) : Except Failure Text :=
  match Change.applyAll t e.changes with
  | .ok u => .ok u
  | .error c => .error (.conflict c)

def ofStep (filter : Filter σ) (t : Text) (s : σ) : Step → Evaluation × σ
  | .print r => ({ output := t.slice r ++ ['\n'] }, s)
  | .edit c => ({ changes := [c] }, s)
  | .filter f r =>
    match filter f (t.slice r) s with
    | (.ok u, s) => ({ changes := [.replace r u] }, s)
    | (.error e, s) => ({ failures := [e] }, s)

def ofSteps (filter : Filter σ) (t : Text) (s : σ) : List Step → Evaluation × σ
  | [] => ({}, s)
  | step :: steps =>
    let (a, s) := ofStep filter t s step
    let (b, s) := ofSteps filter t s steps
    (a.append b, s)

end Evaluation

/-- Evaluates a command on a region. Filters run in order, also those before a failure that ends
the evaluation. -/
def Command.evaluate (c : Command) (filter : Filter σ) (t : Text) (r : Region) (s : σ) :
    Except Failure Evaluation × σ :=
  let w := c.walk t r
  let (e, s) := Evaluation.ofSteps filter t s w.steps
  (w.failure.elim (.ok e) .error, s)

end StructuralEdit
