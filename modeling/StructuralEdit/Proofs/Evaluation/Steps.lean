import StructuralEdit.Evaluation
/-!
What an evaluation collects from the steps of a walk. For a filter whose answers do not depend on
what it remembers, each step adds changes of its own, whatever was collected before it.
-/
namespace StructuralEdit

/-- The answers of the filter are those of `f`, whatever it remembers. -/
def Answers (filter : Filter σ) (f : Text → Text → Except Failure Text) : Prop :=
  ∀ command input s, (filter command input s).1 = f command input

/-- The changes that come of one step. A filter that fails changes nothing. -/
def Step.changes (f : Text → Text → Except Failure Text) (t : Text) : Step → List Change
  | .print _ => []
  | .edit c => [c]
  | .filter command r =>
    match f command (t.slice r) with
    | .ok u => [.replace r u]
    | .error _ => []

def Walk.changes (f : Text → Text → Except Failure Text) (t : Text) (w : Walk) : List Change :=
  w.steps.flatMap (Step.changes f t)

namespace Evaluation

variable {filter : Filter σ} {f : Text → Text → Except Failure Text} {t : Text}

theorem changes_ofStep (hf : Answers filter f) (step : Step) (s : σ) :
    (ofStep filter t s step).1.changes = step.changes f t := by
  cases step with
  | print r => rfl
  | edit c => rfl
  | filter command r =>
    have answer := hf command (t.slice r) s
    rw [ofStep, Step.changes, ← answer]
    rcases filter command (t.slice r) s with ⟨u | e, s'⟩ <;> rfl

theorem changes_ofSteps (hf : Answers filter f) (steps : List Step) (s : σ) :
    (ofSteps filter t s steps).1.changes = steps.flatMap (Step.changes f t) := by
  induction steps generalizing s with
  | nil => rfl
  | cons step steps ih =>
    simp only [ofSteps, append, List.flatMap_cons, changes_ofStep hf, ih]

end Evaluation

theorem evaluate_of_walk {filter : Filter σ} {f : Text → Text → Except Failure Text} {t : Text}
    {c : Command} {r : Region} (hf : Answers filter f) (h : (c.walk t r).failure = none) (s : σ) :
    ∃ e s', c.evaluate filter t r s = (.ok e, s') ∧ e.changes = (c.walk t r).changes f t := by
  have collected := Evaluation.changes_ofSteps (t := t) hf (c.walk t r).steps s
  rcases hsteps : Evaluation.ofSteps filter t s (c.walk t r).steps with ⟨e, s'⟩
  rw [hsteps] at collected
  refine ⟨e, s', ?_, collected⟩
  simp only [Command.evaluate, h, hsteps, Option.elim_none]

theorem Walk.each_of_failure_eq_none {walk : α → Walk} {xs : List α}
    (h : ∀ x ∈ xs, (walk x).failure = none) :
    Walk.each walk xs = ⟨xs.flatMap fun x => (walk x).steps, none⟩ := by
  induction xs with
  | nil => rfl
  | cons x xs ih =>
    have first := h x (by simp)
    have later := ih fun y hy => h y (by simp [hy])
    simp [Walk.each, Walk.andThen, first, later]

end StructuralEdit
