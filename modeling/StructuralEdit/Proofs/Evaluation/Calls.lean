import StructuralEdit.Evaluation
/-!
The calls of filters. A filter that keeps a list of its calls answers as it did without, and what
it is called with are the texts that the steps of the walk give to filters, in their order.
-/
namespace StructuralEdit

/-- What a filter remembers, with the commands and inputs it has been called with. -/
structure Logged (σ : Type) where
  state : σ
  calls : List (Text × Text) := []

def Filter.logged (filter : Filter σ) : Filter (Logged σ) := fun command input m =>
  let (answer, state) := filter command input m.state
  (answer, ⟨state, m.calls ++ [(command, input)]⟩)

def Step.call? (t : Text) : Step → Option (Text × Text)
  | .filter command r => some (command, t.slice r)
  | _ => none

def Walk.calls (t : Text) (w : Walk) : List (Text × Text) := w.steps.filterMap (Step.call? t)

namespace Evaluation

variable {filter : Filter σ} {t : Text}

theorem ofStep_logged (step : Step) (m : Logged σ) :
    ofStep filter.logged t m step = ((ofStep filter t m.state step).1,
      ⟨(ofStep filter t m.state step).2, m.calls ++ (step.call? t).toList⟩) := by
  cases step with
  | print r => simp [ofStep, Step.call?]
  | edit c => simp [ofStep, Step.call?]
  | filter command r =>
    simp only [ofStep, Filter.logged, Step.call?]
    rcases filter command (t.slice r) m.state with ⟨u | f, s⟩ <;> rfl

theorem ofSteps_logged (steps : List Step) (m : Logged σ) :
    ofSteps filter.logged t m steps = ((ofSteps filter t m.state steps).1,
      ⟨(ofSteps filter t m.state steps).2, m.calls ++ steps.filterMap (Step.call? t)⟩) := by
  induction steps generalizing m with
  | nil => simp [ofSteps]
  | cons step steps ih =>
    have calls : (step :: steps).filterMap (Step.call? t) =
        (step.call? t).toList ++ steps.filterMap (Step.call? t) := by
      cases call : step.call? t <;> simp [call]
    simp only [ofSteps, ofStep_logged, ih, calls, List.append_assoc]

end Evaluation

/-- A list of calls changes neither the evaluation nor what else is remembered. -/
theorem Command.evaluate_logged (c : Command) (filter : Filter σ) (t : Text) (r : Region)
    (m : Logged σ) :
    c.evaluate filter.logged t r m = ((c.evaluate filter t r m.state).1,
      ⟨(c.evaluate filter t r m.state).2, m.calls ++ (c.walk t r).calls t⟩) := by
  simp only [evaluate, Evaluation.ofSteps_logged, Walk.calls]

end StructuralEdit
