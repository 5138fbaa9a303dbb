import StructuralEdit.Proofs.Evaluation.Execution
import StructuralEdit.Proofs.Evaluation.Transcript
/-!
Filters do not steer. Which commands are run on which regions, what is printed, which filters are
called with which inputs and whether the run fails is the same for all filters. An answer only
decides what its own call adds: a change of its region or a failure.
-/
namespace StructuralEdit

variable {σ : Type} {t : Text}

def Step.isPrint : Step → Bool
  | .print _ => true
  | _ => false

theorem Evaluation.length_ofCalls {steps : List Step} {calls : List (Filter.Call σ)}
    (h : calls.map Filter.Call.question = steps.filterMap (Step.call? t)) :
    (ofCalls t steps calls).changes.length + (ofCalls t steps calls).failures.length =
      steps.countP fun step => !step.isPrint := by
  induction steps generalizing calls with
  | nil =>
    obtain rfl : calls = [] := by simpa using h
    rfl
  | cons step steps ih =>
    cases step with
    | print r =>
      have rest := ih h
      simpa [ofCalls, changesWith, Step.isPrint] using rest
    | edit c =>
      have rest := ih h
      simp only [ofCalls, changesWith, List.length_cons] at rest ⊢
      rw [List.countP_cons_of_pos rfl]
      omega
    | filter command r =>
      have asked : calls.map Filter.Call.question =
          (command, t.slice r) :: steps.filterMap (Step.call? t) := h
      obtain ⟨k, later, rfl, -, same⟩ := List.map_eq_cons_iff.mp asked
      have rest := ih same
      rw [ofCalls_filter, List.countP_cons_of_pos rfl, ← rest]
      cases k.answer with
      | ok u => simp [append, ofAnswer]; omega
      | error f => simp [append, ofAnswer]; omega

/-- There are steps, visits and a result such that with every filter, whatever it answers, a run
pays these visits, ends with this result and calls the filter as the steps say, in their order.
What it prints and which changes it asks for is given by the steps, but for one thing: each call
adds a change of its region if it succeeds, and its failure if it fails. So changes and failures
are as many with one filter as with another. An evaluation is such a run. -/
theorem Command.evaluate_unsteered (c : Command) (t : Text) (r : Region) :
    ∃ (steps : List Step) (visits : List (Command × Region)) (result : Except Failure Text),
      ∀ (σ : Type) (filter : Filter σ) (s : σ), ∃ (calls : List (Filter.Call σ)) (s' : σ),
        c.execute filter.transcribed t r { memory := ⟨s, []⟩ } =
          (result, ⟨.ofCalls t steps calls, ⟨s', calls⟩, visits⟩) ∧
        c.evaluate filter.transcribed t r ⟨s, []⟩ =
          (result.map fun _ => .ofCalls t steps calls, ⟨s', calls⟩) ∧
        c.evaluate filter t r s = (result.map fun _ => .ofCalls t steps calls, s') ∧
        Filter.Calls filter s calls s' ∧
        calls.map Filter.Call.question = steps.filterMap (Step.call? t) ∧
        (Evaluation.ofCalls t steps calls).changes.length +
            (Evaluation.ofCalls t steps calls).failures.length =
          steps.countP fun step => !step.isPrint := by
  obtain ⟨visits, follows⟩ := exists_execute_follows t c r
  refine ⟨(c.walk t r).steps, visits, (c.walk t r).result t, fun σ filter s => ?_⟩
  obtain ⟨calls, s', transcribed, plain, chain, asked⟩ :=
    Evaluation.ofSteps_transcribed filter t (c.walk t r).steps ⟨s, []⟩
  have run : c.execute filter.transcribed t r { memory := ⟨s, []⟩ } =
      ((c.walk t r).result t, ⟨.ofCalls t (c.walk t r).steps calls, ⟨s', calls⟩, visits⟩) := by
    have follow : c.execute filter.transcribed t r { memory := ⟨s, []⟩ } = _ := follows _ _ _
    simp [follow, Context.after, transcribed]
  have bare : c.execute filter t r { memory := s } =
      ((c.walk t r).result t, ⟨.ofCalls t (c.walk t r).steps calls, s', visits⟩) := by
    have follow : c.execute filter t r { memory := s } = _ := follows _ _ _
    simp [follow, Context.after, plain]
  refine ⟨calls, s', run, ?_, ?_, chain, asked, Evaluation.length_ofCalls asked⟩
  · rw [evaluate_eq_execute, run]
  · rw [evaluate_eq_execute, bare]

end StructuralEdit
