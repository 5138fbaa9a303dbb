import StructuralEdit.Proofs.Evaluation.Calls
/-!
Transcripts. A filter that keeps a transcript answers as it did without, and writes down each call:
the command and the input, the answer, and what the filter remembers before and after it. What
comes of steps is determined by the steps and the answers in the transcript.
-/
namespace StructuralEdit

variable {σ : Type}

structure Filter.Call (σ : Type) where
  command : Text
  input : Text
  before : σ
  answer : Except Failure Text
  after : σ

namespace Filter.Call

def question (k : Call σ) : Text × Text := (k.command, k.input)

def failure? (k : Call σ) : Option Failure :=
  match k.answer with
  | .ok _ => none
  | .error f => some f

end Filter.Call

/-- What a filter remembers, with its calls so far. -/
structure Transcript (σ : Type) where
  state : σ
  calls : List (Filter.Call σ) := []

def Filter.transcribed (filter : Filter σ) : Filter (Transcript σ) := fun command input m =>
  let (answer, after) := filter command input m.state
  (answer, ⟨after, m.calls ++ [⟨command, input, m.state, answer, after⟩]⟩)

/-- Calls of a filter one after the other, from what it remembers first to what it remembers in
the end. -/
inductive Filter.Calls (filter : Filter σ) : σ → List (Call σ) → σ → Prop
  | nil (s : σ) : Calls filter s [] s
  | cons {command input : Text} {s s' s'' : σ} {answer : Except Failure Text}
      {calls : List (Call σ)} : filter command input s = (answer, s') →
      Calls filter s' calls s'' → Calls filter s (⟨command, input, s, answer, s'⟩ :: calls) s''

theorem Filter.Calls.append {filter : Filter σ} {s s' s'' : σ} {first later : List (Call σ)}
    (h : Calls filter s first s') (k : Calls filter s' later s'') :
    Calls filter s (first ++ later) s'' := by
  induction h with
  | nil => exact k
  | cons asked _ ih => exact .cons asked (ih k)

theorem Filter.Calls.answered {filter : Filter σ} {s s' : σ} {calls : List (Call σ)}
    (h : Calls filter s calls s') (k : Call σ) (hk : k ∈ calls) :
    filter k.command k.input k.before = (k.answer, k.after) := by
  induction h with
  | nil => cases hk
  | cons asked _ ih =>
    rcases List.mem_cons.mp hk with rfl | later
    · exact asked
    · exact ih later

theorem Filter.Calls.keeps {filter : Filter σ} {P : σ → Prop} {s s' : σ} {calls : List (Call σ)}
    (h : Calls filter s calls s') (hs : P s) (kept : ∀ k ∈ calls, P k.before → P k.after) :
    P s' := by
  induction h with
  | nil => exact hs
  | cons asked _ ih =>
    obtain ⟨first, later⟩ := List.forall_mem_cons.mp kept
    exact ih (first hs) later

theorem Step.exists_of_call? {t : Text} {step : Step} {question : Text × Text}
    (h : step.call? t = some question) : ∃ command r, step = .filter command r := by
  cases step with
  | filter command r => exact ⟨command, r, rfl⟩
  | _ => cases h

def Step.output (t : Text) : Step → Text
  | .print r => t.slice r ++ ['\n']
  | _ => []

/-- The changes that come of steps if the filters give these answers in turn. A call that succeeds
replaces its region, and one that fails changes nothing. -/
def changesWith : List Step → List (Except Failure Text) → List Change
  | [], _ => []
  | .print _ :: steps, answers => changesWith steps answers
  | .edit c :: steps, answers => c :: changesWith steps answers
  | .filter _ r :: steps, .ok u :: answers => .replace r u :: changesWith steps answers
  | .filter _ _ :: steps, .error _ :: answers => changesWith steps answers
  | .filter _ _ :: steps, [] => changesWith steps []

namespace Evaluation

def ofAnswer (r : Region) : Except Failure Text → Evaluation
  | .ok u => { changes := [.replace r u] }
  | .error f => { failures := [f] }

def ofCalls (t : Text) (steps : List Step) (calls : List (Filter.Call σ)) : Evaluation where
  changes := changesWith steps (calls.map (·.answer))
  output := steps.flatMap (Step.output t)
  failures := calls.filterMap (·.failure?)

variable {τ : Type} {t : Text} {steps : List Step} {calls : List (Filter.Call σ)}

theorem ofSteps_cons (filter : Filter σ) (s : σ) (step : Step) :
    ofSteps filter t s (step :: steps) =
      ((ofStep filter t s step).1.append (ofSteps filter t (ofStep filter t s step).2 steps).1,
        (ofSteps filter t (ofStep filter t s step).2 steps).2) := rfl

theorem ofStep_filter (filter : Filter σ) (t : Text) (s : σ) (command : Text) (r : Region) :
    ofStep filter t s (.filter command r) =
      (ofAnswer r (filter command (t.slice r) s).1, (filter command (t.slice r) s).2) := by
  rw [ofStep]
  rcases filter command (t.slice r) s with ⟨u | f, s'⟩ <;> rfl

theorem ofCalls_filter (command : Text) (r : Region) (k : Filter.Call σ) :
    ofCalls t (.filter command r :: steps) (k :: calls) =
      (ofAnswer r k.answer).append (ofCalls t steps calls) := by
  rcases k with ⟨_, _, _, u | f, _⟩
  · simp [ofCalls, ofAnswer, append, changesWith, Step.output, Filter.Call.failure?]
  · simp [ofCalls, ofAnswer, append, changesWith, Step.output, Filter.Call.failure?]

theorem ofCalls_silent {step : Step} (h : step.call? t = none) (filter : Filter τ) (s : τ)
    (steps : List Step) (calls : List (Filter.Call σ)) :
    (ofStep filter t s step).2 = s ∧
      ofCalls t (step :: steps) calls =
        (ofStep filter t s step).1.append (ofCalls t steps calls) := by
  cases step with
  | print r => simp [ofCalls, ofStep, append, changesWith, Step.output]
  | edit c => simp [ofCalls, ofStep, append, changesWith, Step.output]
  | filter command r => cases h

theorem ofSteps_transcribed (filter : Filter σ) (t : Text) (steps : List Step)
    (m : Transcript σ) :
    ∃ calls s,
      ofSteps filter.transcribed t m steps = (ofCalls t steps calls, ⟨s, m.calls ++ calls⟩) ∧
      ofSteps filter t m.state steps = (ofCalls t steps calls, s) ∧
      Filter.Calls filter m.state calls s ∧
      calls.map Filter.Call.question = steps.filterMap (Step.call? t) := by
  induction steps generalizing m with
  | nil =>
    refine ⟨[], m.state, ?_, rfl, .nil _, rfl⟩
    rw [List.append_nil]
    rfl
  | cons step steps ih =>
    -- A step without a call has no part in the transcript; a call comes before those of the rest.
    cases call : step.call? t with
    | none =>
      obtain ⟨calls, s, transcribed, plain, chain, asked⟩ := ih m
      refine ⟨calls, s, ?_, ?_, chain, by rw [List.filterMap_cons_none call, asked]⟩
      · obtain ⟨same, made⟩ := ofCalls_silent call filter.transcribed m steps calls
        rw [ofSteps_cons, same, transcribed, made]
      · obtain ⟨same, made⟩ := ofCalls_silent call filter m.state steps calls
        rw [ofSteps_cons, same, plain, made]
    | some question =>
      obtain ⟨command, r, rfl⟩ := Step.exists_of_call? call
      rcases answered : filter command (t.slice r) m.state with ⟨answer, after⟩
      let k : Filter.Call σ := ⟨command, t.slice r, m.state, answer, after⟩
      have asks : filter.transcribed command (t.slice r) m = (answer, ⟨after, m.calls ++ [k]⟩) := by
        simp only [Filter.transcribed, answered, k]
      obtain ⟨calls, s, transcribed, plain, chain, asked⟩ := ih ⟨after, m.calls ++ [k]⟩
      refine ⟨k :: calls, s, ?_, ?_, .cons answered chain, ?_⟩
      · simp only [ofSteps_cons, ofStep_filter, ofCalls_filter, asks, transcribed,
          List.append_assoc, List.singleton_append, k]
      · simp only [ofSteps_cons, ofStep_filter, ofCalls_filter, answered, plain, k]
      · have first : k.question = (command, t.slice r) := rfl
        rw [List.map_cons, asked, first]
        rfl

end Evaluation

/-- An evaluation with a transcript comes to what it comes to without, and that is given by the
calls that it adds to the transcript. -/
theorem Command.evaluate_transcribed (c : Command) (filter : Filter σ) (t : Text) (r : Region)
    (m : Transcript σ) :
    ∃ calls s',
      let w := c.walk t r
      let result : Except Failure Evaluation :=
        w.failure.elim (.ok (.ofCalls t w.steps calls)) .error
      c.evaluate filter.transcribed t r m = (result, ⟨s', m.calls ++ calls⟩) ∧
        c.evaluate filter t r m.state = (result, s') ∧ Filter.Calls filter m.state calls s' ∧
        calls.map Filter.Call.question = w.calls t := by
  obtain ⟨calls, s', transcribed, plain, chain, asked⟩ :=
    Evaluation.ofSteps_transcribed filter t (c.walk t r).steps m
  refine ⟨calls, s', ?_, ?_, chain, asked⟩
  · simp only [evaluate, transcribed]
  · simp only [evaluate, plain]

end StructuralEdit
