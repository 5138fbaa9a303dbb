import StructuralEdit.Proofs.Evaluation.Execution
import StructuralEdit.Proofs.Evaluation.Steps
import StructuralEdit.Proofs.Evaluation.Transcript
/-!
What a command adds to what is there. A run appends to its context and never looks at it, so with
filters that answer by their arguments it has one effect, wherever it takes place. The effect of an
extraction is made of the effects on its matches or gaps in turn, and that of a group of the effects
of its members, up to the first that fails.
-/
namespace StructuralEdit

variable {α σ : Type} {f : Text → Text → Except Failure Text} {t : Text}

/-- What a run gives, and what it appends until it ends or fails. -/
structure Effect where
  result : Except Failure Text
  added : Evaluation

namespace Effect

def reached (es : List Effect) : List Effect :=
  es.take (es.findIdx (fun e => !e.result.isOk) + 1)

theorem reached_cons (e : Effect) (es : List Effect) :
    reached (e :: es) = if e.result.isOk then e :: reached es else [e] := by
  rw [reached, List.findIdx_cons]
  cases e.result.isOk <;> rfl

/-- The effect of several runs one after the other, up to the first one that fails. The texts are
put together, and so is what is appended, also by the run that fails. -/
def inTurn (es : List Effect) : Effect where
  result := (es.mapM Effect.result).map List.flatten
  added :=
    { changes := (reached es).flatMap (·.added.changes)
      output := (reached es).flatMap (·.added.output)
      failures := (reached es).flatMap (·.added.failures) }

theorem inTurn_cons_error {e : Effect} {why : Failure} (h : e.result = .error why)
    (es : List Effect) : inTurn (e :: es) = e := by
  rcases e with ⟨result, added⟩
  obtain rfl : result = .error why := h
  simp [inTurn, reached_cons, Except.isOk, Except.toBool, List.mapM_cons, bind, Except.bind,
    Except.map]

theorem inTurn_cons_ok {e : Effect} {u : Text} (h : e.result = .ok u) (es : List Effect) :
    inTurn (e :: es) =
      ⟨(inTurn es).result.map (u ++ ·), e.added.append (inTurn es).added⟩ := by
  have texts : ((e :: es).mapM Effect.result).map List.flatten =
      ((es.mapM Effect.result).map List.flatten).map (u ++ ·) := by
    rw [List.mapM_cons, h]
    cases es.mapM Effect.result <;> rfl
  have goesOn : reached (e :: es) = e :: reached es := by
    rw [reached_cons, h]
    rfl
  rw [inTurn, texts, goesOn]
  simp only [List.flatMap_cons, inTurn, Evaluation.append]

end Effect

def Step.failures (f : Text → Text → Except Failure Text) (t : Text) : Step → List Failure
  | .filter command r =>
    match f command (t.slice r) with
    | .ok _ => []
    | .error e => [e]
  | _ => []

def Evaluation.bySteps (f : Text → Text → Except Failure Text) (t : Text) (steps : List Step) :
    Evaluation where
  changes := steps.flatMap (Step.changes f t)
  output := steps.flatMap (Step.output t)
  failures := steps.flatMap (Step.failures f t)

namespace Evaluation

theorem ofStep_eq_bySteps {filter : Filter σ} (hf : Answers filter f) (step : Step) (s : σ) :
    (ofStep filter t s step).1 = bySteps f t [step] := by
  cases step with
  | print r => simp [ofStep, bySteps, Step.changes, Step.output, Step.failures]
  | edit c => simp [ofStep, bySteps, Step.changes, Step.output, Step.failures]
  | filter command r =>
    simp only [ofStep_filter, hf command (t.slice r) s, bySteps, List.flatMap_cons,
      List.flatMap_nil, List.append_nil, Step.changes, Step.output, Step.failures]
    cases f command (t.slice r) <;> rfl

theorem bySteps_append (a b : List Step) :
    bySteps f t (a ++ b) = (bySteps f t a).append (bySteps f t b) := by
  simp [bySteps, append]

theorem ofSteps_eq_bySteps {filter : Filter σ} (hf : Answers filter f) (steps : List Step)
    (s : σ) : (ofSteps filter t s steps).1 = bySteps f t steps := by
  induction steps generalizing s with
  | nil => rfl
  | cons step steps ih =>
    have whole := bySteps_append (f := f) (t := t) [step] steps
    rw [List.singleton_append] at whole
    rw [ofSteps_cons, whole, ofStep_eq_bySteps hf, ih]

end Evaluation

namespace Walk

def effect (f : Text → Text → Except Failure Text) (t : Text) (w : Walk) : Effect :=
  ⟨w.result t, .bySteps f t w.steps⟩

theorem effect_each (walk : α → Walk) (xs : List α) :
    (each walk xs).effect f t = .inTurn (xs.map fun x => (walk x).effect f t) := by
  induction xs with
  | nil => rfl
  | cons x xs ih =>
    rw [each_cons, List.map_cons]
    cases failure : (walk x).failure with
    | some why =>
      have failed : ((walk x).effect f t).result = .error why := by
        simp [effect, result, failure]
      rw [Effect.inTurn_cons_error failed]
      simp [andThen, failure]
    | none =>
      have done : ((walk x).effect f t).result = .ok ((walk x).printed t).flatten := by
        simp [effect, result, failure]
      rw [Effect.inTurn_cons_ok done, ← ih]
      simp only [andThen, failure, effect, Evaluation.bySteps_append, Effect.mk.injEq, and_true]
      cases later : (each walk xs).failure with
      | some why => simp [result, later, Except.map]
      | none => simp [result, later, printed, Except.map]

theorem output_eq_printed (w : Walk) :
    (w.effect f t).added.output = (w.printed t).flatMap (· ++ ['\n']) := by
  have same : ∀ steps : List Step, steps.flatMap (Step.output t) =
      (steps.filterMap (Step.printed? t)).flatMap (· ++ ['\n']) := by
    intro steps
    induction steps with
    | nil => rfl
    | cons step steps ih =>
      cases step <;> simp [Step.output, Step.printed?, List.filterMap_cons, ih]
  exact same w.steps

end Walk

namespace Command

def effect (f : Text → Text → Except Failure Text) (t : Text) (c : Command) (r : Region) : Effect :=
  let run := c.execute (fun command input s => (f command input, s)) t r { memory := () }
  ⟨run.1, run.2.evaluation⟩

theorem execute_from_empty (filter : Filter σ) (c : Command) (r : Region) (x : Context σ) :
    c.execute filter t r x =
      let (result, y) := c.execute filter t r { memory := x.memory }
      (result, ⟨x.evaluation.append y.evaluation, y.memory, x.visits ++ y.visits⟩) := by
  obtain ⟨visits, follows⟩ := exists_execute_follows t c r
  have run : c.execute filter t r x = _ := follows σ filter x
  have alone : c.execute filter t r { memory := x.memory } = _ := follows σ filter _
  rw [run, alone]
  simp [Context.after]

/-- In every context a run appends what comes of the walk. -/
theorem execute_eq_walk {filter : Filter σ} (hf : Answers filter f) (c : Command) (r : Region)
    (x : Context σ) :
    ∃ memory visits, c.execute filter t r x = (((c.walk t r).effect f t).result,
      ⟨x.evaluation.append ((c.walk t r).effect f t).added, memory, x.visits ++ visits⟩) := by
  obtain ⟨visits, follows⟩ := exists_execute_follows t c r
  have run : c.execute filter t r x = _ := follows σ filter x
  let memory := (Evaluation.ofSteps filter t x.memory (c.walk t r).steps).2
  refine ⟨memory, visits, run.trans ?_⟩
  simp only [Context.after, Walk.effect, Evaluation.ofSteps_eq_bySteps hf, memory]

theorem effect_eq_walk (f : Text → Text → Except Failure Text) (t : Text) (c : Command)
    (r : Region) : c.effect f t r = (c.walk t r).effect f t := by
  have answers : Answers (fun command input (s : Unit) => (f command input, s)) f :=
    fun _ _ _ => rfl
  obtain ⟨memory, visits, run⟩ := execute_eq_walk (t := t) answers c r { memory := () }
  simp only [effect, run, Evaluation.empty_append]

theorem effect_extract (f : Text → Text → Except Failure Text) (t : Text) (inverse : Bool)
    (p : Pattern) (sub : Command) (r : Region) :
    effect f t (.extract inverse p sub) r =
      .inTurn ((targets t inverse p r).map fun m => sub.effect f t m) := by
  simp only [effect_eq_walk]
  rw [walk, Walk.effect_each]

theorem effect_group (f : Text → Text → Except Failure Text) (t : Text) (members : List Command)
    (r : Region) :
    effect f t (.group members) r = .inTurn (members.map fun c => c.effect f t r) := by
  simp only [effect_eq_walk]
  rw [walk, walkMembers_eq_each, Walk.effect_each]

theorem exists_effect_printed (f : Text → Text → Except Failure Text) (t : Text) (c : Command)
    (r : Region) :
    ∃ printed : List Text, (c.effect f t r).added.output = printed.flatMap (· ++ ['\n']) ∧
      ∀ u, (c.effect f t r).result = .ok u → u = printed.flatten := by
  rw [effect_eq_walk]
  refine ⟨(c.walk t r).printed t, Walk.output_eq_printed _, ?_⟩
  intro u done
  cases failure : (c.walk t r).failure with
  | none =>
    simp only [Walk.effect, Walk.result, failure, Option.elim_none] at done
    exact (Except.ok.inj done).symm
  | some why => simp [Walk.effect, Walk.result, failure] at done

/-- A run leaves what its context holds and appends to it, and what it does is the same in every
context in which the filters remember the same. If the filters answer by their arguments alone,
this is one effect for all contexts and all such filters: the result, and what is appended to
changes, output and failures, also by a run that fails. The result is made of the texts printed,
and so is the output, where a line ends behind each of them. An extraction has the effects of its
command on the matches or gaps in turn, and a group has those of its members on the region in turn,
up to the first that fails. An evaluation gives what is appended by a run that does not fail. -/
theorem execute_appends (f : Text → Text → Except Failure Text) (t : Text) :
    (∀ (σ : Type) (filter : Filter σ) (c : Command) (r : Region) (x : Context σ),
      c.execute filter t r x =
        let (result, y) := c.execute filter t r { memory := x.memory }
        (result, ⟨x.evaluation.append y.evaluation, y.memory, x.visits ++ y.visits⟩)) ∧
    (∀ (σ : Type) (filter : Filter σ), Answers filter f →
      ∀ (c : Command) (r : Region) (x : Context σ), ∃ memory visits,
        c.execute filter t r x = ((c.effect f t r).result,
          ⟨x.evaluation.append (c.effect f t r).added, memory, x.visits ++ visits⟩)) ∧
    (∀ (c : Command) (r : Region), ∃ printed : List Text,
      (c.effect f t r).added.output = printed.flatMap (· ++ ['\n']) ∧
        ∀ u, (c.effect f t r).result = .ok u → u = printed.flatten) ∧
    (∀ (inverse : Bool) (p : Pattern) (sub : Command) (r : Region),
      effect f t (.extract inverse p sub) r =
        .inTurn ((targets t inverse p r).map fun m => sub.effect f t m)) ∧
    (∀ (members : List Command) (r : Region),
      effect f t (.group members) r = .inTurn (members.map fun c => c.effect f t r)) ∧
    ∀ (σ : Type) (filter : Filter σ), Answers filter f →
      ∀ (c : Command) (r : Region) (s : σ), (c.evaluate filter t r s).1 =
        (c.effect f t r).result.map fun _ => (c.effect f t r).added := by
  refine ⟨fun σ filter c r x => execute_from_empty filter c r x, ?_,
    exists_effect_printed f t, effect_extract f t, effect_group f t, ?_⟩
  · intro σ filter hf c r x
    rw [effect_eq_walk]
    exact execute_eq_walk hf c r x
  · intro σ filter hf c r s
    obtain ⟨memory, visits, run⟩ := execute_eq_walk (t := t) hf c r { memory := s }
    rw [evaluate_eq_execute, run, effect_eq_walk, Evaluation.empty_append]

end Command

end StructuralEdit
