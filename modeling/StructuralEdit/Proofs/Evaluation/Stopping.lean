import StructuralEdit.Proofs.Evaluation.Agenda
import StructuralEdit.Proofs.Evaluation.Calls
import StructuralEdit.Proofs.Evaluation.Execution
import StructuralEdit.Proofs.Evaluation.Steps
/-!
Where an evaluation stops. A run that writes down what it does as it comes to it gets to the end of
its agenda, or to the first search in it that finds nothing, and does nothing after that.
-/
namespace StructuralEdit

variable {α σ : Type} {t : Text}

/-- What is kept during a run: what has come of it so far, what the filters remember, and what has
happened. -/
structure Journal (σ : Type) where
  evaluation : Evaluation := {}
  memory : σ
  actions : List Action := []

namespace Journal

def after (filter : Filter σ) (t : Text) (steps : List Step) (actions : List Action)
    (j : Journal σ) : Journal σ :=
  let (e, memory) := Evaluation.ofSteps filter t j.memory steps
  ⟨j.evaluation.append e, memory, j.actions ++ actions⟩

theorem after_after (filter : Filter σ) (a b : List Step) (es fs : List Action) (j : Journal σ) :
    (j.after filter t a es).after filter t b fs = j.after filter t (a ++ b) (es ++ fs) := by
  simp only [after, Evaluation.ofSteps_append, Evaluation.append_assoc, List.append_assoc]

end Journal

/-- A run that keeps a journal, also when it fails. -/
abbrev Recorded (σ α : Type) := EStateM Failure (Journal σ) α

namespace Recorded

def note (a : Action) : Recorded σ Unit :=
  modify fun j => { j with actions := j.actions ++ [a] }

def make (filter : Filter σ) (t : Text) (step : Step) : Recorded σ Unit :=
  modify fun j =>
    let (e, memory) := Evaluation.ofStep filter t j.memory step
    { j with evaluation := j.evaluation.append e, memory }

def outcome (x : Except Failure α) (j : Journal σ) : EStateM.Result Failure (Journal σ) α :=
  match x with
  | .ok a => .ok a j
  | .error f => .error f j

theorem run_note (a : Action) (j : Journal σ) :
    (note a).run j = .ok () { j with actions := j.actions ++ [a] } := rfl

end Recorded

open Recorded

def Address.record (t : Text) : Address → Region → Recorded σ Region
  | .range a b, r => do
    note (.address (.range a b) r)
    let first ← record t a r
    let second ← record t b first
    return .between first.start second.stop
  | a, r => do
    note (.address a r)
    ofExcept (a.resolve t r)

namespace Command

mutual

def record (filter : Filter σ) (t : Text) (c : Command) (r : Region) : Recorded σ Unit := do
  note (.command c r)
  match c with
  | .print => make filter t (.print r)
  | .delete => make filter t (.edit (.replace r []))
  | .change u => make filter t (.edit (.replace r u))
  | .append u => make filter t (.edit (.insert r.stop u))
  | .insert u => make filter t (.edit (.insert r.start u))
  | .filter f => do
    note (.call f (t.slice r))
    make filter t (.filter f r)
  | .extract inverse p sub => (targets t inverse p r).forM (record filter t sub)
  | .guard inverse p sub => if p.occursIn (t.slice r) != inverse then record filter t sub r
  | .group members => recordMembers filter t members r
  | .addressed a sub => do
    let s ← a.record t r
    record filter t sub s

def recordMembers (filter : Filter σ) (t : Text) : List Command → Region → Recorded σ Unit
  | [], _ => pure ()
  | c :: cs, r => do
    record filter t c r
    recordMembers filter t cs r

end

end Command

theorem Address.run_record (t : Text) (a : Address) (r : Region) (j : Journal σ) :
    (a.record t r).run j =
      outcome (a.resolve t r)
        { j with actions := j.actions ++ Action.reached t (a.agenda t r) } := by
  induction a generalizing r j with
  | search d p =>
    have only : Action.reached t (agenda t (.search d p) r) = [.address (.search d p) r] := by
      simp [agenda, Action.reached]
    rw [only, record]
    · rw [EStateM.run_bind, run_note]
      cases resolve t r (.search d p) <;> rfl
    · intro a b h
      cases h
  | range a b first second =>
    have start := stop?_agenda t a r
    rw [agenda, Action.reached_append, Action.stop?_cons_of_none rfl,
      Action.reached_cons_of_none rfl, start, record, EStateM.run_bind, run_note, resolve_range]
    simp only [EStateM.run_bind, first]
    cases landed : a.resolve t r with
    | error f => simp [outcome]
    | ok s =>
      simp only [outcome, second]
      cases b.resolve t s <;> simp [Except.map]
  | _ => rfl

/-- With every filter, the run goes as the walk does, and what happens is what it reaches of an
agenda. The walk fails as the agenda stops. -/
structure Goes (t : Text) (w : Walk) (agenda : List Action)
    (run : ∀ σ : Type, Filter σ → Recorded σ Unit) : Prop where
  failure : w.failure = Action.stop? t agenda
  calls : w.calls t = (Action.reached t agenda).filterMap Action.call?
  runs : ∀ (σ : Type) (filter : Filter σ) (j : Journal σ),
    (run σ filter).run j =
      outcome (w.failure.elim (.ok ()) .error)
        (j.after filter t w.steps (Action.reached t agenda))

namespace Goes

variable {v w : Walk} {es fs : List Action} {a b : ∀ σ : Type, Filter σ → Recorded σ Unit}

theorem skip : Goes t {} [] fun _ _ => pure () where
  failure := rfl
  calls := rfl
  runs := by
    intro σ filter j
    simp [Journal.after, Evaluation.ofSteps, Action.reached, outcome]

theorem note {e : Action} (h : e.missed? t = none) (silent : e.call? = none) :
    Goes t {} [e] fun _ _ => Recorded.note e where
  failure := by simp [Action.stop?, h]
  calls := by simp [Walk.calls, Action.reached, h, silent]
  runs := by
    intro σ filter j
    simp [Journal.after, Evaluation.ofSteps, Action.reached, h, run_note, outcome]

theorem make (step : Step) (h : step.call? t = none) :
    Goes t { steps := [step] } [] fun _ filter => Recorded.make filter t step where
  failure := rfl
  calls := by simp [Walk.calls, Action.reached, h]
  runs := by
    intro σ filter j
    simp [Journal.after, Evaluation.ofSteps, Action.reached, Recorded.make, outcome]

theorem andThen (ha : Goes t v es a) (hb : Goes t w fs b) :
    Goes t (v.andThen w) (es ++ fs) fun σ filter => do
      a σ filter
      b σ filter where
  failure := by
    rw [Action.stop?_append, ← ha.failure, ← hb.failure]
    cases failure : v.failure <;> simp [Walk.andThen, failure]
  calls := by
    rw [Action.reached_append, ← ha.failure]
    cases failure : v.failure with
    | some f => simp [Walk.andThen, failure, ha.calls]
    | none =>
      have first := ha.calls
      have later := hb.calls
      rw [Walk.calls] at first later
      simp [Walk.andThen, Walk.calls, failure, first, later]
  runs := by
    intro σ filter j
    rw [EStateM.run_bind, ha.runs, Action.reached_append, ← ha.failure]
    cases failure : v.failure with
    | some f => simp [Walk.andThen, failure, outcome]
    | none => simp [Walk.andThen, failure, outcome, hb.runs, Journal.after_after]

theorem command {c : Command} {r : Region} (h : Goes t w es b) :
    Goes t w (.command c r :: es) (fun σ filter => do
      Recorded.note (.command c r)
      b σ filter) :=
  (note rfl rfl).andThen h

theorem call (f : Text) (r : Region) :
    Goes t { steps := [.filter f r] } [.call f (t.slice r)] (fun _ filter => do
      Recorded.note (.call f (t.slice r))
      Recorded.make filter t (.filter f r)) where
  failure := rfl
  calls := rfl
  runs := by
    intro σ filter j
    simp [Journal.after, Evaluation.ofSteps, Action.reached, Action.missed?, Recorded.make,
      EStateM.run_bind, run_note, outcome]

theorem forM {walk : α → Walk} {agenda : α → List Action}
    {run : ∀ σ : Type, Filter σ → α → Recorded σ Unit} {xs : List α}
    (h : ∀ x ∈ xs, Goes t (walk x) (agenda x) fun σ filter => run σ filter x) :
    Goes t (Walk.each walk xs) (xs.flatMap agenda) fun σ filter => xs.forM (run σ filter) := by
  induction xs with
  | nil => exact skip
  | cons x xs ih =>
    obtain ⟨first, later⟩ := List.forall_mem_cons.mp h
    rw [Walk.each_cons]
    exact first.andThen (ih later)

theorem located {x : Address} {q : Region} {walk : Region → Walk} {agenda : Region → List Action}
    {run : ∀ σ : Type, Filter σ → Region → Recorded σ Unit}
    (h : ∀ s, Goes t (walk s) (agenda s) fun σ filter => run σ filter s) :
    Goes t (match x.resolve t q with | .ok s => walk s | .error f => { failure := some f })
      (x.agenda t q ++ match x.resolve t q with | .ok s => agenda s | .error _ => [])
      (fun σ filter => do
        let s ← x.record t q
        run σ filter s) := by
  have stop := Address.stop?_agenda t x q
  have silent : (Action.reached t (x.agenda t q)).filterMap Action.call? = [] :=
    List.filterMap_eq_nil_iff.mpr fun e he =>
      x.agenda_silent t q e (List.mem_of_mem_take he)
  cases found : x.resolve t q with
  | error f =>
    rw [found] at stop
    constructor
    · simp [stop]
    · simp [Walk.calls, silent]
    · intro σ filter j
      simp [EStateM.run_bind, Address.run_record, found, outcome, Journal.after, Evaluation.ofSteps]
  | ok s =>
    rw [found] at stop
    constructor
    · simp [Action.stop?_append, stop, (h s).failure]
    · simp [Action.reached_append, stop, silent, (h s).calls]
    · intro σ filter j
      simp [EStateM.run_bind, Address.run_record, found, outcome, Journal.after,
        Action.reached_append, stop, (h s).runs]

end Goes

namespace Command

theorem recordMembers_eq_forM (filter : Filter σ) (cs : List Command) (r : Region) :
    recordMembers filter t cs r = cs.forM fun c => record filter t c r := by
  induction cs with
  | nil => rfl
  | cons c cs ih => rw [recordMembers, ih]; rfl

theorem goes (t : Text) (c : Command) (r : Region) :
    Goes t (c.walk t r) (c.agenda t r) fun _ filter => c.record filter t r := by
  induction c using Command.induction generalizing r with
  | print => exact (Goes.make (.print r) rfl).command
  | delete => exact (Goes.make (.edit (.replace r [])) rfl).command
  | change u => exact (Goes.make (.edit (.replace r u)) rfl).command
  | append u => exact (Goes.make (.edit (.insert r.stop u)) rfl).command
  | insert u => exact (Goes.make (.edit (.insert r.start u)) rfl).command
  | filter f => exact (Goes.call f r).command
  | extract inverse p sub ih => exact (Goes.forM fun m _ => ih m).command
  | guard inverse p sub ih =>
    have body : Goes t (if p.occursIn (t.slice r) != inverse then sub.walk t r else {})
        (if p.occursIn (t.slice r) != inverse then sub.agenda t r else [])
        fun _ filter =>
          if p.occursIn (t.slice r) != inverse then sub.record filter t r else pure () := by
      split
      · exact ih r
      · exact Goes.skip
    exact body.command
  | group members ih =>
    have body := Goes.forM fun c hc => ih c hc r
    simp only [← walkMembers_eq_each, ← agendaMembers_eq_flatMap, ← recordMembers_eq_forM] at body
    exact body.command
  | addressed a sub ih => exact (Goes.located ih).command

/-- An evaluation is a run from an empty journal, of which only what has come of it is kept. -/
theorem evaluate_eq_record (c : Command) (filter : Filter σ) (t : Text) (r : Region) (s : σ) :
    c.evaluate filter t r s =
      match (c.record filter t r).run { memory := s } with
      | .ok _ j => (.ok j.evaluation, j.memory)
      | .error f j => (.error f, j.memory) := by
  rw [(goes t c r).runs]
  cases failure : (c.walk t r).failure with
  | none => simp [evaluate, outcome, Journal.after, failure]
  | some f => simp [evaluate, outcome, Journal.after, failure]

end Command

theorem Command.SearchFree.failure_eq_none {c : Command} (h : c.SearchFree) (t : Text)
    (r : Region) : (c.walk t r).failure = none := by
  induction c using Command.induction generalizing r with
  | extract inverse p sub ih =>
    cases h with
    | extract free =>
      rw [walk, Walk.each_of_failure_eq_none fun m _ => ih free m]
  | guard inverse p sub ih =>
    cases h with
    | guard free =>
      rw [walk]
      split
      · exact ih free r
      · rfl
  | group members ih =>
    cases h with
    | group free =>
      rw [walk, walkMembers_eq_each, Walk.each_of_failure_eq_none fun c hc => ih c hc (free c hc) r]
  | addressed a sub ih =>
    cases h with
    | addressed resolves free =>
      obtain ⟨s, found⟩ := resolves.resolve_ok t r
      rw [walk, found]
      exact ih free s
  | _ => rfl

namespace Command

theorem exists_ending (c : Command) (filter : Filter σ) (t : Text) (r : Region) (s : σ) :
    ∃ e s',
      let result := (Action.stop? t (c.agenda t r)).elim (.ok e) .error
      let actions := Action.reached t (c.agenda t r)
      c.evaluate filter t r s = (result, s') ∧
        (c.record filter t r).run { memory := s } =
          outcome (result.map fun _ => ()) ⟨e, s', actions⟩ ∧
        c.evaluate filter.logged t r ⟨s, []⟩ = (result, ⟨s', actions.filterMap Action.call?⟩) := by
  obtain ⟨failure, calls, runs⟩ := goes t c r
  let e := (Evaluation.ofSteps filter t s (c.walk t r).steps).1
  let s' := (Evaluation.ofSteps filter t s (c.walk t r).steps).2
  have recorded : (c.record filter t r).run { memory := s } =
      outcome ((Action.stop? t (c.agenda t r)).elim (.ok ()) .error)
        ⟨e, s', Action.reached t (c.agenda t r)⟩ := by
    rw [runs, failure]
    simp [Journal.after, e, s']
  have evaluated : c.evaluate filter t r s =
      ((Action.stop? t (c.agenda t r)).elim (.ok e) .error, s') := by
    rw [evaluate_eq_record, recorded]
    cases Action.stop? t (c.agenda t r) <;> rfl
  refine ⟨e, s', evaluated, ?_, ?_⟩
  · rw [recorded]
    cases Action.stop? t (c.agenda t r) <;> rfl
  · rw [evaluate_logged, evaluated, calls]
    rfl

/-- A run either comes to the end of its agenda, and then no search in it finds nothing, or it
ends at the first search that finds nothing. The evaluation fails in the second case alone, for the
pattern of that search, and nothing that stands behind it in the agenda is done: no command is run,
no address is looked for and no filter is called. This is so for all filters, whatever they answer,
and a command without searches comes to its end. -/
theorem evaluate_stops (c : Command) (t : Text) (r : Region) :
    (((∀ a ∈ c.agenda t r, a.missed? t = none) ∧
        ∀ (σ : Type) (filter : Filter σ) (s : σ), ∃ e s',
          c.evaluate filter t r s = (.ok e, s') ∧
          (c.record filter t r).run { memory := s } = .ok () ⟨e, s', c.agenda t r⟩ ∧
          c.evaluate filter.logged t r ⟨s, []⟩ =
            (.ok e, ⟨s', (c.agenda t r).filterMap Action.call?⟩)) ∨
      ∃ before d p q later,
        c.agenda t r = before ++ .address (.search d p) q :: later ∧
        (∀ a ∈ before, a.missed? t = none) ∧ Address.found? t q d p = none ∧
        ∀ (σ : Type) (filter : Filter σ) (s : σ), ∃ e s',
          c.evaluate filter t r s = (.error (.notFound p.source), s') ∧
          (c.record filter t r).run { memory := s } =
            .error (.notFound p.source) ⟨e, s', before ++ [.address (.search d p) q]⟩ ∧
          c.evaluate filter.logged t r ⟨s, []⟩ =
            (.error (.notFound p.source), ⟨s', before.filterMap Action.call?⟩)) ∧
    (c.SearchFree → ∀ (σ : Type) (filter : Filter σ) (s : σ), ∃ e s',
      c.evaluate filter t r s = (.ok e, s')) := by
  refine ⟨?_, ?_⟩
  · cases stop : Action.stop? t (c.agenda t r) with
    | none =>
      have free := Action.stop?_eq_none_iff.mp stop
      refine .inl ⟨free, fun σ filter s => ?_⟩
      obtain ⟨e, s', ending⟩ := exists_ending c filter t r s
      rw [stop, Action.reached_of_none free] at ending
      exact ⟨e, s', ending⟩
    | some f =>
      -- The agenda is split at the first action that has a failure.
      obtain ⟨before, action, later, split, missed, free⟩ := List.findSome?_eq_some_iff.mp stop
      obtain ⟨d, p, q, rfl, nowhere, rfl⟩ := Action.missed?_eq_some missed
      refine .inr ⟨before, d, p, q, later, split, free, nowhere, fun σ filter s => ?_⟩
      obtain ⟨e, s', ending⟩ := exists_ending c filter t r s
      rw [stop, split, Action.reached_of_some free (by rw [missed]; rfl)] at ending
      obtain ⟨evaluated, recorded, logged⟩ := ending
      -- The search itself calls no filter.
      have silent : [Action.address (.search d p) q].filterMap Action.call? = [] := rfl
      rw [List.filterMap_append, silent, List.append_nil] at logged
      exact ⟨e, s', evaluated, recorded, logged⟩
  · intro free σ filter s
    obtain ⟨e, s', evaluated, -⟩ := exists_ending c filter t r s
    rw [← (goes t c r).failure, free.failure_eq_none] at evaluated
    exact ⟨e, s', evaluated⟩

/-- The end of a range is not found, so the second filter is not called. -/
example :
    let z : Pattern := ⟨['z'], ⟨#[.accept, .read ⟨[(122, 122)]⟩ 0], 1⟩, rfl⟩
    let toZ : Address := .range .dot (.search .forward z)
    evaluate (.group [.filter ['f'], .addressed toZ .delete, .filter ['g']])
        (Filter.logged fun _ u s => (.ok u, s)) ['a', 'b'] ⟨0, 2⟩ ⟨(), []⟩ =
      (.error (.notFound ['z']), ⟨(), [(['f'], ['a', 'b'])]⟩) := by
  rfl

end Command

end StructuralEdit
