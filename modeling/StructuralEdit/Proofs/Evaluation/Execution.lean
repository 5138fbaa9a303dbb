import StructuralEdit.Evaluation
import StructuralEdit.Proofs.Walk.Regions
/-!
Commands that are run in one go. Each command is run on its region when it is come to, and each
filter is called there and then. A run gives what it has printed, and writes down what comes of it
and which commands it runs. It is shown to be a walk whose steps are made one after the other,
with the same visits for all filters; so an evaluation is a run from an empty start.
-/
namespace StructuralEdit

variable {α σ : Type} {t : Text}

/-- What is kept while a command is run: what has come of it so far, what the filters remember, and
the commands that have been run, with their regions. -/
structure Context (σ : Type) where
  evaluation : Evaluation := {}
  memory : σ
  visits : List (Command × Region) := []

namespace Context

def visit (x : Context σ) (c : Command) (r : Region) : Context σ :=
  { x with visits := x.visits ++ [(c, r)] }

def make (filter : Filter σ) (t : Text) (step : Step) (x : Context σ) : Context σ :=
  let (e, memory) := Evaluation.ofStep filter t x.memory step
  { x with evaluation := x.evaluation.append e, memory }

end Context

/-- What is run in a context. It gives the text that it prints, or fails. -/
abbrev Run (σ : Type) := Context σ → Except Failure Text × Context σ

namespace Run

def skip : Run σ := fun x => (.ok [], x)

def andThen (a b : Run σ) : Run σ := fun x =>
  match a x with
  | (.error f, x) => (.error f, x)
  | (.ok u, x) =>
    match b x with
    | (.error f, x) => (.error f, x)
    | (.ok v, x) => (.ok (u ++ v), x)

def each (run : α → Run σ) : List α → Run σ
  | [] => skip
  | a :: as => (run a).andThen (each run as)

end Run

namespace Command

mutual

def execute (filter : Filter σ) (t : Text) (c : Command) (r : Region) : Run σ := fun x =>
  let x := x.visit c r
  match c with
  | .print => (.ok (t.slice r), x.make filter t (.print r))
  | .delete => (.ok [], x.make filter t (.edit (.replace r [])))
  | .change u => (.ok [], x.make filter t (.edit (.replace r u)))
  | .append u => (.ok [], x.make filter t (.edit (.insert r.stop u)))
  | .insert u => (.ok [], x.make filter t (.edit (.insert r.start u)))
  | .filter f => (.ok [], x.make filter t (.filter f r))
  | .extract inverse p sub => Run.each (execute filter t sub) (targets t inverse p r) x
  | .guard inverse p sub =>
    if p.occursIn (t.slice r) != inverse then execute filter t sub r x else Run.skip x
  | .group members => executeMembers filter t members r x
  | .addressed a sub =>
    match a.resolve t r with
    | .ok s => execute filter t sub s x
    | .error f => (.error f, x)

def executeMembers (filter : Filter σ) (t : Text) : List Command → Region → Run σ
  | [], _ => Run.skip
  | c :: cs, r => (execute filter t c r).andThen (executeMembers filter t cs r)

end

end Command

namespace Evaluation

variable {filter : Filter σ}

@[simp] theorem append_empty (e : Evaluation) : e.append {} = e := by simp [append]

@[simp] theorem empty_append (e : Evaluation) : Evaluation.append {} e = e := by simp [append]

theorem append_assoc (a b c : Evaluation) : (a.append b).append c = a.append (b.append c) := by
  simp [append, List.append_assoc]

theorem ofSteps_append (filter : Filter σ) (t : Text) (s : σ) (a b : List Step) :
    ofSteps filter t s (a ++ b) =
      ((ofSteps filter t s a).1.append (ofSteps filter t (ofSteps filter t s a).2 b).1,
        (ofSteps filter t (ofSteps filter t s a).2 b).2) := by
  induction a generalizing s with
  | nil => simp [ofSteps]
  | cons step a ih => simp only [List.cons_append, ofSteps, ih, append_assoc]

end Evaluation

def Step.printed? (t : Text) : Step → Option Text
  | .print r => some (t.slice r)
  | _ => none

namespace Walk

def printed (t : Text) (w : Walk) : List Text := w.steps.filterMap (Step.printed? t)

def result (t : Text) (w : Walk) : Except Failure Text :=
  w.failure.elim (.ok (w.printed t).flatten) .error

theorem each_cons (walk : α → Walk) (a : α) (as : List α) :
    each walk (a :: as) = (walk a).andThen (each walk as) := by
  rw [each]
  cases failure : (walk a).failure with
  | none => rfl
  | some f => simp [andThen, failure]

end Walk

namespace Context

def after (filter : Filter σ) (t : Text) (steps : List Step) (visits : List (Command × Region))
    (x : Context σ) : Context σ :=
  let (e, memory) := Evaluation.ofSteps filter t x.memory steps
  ⟨x.evaluation.append e, memory, x.visits ++ visits⟩

theorem after_after (filter : Filter σ) (a b : List Step) (us vs : List (Command × Region))
    (x : Context σ) :
    (x.after filter t a us).after filter t b vs = x.after filter t (a ++ b) (us ++ vs) := by
  simp only [after, Evaluation.ofSteps_append, Evaluation.append_assoc, List.append_assoc]

end Context

/-- With every filter, the run makes the steps of the walk and pays the visits. -/
def Follows (t : Text) (w : Walk) (visits : List (Command × Region))
    (run : ∀ σ : Type, Filter σ → Run σ) : Prop :=
  ∀ (σ : Type) (filter : Filter σ) (x : Context σ),
    run σ filter x = (w.result t, x.after filter t w.steps visits)

namespace Follows

variable {v w : Walk} {us vs : List (Command × Region)} {a b : ∀ σ : Type, Filter σ → Run σ}

theorem skip : Follows t {} [] fun _ _ => Run.skip := by
  intro σ filter x
  simp [Run.skip, Walk.result, Walk.printed, Context.after, Evaluation.ofSteps]

theorem make {step : Step} {u : Text} (shows : (Walk.printed t { steps := [step] }).flatten = u) :
    Follows t { steps := [step] } [] fun _ filter x => (.ok u, x.make filter t step) := by
  intro σ filter x
  simp [Walk.result, shows, Context.after, Context.make, Evaluation.ofSteps]

theorem visit {c : Command} {r : Region} (h : Follows t w vs a)
    (runs : ∀ (σ : Type) (filter : Filter σ) (x : Context σ),
      c.execute filter t r x = a σ filter (x.visit c r)) :
    Follows t w ((c, r) :: vs) fun _ filter => c.execute filter t r := by
  intro σ filter x
  have later : (x.visit c r).after filter t w.steps vs = x.after filter t w.steps ((c, r) :: vs) := by
    simp only [Context.visit, Context.after, List.append_assoc, List.singleton_append]
  exact (runs σ filter x).trans ((h σ filter (x.visit c r)).trans (by rw [later]))

theorem andThen (ha : Follows t v us a) (hb : Follows t w vs b) :
    Follows t (v.andThen w) (if v.failure.isSome then us else us ++ vs) fun σ filter =>
      (a σ filter).andThen (b σ filter) := by
  intro σ filter x
  have first := ha σ filter x
  have second := hb σ filter (x.after filter t v.steps us)
  cases failure : v.failure with
  | some f => simp [Run.andThen, first, Walk.result, Walk.andThen, failure]
  | none =>
    cases later : w.failure with
    | some f =>
      simp [Run.andThen, first, second, Walk.result, Walk.andThen, failure, later,
        Context.after_after]
    | none =>
      simp [Run.andThen, first, second, Walk.result, Walk.andThen, failure, later,
        Context.after_after, Walk.printed]

theorem exists_each {walk : α → Walk} {run : ∀ σ : Type, Filter σ → α → Run σ} {as : List α}
    (h : ∀ x ∈ as, ∃ vs, Follows t (walk x) vs fun σ filter => run σ filter x) :
    ∃ vs, Follows t (Walk.each walk as) vs fun σ filter => Run.each (run σ filter) as := by
  induction as with
  | nil => exact ⟨[], skip⟩
  | cons x as ih =>
    obtain ⟨first, later⟩ := List.forall_mem_cons.mp h
    obtain ⟨us, hx⟩ := first
    obtain ⟨vs, has⟩ := ih later
    rw [Walk.each_cons]
    exact ⟨_, hx.andThen has⟩

end Follows

namespace Command

theorem executeMembers_eq_each (filter : Filter σ) (cs : List Command) (r : Region) :
    executeMembers filter t cs r = Run.each (fun c => execute filter t c r) cs := by
  induction cs with
  | nil => rw [executeMembers, Run.each]
  | cons c cs ih => rw [executeMembers, Run.each, ih]

theorem exists_execute_follows (t : Text) (c : Command) (r : Region) :
    ∃ visits, Follows t (c.walk t r) visits fun _ filter => c.execute filter t r := by
  induction c using Command.induction generalizing r with
  | print =>
    have shows : (Walk.printed t { steps := [.print r] }).flatten = t.slice r := by
      simp [Walk.printed, Step.printed?]
    exact ⟨_, (Follows.make shows).visit fun _ _ _ => rfl⟩
  | delete => exact ⟨_, (Follows.make rfl).visit fun _ _ _ => rfl⟩
  | change u => exact ⟨_, (Follows.make rfl).visit fun _ _ _ => rfl⟩
  | append u => exact ⟨_, (Follows.make rfl).visit fun _ _ _ => rfl⟩
  | insert u => exact ⟨_, (Follows.make rfl).visit fun _ _ _ => rfl⟩
  | filter f => exact ⟨_, (Follows.make rfl).visit fun _ _ _ => rfl⟩
  | extract inverse p sub ih =>
    obtain ⟨vs, follows⟩ :=
      Follows.exists_each fun m (_ : m ∈ targets t inverse p r) => ih m
    rw [walk]
    exact ⟨_, follows.visit fun σ filter x => by rw [execute]⟩
  | guard inverse p sub ih =>
    rw [walk]
    by_cases fires : p.occursIn (t.slice r) != inverse
    · obtain ⟨vs, follows⟩ := ih r
      rw [if_pos fires]
      exact ⟨_, follows.visit fun σ filter x => by rw [execute, if_pos fires]⟩
    · rw [if_neg fires]
      exact ⟨_, Follows.skip.visit fun σ filter x => by rw [execute, if_neg fires]⟩
  | group members ih =>
    obtain ⟨vs, follows⟩ := Follows.exists_each fun c hc => ih c hc r
    rw [walk, walkMembers_eq_each]
    exact ⟨_, follows.visit fun σ filter x => by rw [execute, executeMembers_eq_each]⟩
  | addressed a sub ih =>
    rw [walk]
    cases found : a.resolve t r with
    | ok s =>
      obtain ⟨vs, follows⟩ := ih s
      exact ⟨_, follows.visit fun σ filter x => by simp only [execute, found]⟩
    | error f =>
      have fails : Follows t { failure := some f } [] fun _ _ x => (.error f, x) := by
        intro σ filter x
        simp [Walk.result, Context.after, Evaluation.ofSteps]
      exact ⟨_, fails.visit fun σ filter x => by simp only [execute, found]⟩

/-- An evaluation is a run from an empty start, of which only what has come of it is kept. -/
theorem evaluate_eq_execute (c : Command) (filter : Filter σ) (t : Text) (r : Region) (s : σ) :
    c.evaluate filter t r s =
      let (result, x) := c.execute filter t r { memory := s }
      (result.map fun _ => x.evaluation, x.memory) := by
  obtain ⟨visits, follows⟩ := exists_execute_follows t c r
  have run : c.execute filter t r { memory := s } = _ := follows σ filter _
  rw [run]
  cases failure : (c.walk t r).failure with
  | none => simp [evaluate, Walk.result, Context.after, failure, Except.map]
  | some f => simp [evaluate, Walk.result, Context.after, failure, Except.map]

end Command

end StructuralEdit
