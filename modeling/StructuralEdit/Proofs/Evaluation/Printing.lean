import StructuralEdit.Proofs.Evaluation.Execution
import StructuralEdit.Proofs.Evaluation.Transcript
/-!
What a run prints. At every point of a run the output is made of the regions that have been
printed: the text of each, in the order of the visits, with an end of line behind it. It ends where
a line ends, and it is empty only if nothing has been printed.
-/
namespace StructuralEdit

variable {α σ : Type} {t : Text}

def Command.printed? : Command × Region → Option Region
  | (.print, r) => some r
  | _ => none

namespace Context

variable {x : Context σ} {c : Command} {r : Region} {filter : Filter σ}

def printed (x : Context σ) : List Region := x.visits.filterMap Command.printed?

/-- The output is what has been printed. -/
def Prints (t : Text) (x : Context σ) : Prop :=
  x.evaluation.output = x.printed.flatMap fun r => t.slice r ++ ['\n']

theorem Prints.start (memory : σ) : Prints t { memory } := rfl

theorem Prints.visit (h : x.Prints t) (silent : Command.printed? (c, r) = none) :
    (x.visit c r).Prints t := by
  rw [Prints, printed, Context.visit, List.filterMap_append, List.filterMap_cons_none silent,
    List.filterMap_nil, List.append_nil]
  exact h

theorem Prints.make {step : Step} (h : x.Prints t) (silent : step.output t = []) :
    (x.make filter t step).Prints t := by
  have added : (Evaluation.ofStep filter t x.memory step).1.output = [] := by
    cases step with
    | print r => exact absurd silent (by simp [Step.output])
    | edit c => rfl
    | filter f r =>
      rw [Evaluation.ofStep_filter]
      cases (filter f (t.slice r) x.memory).1 <;> rfl
  have kept : (x.make filter t step).evaluation.output = x.evaluation.output := by
    rw [← List.append_nil x.evaluation.output, ← added]
    rfl
  rw [Prints, kept]
  exact h

theorem Prints.print (filter : Filter σ) (h : x.Prints t) (r : Region) :
    ((x.visit .print r).make filter t (.print r)).Prints t := by
  have before : x.evaluation.output = (x.visits.filterMap Command.printed?).flatMap
      fun r => t.slice r ++ ['\n'] := h
  simp [Prints, printed, Context.make, Context.visit, Evaluation.ofStep, Evaluation.append,
    Command.printed?, before]

theorem Prints.output_cases (h : x.Prints t) :
    (x.evaluation.output = [] ∧ x.printed = []) ∨
      ∃ u, x.evaluation.output = u ++ ['\n'] := by
  rw [Prints] at h
  rcases List.eq_nil_or_concat x.printed with none | ⟨rs, r, some⟩
  · rw [none] at h
    exact Or.inl ⟨h, none⟩
  · rw [some, List.concat_eq_append, List.flatMap_append] at h
    refine Or.inr ⟨(rs.flatMap fun r => t.slice r ++ ['\n']) ++ t.slice r, ?_⟩
    rw [h, List.append_assoc, List.flatMap_singleton]

end Context

/-- A run that keeps what holds of its context. -/
def Run.Keeps (P : Context σ → Prop) (run : Run σ) : Prop := ∀ x, P x → P (run x).2

namespace Run.Keeps

variable {P : Context σ → Prop} {a b : Run σ}

theorem skip : Keeps P skip := fun _ h => h

theorem andThen (ha : Keeps P a) (hb : Keeps P b) : Keeps P (a.andThen b) := by
  intro x hx
  have first := ha x hx
  rcases one : a x with ⟨f | u, y⟩
  · rw [one] at first
    simpa only [Run.andThen, one] using first
  · rw [one] at first
    have second := hb y first
    rcases other : b y with ⟨f | v, z⟩
    · rw [other] at second
      simpa only [Run.andThen, one, other] using second
    · rw [other] at second
      simpa only [Run.andThen, one, other] using second

theorem each {run : α → Run σ} {as : List α} (h : ∀ a ∈ as, Keeps P (run a)) :
    Keeps P (Run.each run as) := by
  induction as with
  | nil => exact skip
  | cons a as ih =>
    obtain ⟨first, later⟩ := List.forall_mem_cons.mp h
    exact first.andThen (ih later)

end Run.Keeps

/-- A run of a command prints what it visits for printing, whether it ends well or fails. -/
theorem Command.execute_prints (filter : Filter σ) (t : Text) (c : Command) (r : Region) :
    Run.Keeps (Context.Prints t) (c.execute filter t r) := by
  induction c using Command.induction generalizing r with
  | print => exact fun x h => h.print filter r
  | delete => exact fun x h => (h.visit rfl).make rfl
  | change u => exact fun x h => (h.visit rfl).make rfl
  | append u => exact fun x h => (h.visit rfl).make rfl
  | insert u => exact fun x h => (h.visit rfl).make rfl
  | filter f => exact fun x h => (h.visit rfl).make rfl
  | extract inverse p sub ih =>
    intro x h
    rw [execute]
    exact Run.Keeps.each (fun m _ => ih m) _ (h.visit rfl)
  | guard inverse p sub ih =>
    intro x h
    rw [execute]
    split
    · exact ih r _ (h.visit rfl)
    · exact h.visit rfl
  | group members ih =>
    intro x h
    rw [execute, executeMembers_eq_each]
    exact Run.Keeps.each (fun c hc => ih c hc r) _ (h.visit rfl)
  | addressed a sub ih =>
    intro x h
    rw [execute]
    split
    · next s _ => exact ih s _ (h.visit rfl)
    · exact h.visit rfl

end StructuralEdit
