import StructuralEdit.Proofs.Change.Application
import StructuralEdit.Proofs.Evaluation.Rewriting
import StructuralEdit.Proofs.Walk.Checked
/-!
Evaluation keeps inside its text. A command that starts on the whole text or on a region moved
back into it cuts no character and leaves no region, whatever its filters answer, and it asks for
valid changes only. So its changes can be made unless two of them overlap.
-/
namespace StructuralEdit

variable {σ : Type}

namespace Checked

def ofStep (filter : Filter σ) (t : Text) (s : σ) : Step → Option (Evaluation × σ)
  | .print r => do
    return ({ output := (← slice t r) ++ ['\n'] }, s)
  | .edit c => do
    let _ ← region t c.region
    return ({ changes := [c] }, s)
  | .filter f r => do
    match filter f (← slice t r) s with
    | (.ok u, s) => return ({ changes := [.replace r u] }, s)
    | (.error e, s) => return ({ failures := [e] }, s)

def ofSteps (filter : Filter σ) (t : Text) (s : σ) : List Step → Option (Evaluation × σ)
  | [] => some ({}, s)
  | step :: steps => do
    let (a, s) ← ofStep filter t s step
    let (b, s) ← ofSteps filter t s steps
    return (a.append b, s)

/-- The evaluation of a command with all checks. -/
def evaluate (limit : Nat) (c : Command) (filter : Filter σ) (t : Text) (r : Region) (s : σ) :
    Option (Except Failure Evaluation × σ) := do
  let w ← walk limit t c r
  let (e, s) ← ofSteps filter t s w.steps
  return (w.failure.elim (.ok e) .error, s)

variable {filter : Filter σ} {limit : Nat} {t : Text} {r : Region}

theorem ofStep_eq {step : Step} (h : t.Valid step.region) (s : σ) :
    ofStep filter t s step = some (Evaluation.ofStep filter t s step) := by
  cases step with
  | print r =>
    simp only [ofStep, slice_eq (r := r) h]
    rfl
  | edit c =>
    simp only [ofStep, region_eq (r := c.region) h]
    rfl
  | filter f r =>
    simp only [ofStep, slice_eq (r := r) h, Evaluation.ofStep, bind, Option.bind]
    rcases filter f (t.slice r) s with ⟨u | e, s'⟩ <;> rfl

theorem ofSteps_eq (filter : Filter σ) {steps : List Step}
    (h : ∀ step ∈ steps, t.Valid step.region) (s : σ) :
    ofSteps filter t s steps = some (Evaluation.ofSteps filter t s steps) := by
  induction steps generalizing s with
  | nil => rfl
  | cons step steps ih =>
    obtain ⟨first, later⟩ := List.forall_mem_cons.mp h
    simp only [ofSteps, ofStep_eq first, ih later, bind, Option.bind]
    rfl

theorem evaluate_eq {c : Command} (hr : t.Valid r) (hl : t.size < limit) (s : σ) :
    evaluate limit c filter t r s = some (c.evaluate filter t r s) := by
  have steps := ofSteps_eq filter (Command.walk_valid (c := c) hr) s
  simp only [evaluate, walk_eq hr hl, steps, bind, Option.bind]
  rfl

end Checked

namespace Evaluation

variable {filter : Filter σ} {t : Text}

theorem ofStep_valid {step : Step} (h : t.Valid step.region) (s : σ) :
    ∀ d ∈ (ofStep filter t s step).1.changes, t.Valid d.region := by
  cases step with
  | print r => simp [ofStep]
  | edit c => simpa [ofStep, Step.region] using h
  | filter f r =>
    rw [ofStep]
    rcases filter f (t.slice r) s with ⟨u | e, s'⟩
    · simp
    · simpa [Step.region] using h

theorem ofSteps_valid (filter : Filter σ) {steps : List Step}
    (h : ∀ step ∈ steps, t.Valid step.region) (s : σ) :
    ∀ d ∈ (ofSteps filter t s steps).1.changes, t.Valid d.region := by
  induction steps generalizing s with
  | nil => simp [ofSteps]
  | cons step steps ih =>
    obtain ⟨first, later⟩ := List.forall_mem_cons.mp h
    intro d hd
    rcases List.mem_append.mp hd with hd | hd
    · exact ofStep_valid first s d hd
    · exact ih later _ d hd

end Evaluation

namespace Change

variable {t : Text} {cs : List Change}

theorem applyBackward_splits {limit a b : Nat} {tail : Text}
    (h : applyBackward t limit tail cs = .error (.splitsCharacter a b)) :
    ∃ c ∈ cs, ¬(t.isBoundary c.start ∧ t.isBoundary c.stop) := by
  induction cs generalizing limit tail with
  | nil => cases h
  | cons c cs ih =>
    rw [applyBackward] at h
    split at h
    · cases h
    · split at h
      · obtain ⟨d, hd, splits⟩ := ih h
        exact ⟨d, List.mem_cons_of_mem c hd, splits⟩
      · next splits => exact ⟨c, by simp, splits⟩

/-- Two of the changes, at different places of the list, overlap. -/
def Clash (cs : List Change) : Prop :=
  ∃ i j, ∃ (hi : i < cs.length) (hj : j < cs.length), i ≠ j ∧ cs[i].Overlaps cs[j]

theorem clash_of_not_compatible (valid : ∀ c ∈ cs, t.Valid c.region) (h : ¬Compatible t cs) :
    Clash cs := by
  refine Classical.byContradiction fun none => h ⟨valid, ?_⟩
  refine List.pairwise_iff_getElem.mpr fun i j hi hj hij overlap => ?_
  exact none ⟨i, j, hi, hj, Nat.ne_of_lt hij, overlap⟩

theorem applyAll_error_of_valid (valid : ∀ c ∈ cs, t.Valid c.region) {why : Conflict}
    (h : applyAll t cs = .error why) : (∃ a b, why = .overlap a b) ∧ Clash cs := by
  constructor
  · cases why with
    | overlap a b => exact ⟨a, b, rfl⟩
    | splitsCharacter a b =>
      obtain ⟨c, hc, splits⟩ := applyBackward_splits h
      have member : c ∈ cs := (ordered_arranged cs).perm.mem_iff.mp (List.mem_reverse.mp hc)
      exact absurd (valid c member).2 splits
  · refine clash_of_not_compatible valid fun compatible => ?_
    cases (applyAll_of_compatible compatible).symm.trans h

end Change

namespace Command

/-- No check fails when a command is evaluated on the whole text or on a region moved back into
it, with any limit above the size of the text. All changes that are recorded, also those before a
failure, replace valid regions, and to make them fails only if two of them overlap. -/
theorem evaluate_safe (c : Command) (filter : Filter σ) {t : Text} {r : Region}
    (start : r = t.whole ∨ ∃ a b, r = t.clampRegion a b) (s : σ) :
    (∀ limit, t.size < limit →
      Checked.evaluate limit c filter t r s = some (c.evaluate filter t r s)) ∧
    (∀ d ∈ (Evaluation.ofSteps filter t s (c.walk t r).steps).1.changes,
      t.Valid d.region ∧ d.stop ≤ t.size) ∧
    ∀ e s', c.evaluate filter t r s = (.ok e, s') → ∀ f, e.apply t = .error f →
      (∃ a b, f = .conflict (.overlap a b)) ∧ Change.Clash e.changes := by
  have hr : t.Valid r := by
    rcases start with rfl | ⟨a, b, rfl⟩
    · exact Text.valid_whole t
    · exact Text.valid_clampRegion t a b
  have valid := Evaluation.ofSteps_valid filter (walk_valid (c := c) hr) s
  refine ⟨fun limit hl => Checked.evaluate_eq hr hl s, fun d hd => ?_, ?_⟩
  · exact ⟨valid d hd, Text.isBoundary_le (valid d hd).2.2⟩
  · intro e s' evaluated f failed
    -- An evaluation that succeeds is all that its steps have recorded.
    have same : (Evaluation.ofSteps filter t s (c.walk t r).steps).1 = e := by
      rw [evaluate] at evaluated
      cases failure : (c.walk t r).failure with
      | none => simpa [failure] using congrArg Prod.fst evaluated
      | some g => simp [failure] at evaluated
    rw [same] at valid
    rw [Evaluation.apply] at failed
    split at failed
    · cases failed
    · next why conflict =>
      cases failed
      obtain ⟨⟨a, b, rfl⟩, clash⟩ := Change.applyAll_error_of_valid valid conflict
      exact ⟨⟨a, b, rfl⟩, clash⟩

def accents : Text := "é,aé".toList

def doubled : Command :=
  .group [.addressed (.range .finish (.search .backward comma)) (.append ";".toList),
    .extract false comma (.group [.print, .delete, .change "é".toList])]

theorem evaluate_safe_doubled :
    ∃ e, Checked.evaluate numberLimit doubled (fun _ w s => (.ok w, s)) accents
        (accents.clampRegion 9 1) () = some (.ok e, ()) ∧
      (∀ d ∈ e.changes, accents.Valid d.region) ∧
      (∃ a b, e.apply accents = .error (.conflict (.overlap a b))) ∧ Change.Clash e.changes := by
  let filter : Filter Unit := fun _ w s => (.ok w, s)
  let r := accents.clampRegion 9 1
  obtain ⟨checked, valid, clash⟩ := evaluate_safe doubled filter (t := accents) (r := r)
    (Or.inr ⟨9, 1, rfl⟩) ()
  let e : Evaluation :=
    ⟨[⟨6, 6, ";".toList⟩, ⟨2, 3, []⟩, ⟨2, 3, "é".toList⟩], ",\n".toList, []⟩
  have collected :
      Evaluation.ofSteps filter accents () (doubled.walk accents r).steps = (e, ()) := by
    decide +kernel
  have done : (doubled.walk accents r).failure = none := by decide +kernel
  have evaluated : doubled.evaluate filter accents r () = (.ok e, ()) := by
    rw [evaluate, collected, done]
    rfl
  have refused : ¬Change.Compatible accents e.changes := fun h => absurd h.apart (by decide)
  rw [collected] at valid
  cases applied : e.apply accents with
  | ok u =>
    rw [Evaluation.apply] at applied
    split at applied
    · next made => exact absurd (Change.applyAll_eq_ok_iff.mp made).1 refused
    · cases applied
  | error f =>
    obtain ⟨⟨a, b, rfl⟩, overlap⟩ := clash e () evaluated f applied
    refine ⟨e, ?_, fun d hd => (valid d hd).1, ⟨a, b, applied⟩, overlap⟩
    exact (checked numberLimit (by decide)).trans (congrArg some evaluated)

end Command

end StructuralEdit
