import StructuralEdit.Evaluation
import StructuralEdit.Proofs.Walk.Regions
/-!
What can end a walk. Only an address can fail, and only by a search for a pattern that it does
not find.
-/
namespace StructuralEdit

variable {t : Text} {r : Region} {f : Failure}

theorem Address.resolve_error {a : Address} (h : a.resolve t r = .error f) :
    ∃ source, f = .notFound source := by
  induction a generalizing r with
  | search d p =>
    cases d with
    | forward =>
      rw [resolve] at h
      split at h
      · cases h
      · exact ⟨p.source, (Except.error.inj h).symm⟩
    | backward =>
      rw [resolve] at h
      split at h
      · cases h
      · exact ⟨p.source, (Except.error.inj h).symm⟩
  | range a b first second =>
    rw [resolve] at h
    cases start : a.resolve t r with
    | error g =>
      rw [start] at h
      cases h
      exact first start
    | ok q =>
      rw [start] at h
      cases stop : b.resolve t q with
      | error g =>
        simp only [stop, bind, Except.bind] at h
        cases h
        exact second stop
      | ok k => simp [stop, bind, Except.bind, pure, Except.pure] at h
  | _ => cases h

theorem Walk.failure_each_eq_some {walk : α → Walk} {xs : List α}
    (h : (each walk xs).failure = some f) : ∃ x ∈ xs, (walk x).failure = some f := by
  induction xs with
  | nil => cases h
  | cons x xs ih =>
    rw [each] at h
    split at h
    · exact ⟨x, by simp, h⟩
    · next done =>
      have none : (walk x).failure = none := by simpa using done
      simp only [andThen, none] at h
      obtain ⟨y, hy, failed⟩ := ih h
      exact ⟨y, List.mem_cons_of_mem x hy, failed⟩

theorem Command.walk_failure {c : Command} (h : (c.walk t r).failure = some f) :
    ∃ source, f = .notFound source := by
  induction c using Command.induction generalizing r with
  | extract inverse p sub ih =>
    rw [walk] at h
    obtain ⟨m, -, failed⟩ := Walk.failure_each_eq_some h
    exact ih failed
  | guard inverse p sub ih =>
    rw [walk] at h
    split at h
    · exact ih h
    · cases h
  | group members ih =>
    rw [walk, walkMembers_eq_each] at h
    obtain ⟨c, hc, failed⟩ := Walk.failure_each_eq_some h
    exact ih c hc failed
  | addressed a sub ih =>
    rw [walk] at h
    split at h
    · exact ih h
    · next g failed =>
      cases h
      exact Address.resolve_error failed
  | _ => cases h

/-- An evaluation fails only for a pattern that is not found. -/
theorem Command.evaluate_error {c : Command} {filter : Filter σ} {s s' : σ}
    (h : c.evaluate filter t r s = (.error f, s')) : ∃ source, f = .notFound source := by
  rw [evaluate] at h
  cases failure : (c.walk t r).failure with
  | none => simp [failure] at h
  | some g =>
    have same : g = f := by simpa [failure] using congrArg Prod.fst h
    exact walk_failure (failure.trans (congrArg some same))

end StructuralEdit
