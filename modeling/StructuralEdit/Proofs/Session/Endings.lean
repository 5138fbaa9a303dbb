import StructuralEdit.Proofs.Session.Storing
/-!
How the effect of an evaluation ends: the buffer is replaced once by the text with all changes
made, or it is kept, or the changes conflict, or the buffer refuses the new text. The filters that
failed are reported before any of this.
-/
namespace StructuralEdit

variable {η : Type}

def reports (e : Evaluation) : List Event := e.failures.map fun f => .said (failureMessage f)

@[simp] theorem written_reports (e : Evaluation) : written (reports e) = [] := by
  rw [written, reports, List.filterMap_map, List.filterMap_eq_nil_iff]
  intro f _
  rfl

theorem reports_isPresented {e : Evaluation} {event : Event} (h : event ∈ reports e) :
    event.isPresented = false := by
  obtain ⟨f, _, rfl⟩ := List.mem_map.1 h
  rfl

theorem Evaluation.apply_error {e : Evaluation} {t : Text} {f : Failure}
    (h : e.apply t = .error f) : ∃ why, f = .conflict why := by
  rw [apply] at h
  split at h
  · cases h
  · next why _ => exact ⟨why, (Except.error.inj h).symm⟩

open Observed (Extends extends_say extends_present replace_extends)

variable [Host η] [Host.Storing η] {t u : Text} {e : Evaluation} {g h k : Observed η}
  {events : List Event}

/-- The effect of an evaluation on the host `h`, when the text of the buffer was `t`: its result
and the host that comes of it. -/
inductive Ends (t : Text) (e : Evaluation) (h : Observed η) : Result × Observed η → Prop
  | changed {k : Observed η} {u : Text} {events : List Event} : e.apply t = .ok u →
      Extends h k events → written events = [u] → Ends t e h (.ok (.changed e.changes.length), k)
  | kept {k : Observed η} {o : Outcome} {events : List Event} : e.hasChanges = false →
      (∀ n, o ≠ .changed n) → Extends h k events → written events = [] → Ends t e h (.ok o, k)
  | conflict {k : Observed η} {why : Change.Conflict} : e.apply t = .error (.conflict why) →
      Extends h k (reports e) → Ends t e h (.error (.conflict why), k)
  | refused {k : Observed η} {u detail : Text} : e.apply t = .ok u →
      Extends h k (reports e ++ [.refused u]) → Ends t e h (.error (.io detail), k)

theorem Ends.followed {o : Outcome} (ended : Ends t e g (.ok o, h)) (later : Extends h k events)
    (none : written events = []) : Ends t e g (.ok o, k) := by
  cases ended with
  | changed made extended one =>
    refine .changed made (extended.trans later) ?_
    rw [written_append, one, none, List.append_nil]
  | kept unchanged other extended zero =>
    refine .kept unchanged other (extended.trans later) ?_
    rw [written_append, zero, none, List.append_nil]

/-- However an effect ends, what it has done to the host can be told from the events. -/
theorem Ends.extends {after : Result × Observed η} (ended : Ends t e h after) :
    ∃ events, Extends h after.2 events := by
  cases ended with
  | changed _ extended _ => exact ⟨_, extended⟩
  | kept _ _ extended _ => exact ⟨_, extended⟩
  | conflict _ extended => exact ⟨_, extended⟩
  | refused _ extended => exact ⟨_, extended⟩

theorem extends_reportFailures (e : Evaluation) (h : Observed η) :
    Extends h (reportFailures e.failures h) (reports e) := by
  have all : ∀ (fs : List Failure) (h : Observed η), Extends h (reportFailures fs h)
      (fs.map fun f => .said (failureMessage f)) := by
    intro fs
    induction fs with
    | nil => exact fun h => .refl h
    | cons f fs ih => exact fun h => (extends_say (failureMessage f) h).trans (ih _)
  exact all e.failures h

theorem commit_ends (reported : Extends g h (reports e)) : Ends t e g (commit t e h) := by
  unfold commit
  split
  · next f failed =>
    obtain ⟨why, rfl⟩ := Evaluation.apply_error failed
    exact .conflict failed reported
  · next u made =>
    rcases replace_extends u h with ⟨k, done, replaced⟩ | ⟨detail, k, done, refused⟩
    · rw [done]
      have said := extends_say (toString e.changes.length ++ " change(s) applied") k
      refine .changed made ((reported.trans replaced).trans said) ?_
      rw [written_append, written_append, written_reports]
      rfl
    · rw [done]
      exact .refused made (reported.trans refused)

theorem nothingHappened_ends (unchanged : e.hasChanges = false)
    (reported : Extends g h (reports e)) : Ends t e g (nothingHappened e h) := by
  unfold nothingHappened
  split
  · refine .kept unchanged (by simp) (reported.trans (extends_say "No matches" h)) ?_
    rw [written_append, written_reports]
    rfl
  · exact .kept unchanged (by simp) reported (written_reports e)

theorem presentOutput_extends (config : Config) (e : Evaluation) (h : Observed η) :
    ∃ events, Extends h (presentOutput config e h) events ∧ written events = [] := by
  unfold presentOutput
  dsimp only
  split
  · exact ⟨_, extends_say _ h, rfl⟩
  · exact ⟨_, (extends_present _ _ h).trans (extends_say _ _), rfl⟩

theorem sayIfAny_extends (t message : Text) (h : Observed η) :
    ∃ events, Extends h (sayIfAny t message h) events ∧ written events = [] := by
  unfold sayIfAny
  split
  · exact ⟨_, .refl h, rfl⟩
  · exact ⟨_, extends_say _ h, rfl⟩

theorem Ends.printed {n : Nat} (unchanged : e.hasChanges = false)
    (reported : Extends g h (reports e))
    (shown : ∃ events, Extends h k events ∧ written events = []) :
    Ends t e g (.ok (.printed n), k) := by
  obtain ⟨events, extended, none⟩ := shown
  have quiet : Ends t e g (.ok (.printed n), h) :=
    .kept unchanged (by simp) reported (written_reports e)
  exact quiet.followed extended none

theorem conclude_ends (config : Config) (t : Text) (e : Evaluation) (h : Observed η) :
    Ends t e h (conclude config t e h) := by
  have reported := extends_reportFailures e h
  unfold conclude
  dsimp only
  split
  · exact commit_ends reported
  · next unchanged =>
    have unchanged : e.hasChanges = false := Bool.eq_false_iff.2 unchanged
    split
    · exact nothingHappened_ends unchanged reported
    · exact .printed unchanged reported (presentOutput_extends config e _)

theorem concludeOnRegion_ends (config : Config) (t : Text) (e : Evaluation) (h : Observed η) :
    Ends t e h (concludeOnRegion config t e h) := by
  have reported := extends_reportFailures e h
  unfold concludeOnRegion
  dsimp only
  split
  · have committed : Ends t e h (commit t e (reportFailures e.failures h)) := commit_ends reported
    split
    · next o k done =>
      rw [done] at committed
      obtain ⟨events, extended, none⟩ :=
        sayIfAny_extends e.output (summary e.output config.summaryWidth) k
      exact committed.followed extended none
    · next f k done =>
      rw [done] at committed
      exact committed
  · next unchanged =>
    have unchanged : e.hasChanges = false := Bool.eq_false_iff.2 unchanged
    split
    · exact nothingHappened_ends unchanged reported
    · exact .printed unchanged reported (sayIfAny_extends e.output _ _)

end StructuralEdit
