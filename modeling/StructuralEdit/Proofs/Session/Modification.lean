import StructuralEdit.Host.Terminal
import StructuralEdit.Session
/-!
Terminals know whether their buffer was changed. A command puts at most one text into the buffer,
and if that is another text than the buffer had, the terminal is marked as modified. The mark is
never taken away, also when a later command puts the first text back.
-/
namespace StructuralEdit

variable {σ : Type} {h k l : Terminal}

namespace Terminal

structure Keeps (h k : Terminal) : Prop where
  buffer_eq : k.buffer = h.buffer
  modified_eq : k.modified = h.modified

/-- The terminal `k` has the text and the mark that `h` has, or it has another text and is
marked. -/
def Tracks (h k : Terminal) : Prop := Keeps h k ∨ k.buffer ≠ h.buffer ∧ k.modified = true

theorem Keeps.refl (h : Terminal) : Keeps h h := ⟨rfl, rfl⟩

theorem Keeps.trans (first : Keeps h k) (later : Keeps k l) : Keeps h l :=
  ⟨later.buffer_eq.trans first.buffer_eq, later.modified_eq.trans first.modified_eq⟩

theorem Tracks.after (first : Keeps h k) (later : Tracks k l) : Tracks h l := by
  rcases later with kept | ⟨other, marked⟩
  · exact Or.inl (first.trans kept)
  · exact Or.inr ⟨fun same => other (same.trans first.buffer_eq.symm), marked⟩

theorem Tracks.followed (first : Tracks h k) (later : Keeps k l) : Tracks h l := by
  rcases first with kept | ⟨other, marked⟩
  · exact Or.inl (kept.trans later)
  · exact Or.inr ⟨fun same => other (later.buffer_eq.symm.trans same),
      later.modified_eq.trans marked⟩

theorem Tracks.modified_iff (tracks : Tracks h k) :
    k.modified = true ↔ h.modified = true ∨ k.buffer ≠ h.buffer := by
  rcases tracks with ⟨buffer, modified⟩ | ⟨other, marked⟩
  · simp [buffer, modified]
  · simp [other, marked]

theorem keeps_say (message : String) (h : Terminal) : Keeps h (Host.say message h) := ⟨rfl, rfl⟩

theorem keeps_present (name : String) (t : Text) (h : Terminal) :
    Keeps h (Host.present name t h) := ⟨rfl, rfl⟩

theorem replace_tracks (t : Text) (h : Terminal) : Tracks h (Host.replace t h).2 := by
  by_cases same : h.buffer = t
  · have stays : (Host.replace t h).2 = h := by simp only [Host.replace, if_pos same]
    rw [stays]
    exact Or.inl (.refl h)
  · have replaced : (Host.replace t h).2 = { h with buffer := t, modified := true } := by
      simp only [Host.replace, if_neg same]
    rw [replaced]
    exact Or.inr ⟨fun equal => same equal.symm, rfl⟩

end Terminal

open Terminal (Keeps Tracks keeps_say keeps_present replace_tracks)

theorem keeps_reportFailures (fs : List Failure) (h : Terminal) : Keeps h (reportFailures fs h) := by
  induction fs generalizing h with
  | nil => exact .refl h
  | cons f fs ih => exact (keeps_say (failureMessage f) h).trans (ih _)

theorem commit_tracks (t : Text) (e : Evaluation) (h : Terminal) : Tracks h (commit t e h).2 := by
  unfold commit
  cases e.apply t with
  | error f => exact Or.inl (.refl h)
  | ok u => exact (replace_tracks u h).followed (keeps_say _ _)

theorem keeps_nothingHappened (e : Evaluation) (h : Terminal) :
    Keeps h (nothingHappened e h).2 := by
  unfold nothingHappened
  split
  · exact keeps_say _ h
  · exact .refl h

theorem keeps_presentOutput (config : Config) (e : Evaluation) (h : Terminal) :
    Keeps h (presentOutput config e h) := by
  unfold presentOutput
  dsimp only
  split
  · exact keeps_say _ h
  · exact (keeps_present _ _ h).trans (keeps_say _ _)

theorem conclude_tracks (config : Config) (t : Text) (e : Evaluation) (h : Terminal) :
    Tracks h (conclude config t e h).2 := by
  have reported := keeps_reportFailures e.failures h
  unfold conclude
  dsimp only
  split
  · exact .after reported (commit_tracks t e _)
  · split
    · exact Or.inl (reported.trans (keeps_nothingHappened e _))
    · exact Or.inl (reported.trans (keeps_presentOutput config e _))

theorem Session.execute_tracks (s : Session σ) (input : Text) (w : World Terminal σ) :
    Tracks w.host (s.execute input w).2.host := by
  unfold execute runOn
  split
  · exact Or.inl (.refl w.host)
  · split
    · exact Or.inl (.refl w.host)
    · split
      · exact Or.inl (.refl w.host)
      · exact conclude_tracks s.config _ _ w.host

end StructuralEdit
