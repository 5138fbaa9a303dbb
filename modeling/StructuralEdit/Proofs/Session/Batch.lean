import StructuralEdit.Proofs.Session.Atomicity
import StructuralEdit.Proofs.Session.Modification
import StructuralEdit.Proofs.Session.Reports
/-!
Commands that are run in turn up to the first that fails. Each execution begins where the one
before it has ended, and the calls of filters go on from one to the next. On a terminal, the mark
of a modified buffer says whether one of the executions has put another text into the buffer.
-/
namespace StructuralEdit

variable {η σ : Type}

namespace Session

/-- The executions of commands on the whole buffer, up to the first that fails. -/
def batch [Host η] (s : Session σ) : List Text → World η σ → List (Execution η σ)
  | [], _ => []
  | input :: inputs, w =>
    let (result, after) := s.execute input w
    ⟨input, Text.whole, w, result, after⟩ :: if result.isOk then s.batch inputs after else []

end Session

def World.plain (w : World η (Transcript σ)) : World η σ := ⟨w.host, w.memory.state⟩

namespace Execution

def final (w : World η σ) : List (Execution η σ) → World η σ
  | [] => w
  | x :: xs => final x.after xs

/-- The execution has put another text into the buffer. -/
def Alters (x : Execution Terminal σ) : Prop := x.after.host.buffer ≠ x.before.host.buffer

end Execution

namespace Session

variable [Host η] {s : Session σ} {input : Text} {inputs : List Text} {w after : World η σ}

theorem batch_of_ok {o : Outcome} (h : s.execute input w = (.ok o, after)) :
    s.batch (input :: inputs) w =
      ⟨input, Text.whole, w, .ok o, after⟩ :: s.batch inputs after := by
  simp [batch, h, Except.isOk, Except.toBool]

theorem batch_of_error {f : Failure} (h : s.execute input w = (.error f, after)) :
    s.batch (input :: inputs) w = [⟨input, Text.whole, w, .error f, after⟩] := by
  simp [batch, h, Except.isOk, Except.toBool]

theorem batch_prefix (s : Session σ) (inputs : List Text) (w : World η σ) :
    (s.batch inputs w).map (·.input) <+: inputs := by
  induction inputs generalizing w with
  | nil => exact List.prefix_rfl
  | cons input inputs ih =>
    rcases run : s.execute input w with ⟨f | o, after⟩
    · rw [batch_of_error run]
      exact ⟨inputs, rfl⟩
    · rw [batch_of_ok run, List.map_cons]
      exact (List.prefix_cons_inj input).mpr (ih after)

theorem batch_complete (h : ∀ x ∈ s.batch inputs w, x.result.isOk = true) :
    (s.batch inputs w).map (·.input) = inputs := by
  induction inputs generalizing w with
  | nil => rfl
  | cons input inputs ih =>
    rcases run : s.execute input w with ⟨f | o, after⟩
    · rw [batch_of_error run] at h
      cases h _ (List.mem_singleton.mpr rfl)
    · rw [batch_of_ok run] at h ⊢
      rw [List.map_cons, ih (List.forall_mem_cons.mp h).2]

theorem batch_stops {x : Execution η σ} (hx : x ∈ s.batch inputs w)
    (failed : x.result.isOk = false) : (s.batch inputs w).getLast? = some x := by
  induction inputs generalizing w with
  | nil => cases hx
  | cons input inputs ih =>
    rcases run : s.execute input w with ⟨f | o, after⟩
    · rw [batch_of_error run] at hx ⊢
      rw [List.mem_singleton.mp hx]
      rfl
    · rw [batch_of_ok run] at hx ⊢
      rcases List.mem_cons.mp hx with rfl | later
      · cases failed
      · rw [List.getLast?_cons, ih later]
        rfl

/-- A terminal is marked in the end if it was marked at first or if an execution has put another
text into its buffer. Without either, it has the text that it had. -/
theorem batch_modified (s : Session σ) (inputs : List Text) (w : World Terminal σ) :
    ((Execution.final w (s.batch inputs w)).host.modified = true ↔
      w.host.modified = true ∨ ∃ x ∈ s.batch inputs w, x.Alters) ∧
    ((∀ x ∈ s.batch inputs w, ¬x.Alters) →
      (Execution.final w (s.batch inputs w)).host.buffer = w.host.buffer) := by
  induction inputs generalizing w with
  | nil => simp [batch, Execution.final]
  | cons input inputs ih =>
    have tracks := s.execute_tracks input w
    rcases run : s.execute input w with ⟨f | o, after⟩
    · rw [run] at tracks
      rw [batch_of_error run]
      simpa [Execution.final, Execution.Alters] using tracks.modified_iff
    · rw [run] at tracks
      -- A later command may put the first text back, but the mark stays.
      obtain ⟨marked, kept⟩ := ih after
      rw [batch_of_ok run]
      constructor
      · simp only [Execution.final, marked, tracks.modified_iff, Execution.Alters, List.mem_cons,
          or_and_right, exists_or, exists_eq_left, or_assoc]
      · intro none
        obtain ⟨same, later⟩ := List.forall_mem_cons.mp none
        exact (kept later).trans (Decidable.byContradiction same)

theorem execute_plain {s : Session σ} {input : Text} {w after : World η (Transcript σ)}
    {result : Result} (run : s.transcribed.execute input w = (result, after)) :
    s.execute input w.plain = (result, after.plain) := by
  let M : Transcript σ → σ → Prop := fun m n => m.state = n
  have answers : Filter.Related M s.transcribed.filter s.filter :=
    Filter.transcribed_related s.filter
  have start : World.Related Eq M w w.plain := ⟨rfl, rfl⟩
  obtain ⟨same, host, memory⟩ := execute_related Host.Related.refl answers rfl start input
  rw [run] at same host memory
  refine Prod.ext same.symm ?_
  rw [World.plain, World.mk.injEq]
  exact ⟨host.symm, memory.symm⟩

theorem execute_calls (s : Session σ) (input : Text) (w : World η (Transcript σ)) :
    ∃ calls,
      (s.transcribed.execute input w).2.memory.calls = w.memory.calls ++ calls ∧
        Filter.Calls s.filter w.memory.state calls
          (s.transcribed.execute input w).2.memory.state := by
  unfold execute runOn
  split
  · exact ⟨[], (List.append_nil _).symm, .nil _⟩
  · next c _ =>
    split
    · exact ⟨[], (List.append_nil _).symm, .nil _⟩
    · next t _ =>
      obtain ⟨calls, state, evaluated, -, chain, -⟩ :=
        c.evaluate_transcribed s.filter t t.whole w.memory
      simp only [transcribed, evaluated]
      refine ⟨calls, ?_⟩
      cases (c.walk t t.whole).failure with
      | some f => exact ⟨rfl, chain⟩
      | none => exact ⟨rfl, chain⟩

theorem batch_calls (s : Session σ) (inputs : List Text) (w : World η (Transcript σ)) :
    ∃ calls,
      (Execution.final w (s.transcribed.batch inputs w)).memory.calls = w.memory.calls ++ calls ∧
        Filter.Calls s.filter w.memory.state calls
          (Execution.final w (s.transcribed.batch inputs w)).memory.state := by
  induction inputs generalizing w with
  | nil => exact ⟨[], (List.append_nil _).symm, .nil _⟩
  | cons input inputs ih =>
    obtain ⟨first, written, chain⟩ := s.execute_calls input w
    rcases run : s.transcribed.execute input w with ⟨f | o, after⟩
    · rw [run] at written chain
      rw [batch_of_error run]
      exact ⟨first, written, chain⟩
    · rw [run] at written chain
      rw [batch_of_ok run]
      obtain ⟨later, more, chained⟩ := ih after
      refine ⟨first ++ later, ?_, chain.append chained⟩
      rw [Execution.final, more, written, List.append_assoc]

theorem batch_keeps {P : σ → Prop} (s : Session σ) (inputs : List Text)
    (w : World η (Transcript σ)) (hw : P w.memory.state)
    (kept : ∀ k ∈ (Execution.final w (s.transcribed.batch inputs w)).memory.calls,
      P k.before → P k.after) :
    P (Execution.final w (s.transcribed.batch inputs w)).memory.state := by
  obtain ⟨calls, written, chain⟩ := s.batch_calls inputs w
  refine chain.keeps hw fun k hk => kept k ?_
  rw [written]
  exact List.mem_append_right _ hk

end Session

end StructuralEdit
