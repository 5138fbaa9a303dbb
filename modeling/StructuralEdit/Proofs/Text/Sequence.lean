import StructuralEdit.Proofs.Text.Places
/-!
Regions one after the other between two places. Neighbours may touch and regions may be empty,
but none reaches over the start of the next one.
-/
namespace StructuralEdit.Region

/-- Each region starts where the one before it stops, or behind that. -/
def Sequence : Nat → List Region → Nat → Prop
  | here, [], stop => here ≤ stop
  | here, r :: rs, stop => here ≤ r.start ∧ r.start ≤ r.stop ∧ Sequence r.stop rs stop

variable {rs qs : List Region} {a b c : Nat}

theorem Sequence.le (h : Sequence a rs b) : a ≤ b := by
  induction rs generalizing a with
  | nil => exact h
  | cons r rs ih =>
    obtain ⟨hr, hle, h⟩ := h
    have := ih h
    omega

theorem Sequence.of_le (h : Sequence b rs c) (k : a ≤ b) : Sequence a rs c := by
  cases rs with
  | nil => exact Nat.le_trans k h
  | cons r rs => exact ⟨Nat.le_trans k h.1, h.2⟩

theorem Sequence.append (h : Sequence a rs b) (k : Sequence b qs c) :
    Sequence a (rs ++ qs) c := by
  induction rs generalizing a with
  | nil => exact k.of_le h
  | cons r rs ih => exact ⟨h.1, h.2.1, ih h.2.2⟩

theorem sequence_append_cons {r : Region} :
    Sequence a (rs ++ r :: qs) b ↔
      Sequence a rs r.start ∧ r.start ≤ r.stop ∧ Sequence r.stop qs b := by
  induction rs generalizing a with
  | nil => rfl
  | cons q rs ih => simp only [List.cons_append, Sequence, ih, and_assoc]

theorem Sequence.bounds (h : Sequence a rs b) :
    ∀ r ∈ rs, a ≤ r.start ∧ r.start ≤ r.stop ∧ r.stop ≤ b := by
  induction rs generalizing a with
  | nil => simp
  | cons q rs ih =>
    obtain ⟨hq, hle, h⟩ := h
    intro r hr
    rcases List.mem_cons.mp hr with rfl | hr
    · exact ⟨hq, hle, h.le⟩
    · have := ih h r hr
      omega

theorem Sequence.shift (h : Sequence a rs b) (n : Nat) :
    Sequence (a + n) (rs.map (·.shift n)) (b + n) := by
  induction rs generalizing a with
  | nil => exact Nat.add_le_add_right h n
  | cons r rs ih =>
    obtain ⟨hr, hle, h⟩ := h
    exact ⟨Nat.add_le_add_right hr n, Nat.add_le_add_right hle n, ih h⟩

theorem sequence_iff :
    Sequence a rs b ↔ a ≤ b ∧ (∀ r ∈ rs, a ≤ r.start ∧ r.start ≤ r.stop ∧ r.stop ≤ b) ∧
      rs.Pairwise fun q r => q.stop ≤ r.start := by
  constructor
  · intro h
    refine ⟨h.le, h.bounds, ?_⟩
    induction rs generalizing a with
    | nil => exact .nil
    | cons q rs ih => exact .cons (fun r hr => (h.2.2.bounds r hr).1) (ih h.2.2)
  · rintro ⟨hab, inside, apart⟩
    induction rs generalizing a with
    | nil => exact hab
    | cons q rs ih =>
      obtain ⟨hq, apart⟩ := List.pairwise_cons.mp apart
      have first := inside q (by simp)
      refine ⟨first.1, first.2.1, ih first.2.2 (fun r hr => ?_) apart⟩
      have := inside r (by simp [hr])
      exact ⟨hq r hr, this.2⟩

end StructuralEdit.Region
