import StructuralEdit.Walk
import StructuralEdit.Proofs.Pattern.Matches
/-!
The regions that an extraction works on are valid: matches in a region are moved to where the
region starts, and gaps reach from match to match.
-/
namespace StructuralEdit

open Region (Sequence)

variable {t : Text} {r : Region} {p : Pattern}

theorem Region.between_of_le {a b : Nat} (h : a ≤ b) : Region.between a b = ⟨a, b⟩ := by
  rw [between, Nat.max_eq_right h]

theorem stretches_valid {here stop : Nat} {ms : List Region} (hh : t.isBoundary here)
    (hs : t.isBoundary stop) (valid : ∀ m ∈ ms, t.Valid m) (h : Sequence here ms stop) :
    ∀ g ∈ stretches here stop ms, t.Valid g := by
  induction ms generalizing here with
  | nil =>
    simp only [stretches, List.mem_singleton]
    rintro g rfl
    rw [Region.between_of_le h]
    exact ⟨h, hh, hs⟩
  | cons m ms ih =>
    obtain ⟨hm, hle, h⟩ := h
    have first := valid m (by simp)
    intro g hg
    rcases List.mem_cons.mp hg with rfl | hg
    · rw [Region.between_of_le hm]
      exact ⟨hm, hh, first.2.1⟩
    · exact ih first.2.2 (fun m hm => valid m (by simp [hm])) h g hg

theorem matchesInRegion_valid (hr : t.Valid r) : ∀ m ∈ matchesInRegion t p r, t.Valid m := by
  intro m hm
  obtain ⟨k, hk, rfl⟩ := List.mem_map.mp hm
  exact Text.valid_shift hr (Pattern.matchesIn_valid k hk)

theorem matchesInRegion_sequence (hr : t.Valid r) :
    Sequence r.start (matchesInRegion t p r) r.stop := by
  have shifted := (Pattern.matchesIn_sequence (p := p) (t := t.slice r)).shift r.start
  rwa [Nat.zero_add, Nat.add_comm, Text.size_slice hr] at shifted

theorem gaps_valid (hr : t.Valid r) : ∀ g ∈ gaps r (matchesInRegion t p r), t.Valid g := by
  intro g hg
  rw [gaps] at hg
  split at hg
  · exact (List.mem_singleton.mp hg) ▸ hr
  · exact stretches_valid hr.2.1 hr.2.2 (matchesInRegion_valid hr) (matchesInRegion_sequence hr) g
      (List.mem_filter.mp hg).1

theorem targets_valid {inverse : Bool} (hr : t.Valid r) :
    ∀ m ∈ targets t inverse p r, t.Valid m := by
  cases inverse with
  | false => exact matchesInRegion_valid hr
  | true => exact gaps_valid hr

end StructuralEdit
