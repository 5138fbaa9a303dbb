import StructuralEdit.Pattern.Matches
import StructuralEdit.Proofs.Text.Sequence
/-!
Where matches lie. A match covers whole characters of the text searched, at or behind the place
from which the search starts; the successive matches in a text are a sequence of valid regions.
-/
namespace StructuralEdit

theorem Regex.Program.run_eq_some {p : Regex.Program} {prev : Option Char} {is : List Nat}
    {consumed n : Nat} {best : Option Nat} {rest : Text}
    (h : p.run prev is consumed best rest = some n) :
    best = some n ∨ ∃ u v, rest = u ++ v ∧ n = consumed + Text.size u := by
  induction rest generalizing prev is consumed best with
  | nil =>
    simp only [run] at h
    split at h
    · exact Or.inr ⟨[], [], rfl, (Option.some.inj h).symm⟩
    · exact Or.inl h
  | cons c rest ih =>
    -- A beginning found here is the empty one; a later one has this character in front.
    have here : ∀ accepts : Bool, (if accepts then some consumed else best) = some n →
        best = some n ∨ ∃ u v, c :: rest = u ++ v ∧ n = consumed + Text.size u := by
      intro accepts found
      split at found
      · exact Or.inr ⟨[], c :: rest, rfl, (Option.some.inj found).symm⟩
      · exact Or.inl found
    simp only [run] at h
    split at h
    · exact here _ h
    · rcases ih h with found | ⟨u, v, rfl, rfl⟩
      · exact here _ found
      · exact Or.inr ⟨c :: u, v, rfl, by simp [Nat.add_assoc]⟩

theorem Regex.Program.matchLength?_eq_some {p : Regex.Program} {prev : Option Char} {n : Nat}
    {rest : Text} (h : p.matchLength? prev rest = some n) :
    ∃ u v, rest = u ++ v ∧ n = Text.size u := by
  rcases run_eq_some h with found | ⟨u, v, rfl, rfl⟩
  · simp at found
  · exact ⟨u, v, rfl, by simp⟩

namespace Pattern

open Region (Sequence)

variable {p : Pattern} {t : Text} {m : Region}

/-- The region covers whole characters of `rest`, which starts at byte `here`. -/
def Covers (here : Nat) (rest : Text) (m : Region) : Prop :=
  ∃ a u b, rest = a ++ (u ++ b) ∧ m = ⟨here + Text.size a, here + Text.size a + Text.size u⟩

theorem Covers.start_le {here : Nat} {rest : Text} (h : Covers here rest m) : here ≤ m.start := by
  obtain ⟨a, u, b, _, rfl⟩ := h
  exact Nat.le_add_right _ _

theorem Covers.cons {here : Nat} {c : Char} {rest : Text}
    (h : Covers (here + c.utf8Size) rest m) : Covers here (c :: rest) m := by
  obtain ⟨a, u, b, rfl, rfl⟩ := h
  refine ⟨c :: a, u, b, rfl, ?_⟩
  simp only [Text.size_cons, Region.mk.injEq]
  omega

theorem Covers.valid (h : Covers 0 t m) : t.Valid m := by
  obtain ⟨a, u, b, rfl, rfl⟩ := h
  exact Text.valid_iff.mpr ⟨a, u, b, rfl, by simp⟩

theorem covers_of_matchLength? {prev : Option Char} {n here : Nat} {rest : Text}
    (h : p.program.matchLength? prev rest = some n) : Covers here rest ⟨here, here + n⟩ := by
  obtain ⟨u, v, rfl, rfl⟩ := Regex.Program.matchLength?_eq_some h
  exact ⟨[], u, v, rfl, rfl⟩

theorem findFrom_eq_some {prev : Option Char} {here : Nat} {rest : Text}
    (h : p.findFrom prev here rest = some m) : Covers here rest m := by
  induction rest generalizing prev here with
  | nil =>
    rw [findFrom, Option.map_eq_some_iff] at h
    obtain ⟨n, found, rfl⟩ := h
    exact covers_of_matchLength? found
  | cons c rest ih =>
    rw [findFrom] at h
    split at h
    · next n found =>
      cases h
      exact covers_of_matchLength? found
    · exact (ih h).cons

theorem seek_eq_some {n : Nat} {prev : Option Char} {here : Nat} {rest : Text}
    (h : p.seek n prev here rest = some m) : n ≤ m.start ∧ Covers here rest m := by
  induction rest generalizing prev here with
  | nil =>
    rw [seek] at h
    split at h
    · next reached =>
      have found := findFrom_eq_some h
      exact ⟨Nat.le_trans reached found.start_le, found⟩
    · cases h
  | cons c rest ih =>
    rw [seek] at h
    split at h
    · next reached =>
      have found := findFrom_eq_some h
      exact ⟨Nat.le_trans reached found.start_le, found⟩
    · obtain ⟨hn, found⟩ := ih h
      exact ⟨hn, found.cons⟩

theorem find?_eq_some {n : Nat} (h : p.find? t n = some m) : t.Valid m ∧ n ≤ m.start := by
  obtain ⟨hn, found⟩ := seek_eq_some h
  exact ⟨found.valid, hn⟩

theorem le_of_afterChar? {n k : Nat} (h : afterChar? t n = some k) : n ≤ k := by
  obtain ⟨c, _, rfl⟩ := Option.map_eq_some_iff.mp h
  exact Nat.le_add_right _ _

theorem matchesFrom_sequence (bound cursor : Nat) (last : Option Nat) {here : Nat}
    (hc : here ≤ cursor) (hs : here ≤ t.size) :
    (∀ m ∈ p.matchesFrom t bound cursor last, t.Valid m) ∧
      Sequence here (p.matchesFrom t bound cursor last) t.size := by
  induction bound generalizing cursor last here with
  | zero => exact ⟨by simp [matchesFrom], hs⟩
  | succ bound ih =>
    rw [matchesFrom]
    split
    · exact ⟨by simp, hs⟩
    · next m found =>
      obtain ⟨valid, hn⟩ := find?_eq_some found
      have hle := valid.1
      have stop := Text.isBoundary_le valid.2.2
      extract_lets rest
      have later : ∀ {here}, here ≤ m.stop →
          (∀ m ∈ rest, t.Valid m) ∧ Sequence here rest t.size := by
        intro here hm
        unfold rest
        split
        · split
          · next next reached =>
            exact ih _ _ (Nat.le_trans hm (le_of_afterChar? reached)) (by omega)
          · exact ⟨by simp, by simp only [Sequence]; omega⟩
        · exact ih _ _ hm (by omega)
      split
      · exact later (by omega)
      · obtain ⟨all, sequence⟩ := later (Nat.le_refl m.stop)
        exact ⟨by simpa using ⟨valid, all⟩, by omega, hle, sequence⟩

theorem matchesIn_valid : ∀ m ∈ p.matchesIn t, t.Valid m :=
  (matchesFrom_sequence _ 0 none (Nat.le_refl 0) (Nat.zero_le _)).1

theorem matchesIn_sequence : Sequence 0 (p.matchesIn t) t.size :=
  (matchesFrom_sequence _ 0 none (Nat.le_refl 0) (Nat.zero_le _)).2

end Pattern

end StructuralEdit
