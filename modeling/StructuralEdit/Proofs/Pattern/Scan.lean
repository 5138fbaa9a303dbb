import StructuralEdit.Proofs.Pattern.Matches
/-!
The matches that a scan finds. They are valid regions that follow one another from the left, and
there is none only if the pattern occurs nowhere.
-/
namespace StructuralEdit.Pattern

open Region (Sequence)

variable {p : Pattern} {t : Text} {m : Region}

theorem nextMatch?_eq_some {n : Nat} {last : Option Nat} (h : p.nextMatch? t n last = some m) :
    t.Valid m ∧ n ≤ m.start := by
  unfold nextMatch? at h
  split at h
  · cases h
  · next k found =>
    split at h
    · obtain ⟨valid, behind⟩ := find?_eq_some h
      exact ⟨valid, Nat.le_of_succ_le behind⟩
    · cases h
      exact find?_eq_some found

theorem scanFrom_sequence (bound n : Nat) (last : Option Nat) (hn : n ≤ t.size) :
    (∀ m ∈ p.scanFrom t bound n last, t.Valid m) ∧
      Sequence n (p.scanFrom t bound n last) t.size := by
  induction bound generalizing n last with
  | zero => exact ⟨by simp [scanFrom], hn⟩
  | succ bound ih =>
    rw [scanFrom]
    split
    · exact ⟨by simp, hn⟩
    · next m found =>
      obtain ⟨valid, behind⟩ := nextMatch?_eq_some found
      obtain ⟨all, sequence⟩ := ih m.stop (some m.stop) (Text.isBoundary_le valid.2.2)
      exact ⟨by simpa using ⟨valid, all⟩, behind, valid.1, sequence⟩

theorem scan_valid : ∀ m ∈ p.scan t, t.Valid m :=
  (scanFrom_sequence _ 0 none (Nat.zero_le _)).1

theorem scan_sequence : Sequence 0 (p.scan t) t.size :=
  (scanFrom_sequence _ 0 none (Nat.zero_le _)).2

theorem head?_scan : (p.scan t).head? = p.find? t 0 := by
  rw [scan, scanFrom, nextMatch?]
  cases p.find? t 0 with
  | none => rfl
  | some m => simp

theorem scan_eq_nil_iff : p.scan t = [] ↔ p.find? t 0 = none := by
  rw [← List.head?_eq_none_iff, head?_scan]

end StructuralEdit.Pattern
