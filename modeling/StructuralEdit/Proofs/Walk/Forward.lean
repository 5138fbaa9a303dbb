import StructuralEdit.Proofs.Pattern.Leftmost
import StructuralEdit.Proofs.Walk.Backward
/-!
What a forward search comes to. It looks for the first match that starts where the current region
stops or behind that. If there is none, all matches start before that place, and it takes the first
match of the text, which may reach over the place. It fails only if there is no match at all.
-/
namespace StructuralEdit.Address

variable {t : Text} {p : Pattern} {r m : Region} {n : Nat}

/-- If each match starts before a place, the first one that does so in a scan is the first of all:
a scan starts with that one, so no other one can hide it. -/
theorem find?_scan_of_none (none : p.find? t n = none) :
    (p.scan t).find? (fun m => m.start < n) = p.find? t 0 := by
  rw [← Pattern.head?_scan]
  cases found : p.scan t with
  | nil => rfl
  | cons m ms =>
    have first : p.find? t 0 = some m := by rw [← Pattern.head?_scan, found, List.head?_cons]
    have before : m.start < n :=
      Pattern.find?_eq_none_iff.mp none m (Pattern.find?_eq_some_iff.mp first).occurs
    rw [List.head?_cons, List.find?_cons_of_pos (by simpa using before)]

theorem searchForward_eq (t : Text) (p : Pattern) (n : Nat) :
    searchForward t p n = (p.find? t n).or (p.find? t 0) := by
  rw [searchForward]
  cases found : p.find? t n with
  | some m => rfl
  | none => rw [Option.none_or, Option.none_or, find?_scan_of_none found]

theorem searchForward_eq_some_iff :
    searchForward t p n = some m ↔
      p.Leftmost t n m ∨
        m.start < n ∧ (∀ k, p.OccursAt t k → k.start < n) ∧ p.Leftmost t 0 m := by
  rw [searchForward_eq, Option.or_eq_some_iff, Pattern.find?_eq_some_iff,
    Pattern.find?_eq_none_iff, Pattern.find?_eq_some_iff]
  constructor
  · rintro (next | ⟨before, first⟩)
    · exact Or.inl next
    · exact Or.inr ⟨before m first.occurs, before, first⟩
  · rintro (next | ⟨-, before, first⟩)
    · exact Or.inl next
    · exact Or.inr ⟨before, first⟩

theorem searchForward_eq_none_iff :
    searchForward t p n = none ↔ ∀ k, ¬p.OccursAt t k := by
  rw [searchForward_eq, Option.or_eq_none_iff, Pattern.find?_eq_none_iff,
    Pattern.find?_eq_none_iff]
  constructor
  · rintro ⟨-, nowhere⟩ k hk
    exact Nat.not_lt_zero _ (nowhere k hk)
  · intro nowhere
    exact ⟨fun k hk => absurd hk (nowhere k), fun k hk => absurd hk (nowhere k)⟩

theorem searchForward_aba : searchForward "aba".toList aba 1 = some ⟨0, 3⟩ := by decide +kernel

/-- A forward search from a valid region gives the first match that starts where the region stops
or behind that. If there is none, each match starts before that place, and it gives the first match
of the text. It fails exactly if the pattern matches nowhere, and says that it is not found. What it
gives can reach over the place, but then it starts before. -/
theorem resolve_forward (p : Pattern) (hr : t.Valid r) :
    (∀ m, (search .forward p).resolve t r = .ok m ↔
      p.Leftmost t r.stop m ∨
        m.start < r.stop ∧ (∀ k, p.OccursAt t k → k.start < r.stop) ∧ p.Leftmost t 0 m) ∧
    (∀ f, (search .forward p).resolve t r = .error f ↔
      f = .notFound p.source ∧ ∀ k, ¬p.OccursAt t k) ∧
    ∃ (q : Pattern) (u : Text) (s k : Region), u.Valid s ∧
      (search .forward q).resolve u s = .ok k ∧ k.Surrounds s.stop := by
  have place : t.clamp r.stop = r.stop := by simpa [Text.isBoundary] using hr.2.2
  refine ⟨fun m => ?_, fun f => ?_, aba, "aba".toList, .point 1, ⟨0, 3⟩, by decide, ?_, ?_⟩
  · rw [resolve, place, ← searchForward_eq_some_iff]
    cases searchForward t p r.stop <;> simp
  · rw [resolve, place, ← searchForward_eq_none_iff (n := r.stop)]
    cases searchForward t p r.stop <;> simp [eq_comm]
  · have place : Text.clamp "aba".toList (Region.point 1).stop = 1 := by decide
    rw [resolve, place, searchForward_aba]
  · exact ⟨by decide, by decide⟩

theorem resolve_forward_aba :
    Text.Valid "aba".toList ⟨1, 2⟩ ∧ (∀ k, aba.OccursAt "aba".toList k → k.start < 2) ∧
      (search .forward aba).resolve "aba".toList ⟨1, 2⟩ = .ok ⟨0, 3⟩ := by
  have valid : Text.Valid "aba".toList ⟨1, 2⟩ := by decide
  have before : ∀ k, aba.OccursAt "aba".toList k → k.start < 2 :=
    Pattern.find?_eq_none_iff.mp (by decide +kernel)
  have first : aba.Leftmost "aba".toList 0 ⟨0, 3⟩ :=
    Pattern.find?_eq_some_iff.mp (by decide +kernel)
  exact ⟨valid, before, ((resolve_forward aba valid).1 _).mpr (Or.inr ⟨by decide, before, first⟩)⟩

end StructuralEdit.Address
