import StructuralEdit.Address
import StructuralEdit.Proofs.Pattern.Scan
/-!
When a backward search fails. It looks for matches that stop before the current region starts, and
then for those that start where it starts or behind that. A match around that place is neither,
and as matches do not overlap, the search also fails if it is the only one.
-/
namespace StructuralEdit

open Region (Sequence)

variable {t : Text} {p : Pattern} {r : Region} {n : Nat}

/-- The place lies inside a region, and not at its ends. -/
def Region.Surrounds (m : Region) (n : Nat) : Prop := m.start < n ∧ n < m.stop

theorem Region.Sequence.surrounds_all {ms : List Region} {a b : Nat} (h : Sequence a ms b)
    (around : ∀ m ∈ ms, m.Surrounds n) : ms = [] ∨ ∃ m, ms = [m] ∧ m.Surrounds n := by
  match ms, h with
  | [], _ => exact Or.inl rfl
  | [m], _ => exact Or.inr ⟨m, rfl, around m (by simp)⟩
  | m :: k :: ms, h =>
    have first : n < m.stop := (around m (by simp)).2
    have second : k.start < n := (around k (by simp)).1
    have apart : m.stop ≤ k.start := h.2.2.1
    omega

namespace Address

theorem searchBackward_eq_none_iff_forall :
    searchBackward t p n = none ↔ ∀ m ∈ p.scan t, m.Surrounds n := by
  have before : ((p.scan t).filter fun m => m.stop ≤ n).getLast? = none ↔
      ∀ m ∈ p.scan t, n < m.stop := by
    simp
  have behind : ((p.scan t).filter fun m => n ≤ m.start).getLast? = none ↔
      ∀ m ∈ p.scan t, m.start < n := by
    simp
  rw [searchBackward, Option.or_eq_none_iff, before, behind]
  constructor
  · rintro ⟨stops, starts⟩ m hm
    exact ⟨starts m hm, stops m hm⟩
  · intro around
    exact ⟨fun m hm => (around m hm).2, fun m hm => (around m hm).1⟩

theorem searchBackward_eq_none_iff :
    searchBackward t p n = none ↔
      p.find? t 0 = none ∨ ∃ m, p.scan t = [m] ∧ m.Surrounds n := by
  rw [searchBackward_eq_none_iff_forall, ← Pattern.scan_eq_nil_iff]
  constructor
  · exact Pattern.scan_sequence.surrounds_all
  · rintro (none | ⟨k, only, around⟩) m hm
    · simp [none] at hm
    · rw [only, List.mem_singleton] at hm
      rwa [hm]

/-- A backward search from a valid region fails exactly if the pattern occurs nowhere or the place
where the region starts lies inside the only match, and it says that the pattern is not found. -/
theorem resolve_backward_eq_error_iff (hr : t.Valid r) (f : Failure) :
    (search .backward p).resolve t r = .error f ↔
      f = .notFound p.source ∧
        (p.find? t 0 = none ∨ ∃ m, p.scan t = [m] ∧ m.start < r.start ∧ r.start < m.stop) := by
  have place : t.clamp r.start = r.start := by simpa [Text.isBoundary] using hr.2.1
  have failed := searchBackward_eq_none_iff (t := t) (p := p) (n := r.start)
  rw [resolve, place]
  cases found : searchBackward t p r.start with
  | none =>
    have reason := failed.mp found
    constructor
    · intro h
      exact ⟨(Except.error.inj h).symm, reason⟩
    · rintro ⟨rfl, -⟩
      rfl
  | some m =>
    constructor
    · intro h
      cases h
    · rintro ⟨-, reason⟩
      have none := failed.mpr reason
      rw [found] at none
      cases none

def aba : Pattern :=
  ⟨"aba".toList,
    ⟨#[.accept, .read ⟨[(97, 97)]⟩ 0, .read ⟨[(98, 98)]⟩ 1, .read ⟨[(97, 97)]⟩ 2], 3⟩, rfl⟩

/-- A scan does not find the occurrence behind the place, as the one around it comes first. -/
theorem resolve_backward_ababa :
    Text.Valid "ababa".toList (.point 1) ∧
      (search .backward aba).resolve "ababa".toList (.point 1) = .error (.notFound "aba".toList) ∧
      aba.find? "ababa".toList 1 = some ⟨2, 5⟩ := by
  have valid : Text.Valid "ababa".toList (.point 1) := by decide
  have only : aba.scan "ababa".toList = [⟨0, 3⟩] := by decide +kernel
  have inside : 0 < 1 ∧ 1 < 3 := by decide
  refine ⟨valid, ?_, by decide +kernel⟩
  exact (resolve_backward_eq_error_iff valid _).mpr ⟨rfl, Or.inr ⟨⟨0, 3⟩, only, inside⟩⟩

/-- A backward search from inside the only match fails, although the pattern occurs. -/
theorem exists_search_backward_fails :
    ¬∀ (p : Pattern) (t : Text) (r : Region), t.Valid r →
      ((search .backward p).resolve t r = .error (.notFound p.source) ↔ p.find? t 0 = none) := by
  intro all
  have missed : searchBackward "aba".toList aba (Text.clamp "aba".toList 1) = none := by
    decide +kernel
  have failed : (search .backward aba).resolve "aba".toList (.point 1) =
      .error (.notFound "aba".toList) := by
    simp only [resolve, Region.point, missed]
    rfl
  have occurs : aba.find? "aba".toList 0 = some ⟨0, 3⟩ := by decide +kernel
  have none := (all aba "aba".toList (.point 1) (by decide)).mp failed
  rw [occurs] at none
  cases none

end Address

end StructuralEdit
