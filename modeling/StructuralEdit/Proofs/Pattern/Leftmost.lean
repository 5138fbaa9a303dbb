import StructuralEdit.Proofs.Pattern.Search
/-!
Leftmost matches. Where a pattern can match from a place on, it has one match there that it
prefers; this depends on the character in front of the place and on all that follows it. A search
gives the first of these matches from a place on, and it gives none only if there is none.
-/
namespace StructuralEdit

namespace Text

variable {u v w x : Text}

theorem append_inj_of_size (h : u ++ v = w ++ x) (size : u.size = w.size) : u = w ∧ v = x := by
  have front := congrArg (takeBytes · w.size) h
  have back := congrArg (dropBytes · w.size) h
  simp only [takeBytes_left, dropBytes_left] at front back
  rw [← size, takeBytes_left] at front
  rw [← size, dropBytes_left] at back
  exact ⟨front, back⟩

theorem le_of_isBoundary {c : Char} {n : Nat} (h : (u ++ c :: v).isBoundary n) (lt : u.size < n) :
    u.size + c.utf8Size ≤ n := by
  obtain ⟨w, x, split, rfl⟩ := isBoundary_iff.mp h
  rcases List.append_eq_append_iff.mp split with ⟨a, rfl, rest⟩ | ⟨a, rfl, -⟩
  · cases a with
    | nil => simp at lt
    | cons d a =>
      obtain ⟨rfl, -⟩ := List.cons.inj rest
      simp only [size_append, size_cons]
      omega
  · rw [size_append] at lt
    omega

end Text

namespace Pattern

variable {p : Pattern} {t u v : Text} {m k : Region} {n l : Nat} {o : Option Region}

/-- The region is the match that the pattern prefers of those that start where it does. -/
def OccursAt (p : Pattern) (t : Text) (m : Region) : Prop :=
  ∃ u v n, t = u ++ v ∧ p.program.matchLength? u.getLast? v = some n ∧ m = ⟨u.size, u.size + n⟩

/-- Of the matches that start at byte `n` or behind it, the region is the one that starts first. -/
structure Leftmost (p : Pattern) (t : Text) (n : Nat) (m : Region) : Prop where
  occurs : p.OccursAt t m
  behind : n ≤ m.start
  first : ∀ k, p.OccursAt t k → n ≤ k.start → m.start ≤ k.start

def Finds (p : Pattern) (t : Text) (n : Nat) : Option Region → Prop
  | some m => p.Leftmost t n m
  | none => ∀ k, p.OccursAt t k → k.start < n

theorem OccursAt.isBoundary (h : p.OccursAt t m) : t.isBoundary m.start := by
  obtain ⟨u, v, n, split, -, rfl⟩ := h
  exact Text.isBoundary_iff.mpr ⟨u, v, split, rfl⟩

theorem occursAt_iff (start : m.start = u.size) :
    p.OccursAt (u ++ v) m ↔
      ∃ n, p.program.matchLength? u.getLast? v = some n ∧ m = ⟨u.size, u.size + n⟩ := by
  constructor
  · rintro ⟨w, x, n, split, found, rfl⟩
    obtain ⟨rfl, rfl⟩ := Text.append_inj_of_size split start.symm
    exact ⟨n, found, rfl⟩
  · rintro ⟨n, found, rfl⟩
    exact ⟨u, v, n, rfl, found, rfl⟩

theorem OccursAt.eq_of_start_eq (hm : p.OccursAt t m) (hk : p.OccursAt t k)
    (same : m.start = k.start) : m = k := by
  obtain ⟨u, v, n, rfl, found, rfl⟩ := hm
  obtain ⟨l, other, rfl⟩ := (occursAt_iff same.symm).mp hk
  obtain rfl := Option.some.inj (found.symm.trans other)
  rfl

theorem Leftmost.unique (hm : p.Leftmost t n m) (hk : p.Leftmost t n k) : m = k :=
  hm.occurs.eq_of_start_eq hk.occurs
    (Nat.le_antisymm (hm.first k hk.occurs hk.behind) (hk.first m hm.occurs hm.behind))

theorem Leftmost.not_forall_lt (h : p.Leftmost t n m) : ¬∀ k, p.OccursAt t k → k.start < n :=
  fun before => Nat.not_lt_of_le h.behind (before m h.occurs)

theorem Finds.unique {q : Option Region} (ho : p.Finds t n o) (hq : p.Finds t n q) : o = q := by
  cases o with
  | some m =>
    cases q with
    | some k => exact congrArg some (Leftmost.unique ho hq)
    | none => exact absurd hq ho.not_forall_lt
  | none =>
    cases q with
    | some k => exact absurd ho hq.not_forall_lt
    | none => rfl

theorem Finds.of_start_iff (h : p.Finds t l o)
    (same : ∀ k, p.OccursAt t k → (l ≤ k.start ↔ n ≤ k.start)) : p.Finds t n o := by
  cases o with
  | some m =>
    refine ⟨h.occurs, (same m h.occurs).mp h.behind, fun k hk behind => ?_⟩
    exact h.first k hk ((same k hk).mpr behind)
  | none =>
    intro k hk
    have before := h k hk
    have := same k hk
    omega

theorem leftmost_of_matchLength? (found : p.program.matchLength? u.getLast? v = some n) :
    p.Leftmost (u ++ v) u.size ⟨u.size, u.size + n⟩ :=
  ⟨⟨u, v, n, rfl, found, rfl⟩, Nat.le_refl _, fun _ _ behind => behind⟩

theorem start_ne_of_matchLength? (none : p.program.matchLength? u.getLast? v = none)
    (hk : p.OccursAt (u ++ v) k) : k.start ≠ u.size := by
  intro start
  obtain ⟨n, some, -⟩ := (occursAt_iff start).mp hk
  rw [none] at some
  cases some

theorem finds_findFrom (p : Pattern) (u v : Text) :
    p.Finds (u ++ v) u.size (p.findFrom u.getLast? u.size v) := by
  -- The induction is on the part of the text that is still to be searched.
  induction v generalizing u with
  | nil =>
    rw [findFrom]
    cases found : p.program.matchLength? u.getLast? [] with
    | some n => exact leftmost_of_matchLength? found
    | none =>
      intro k hk
      have other := start_ne_of_matchLength? found hk
      have inside := Text.isBoundary_le hk.isBoundary
      rw [List.append_nil] at inside
      omega
  | cons c v ih =>
    rw [findFrom]
    cases found : p.program.matchLength? u.getLast? (c :: v) with
    | some n => exact leftmost_of_matchLength? found
    | none =>
      have later := ih (u ++ [c])
      simp only [List.append_assoc, List.singleton_append, List.getLast?_concat, Text.size_append,
        Text.size_cons, Text.size_nil, Nat.add_zero] at later
      refine later.of_start_iff fun k hk => ?_
      have other := start_ne_of_matchLength? found hk
      have next := Text.le_of_isBoundary (n := k.start) hk.isBoundary
      omega

theorem finds_seek_of_le (reached : n ≤ u.size)
    (skipped : ∀ k, (u ++ v).isBoundary k → n ≤ k → u.size ≤ k) :
    p.Finds (u ++ v) n (p.seek n u.getLast? u.size v) := by
  rw [seek_of_le reached]
  refine (finds_findFrom p u v).of_start_iff fun k hk => ?_
  have := skipped k.start hk.isBoundary
  omega

theorem finds_seek (p : Pattern) (n : Nat) (u v : Text)
    (skipped : ∀ k, (u ++ v).isBoundary k → n ≤ k → u.size ≤ k) :
    p.Finds (u ++ v) n (p.seek n u.getLast? u.size v) := by
  induction v generalizing u with
  | nil =>
    by_cases reached : n ≤ u.size
    · exact finds_seek_of_le reached skipped
    · rw [seek, if_neg reached]
      intro k hk
      have inside := Text.isBoundary_le hk.isBoundary
      rw [List.append_nil] at inside
      omega
  | cons c v ih =>
    by_cases reached : n ≤ u.size
    · exact finds_seek_of_le reached skipped
    · have split : u ++ c :: v = u ++ [c] ++ v := by simp
      have moved : ∀ k, (u ++ [c] ++ v).isBoundary k → n ≤ k → (u ++ [c]).size ≤ k := by
        intro k boundary behind
        rw [← split] at boundary
        have next := Text.le_of_isBoundary boundary (by omega)
        simpa using next
      have later := ih (u ++ [c]) moved
      rw [List.getLast?_concat, Text.size_append, Text.size_cons, Text.size_nil, Nat.add_zero,
        ← split] at later
      rwa [seek_cons_of_lt (Nat.lt_of_not_le reached)]

/-- A search gives what there is to find from its place on. -/
theorem find?_eq_iff : p.find? t n = o ↔ p.Finds t n o := by
  have finds : p.Finds t n (p.find? t n) := finds_seek p n [] t fun _ _ _ => Nat.zero_le _
  constructor
  · rintro rfl
    exact finds
  · exact finds.unique

theorem find?_eq_some_iff : p.find? t n = some m ↔ p.Leftmost t n m := find?_eq_iff

theorem find?_eq_none_iff : p.find? t n = none ↔ ∀ m, p.OccursAt t m → m.start < n := find?_eq_iff

end Pattern

end StructuralEdit
