import StructuralEdit.Text.Region
/-!
Places in a text and the parts between them. A boundary is where a text falls into two texts, and
a valid region is the middle one of three; slices of adjacent regions add up to the slice of both.
-/
namespace StructuralEdit.Text

variable (t u v : Text)

@[simp] theorem takeBytes_zero : takeBytes t 0 = [] := by
  cases t with
  | nil => rfl
  | cons c t =>
    have := c.utf8Size_pos
    simp [takeBytes, show ¬ c.utf8Size ≤ 0 by omega]

@[simp] theorem dropBytes_zero : dropBytes t 0 = t := by
  cases t with
  | nil => rfl
  | cons c t =>
    have := c.utf8Size_pos
    simp [dropBytes, show ¬ c.utf8Size ≤ 0 by omega]

@[simp] theorem takeBytes_append_size (n : Nat) :
    takeBytes (u ++ v) (size u + n) = u ++ takeBytes v n := by
  induction u with
  | nil => simp
  | cons c u ih =>
    simp only [List.cons_append, takeBytes, size_cons]
    rw [if_pos (by omega), show c.utf8Size + size u + n - c.utf8Size = size u + n by omega, ih]

@[simp] theorem dropBytes_append_size (n : Nat) :
    dropBytes (u ++ v) (size u + n) = dropBytes v n := by
  induction u with
  | nil => simp
  | cons c u ih =>
    simp only [List.cons_append, dropBytes, size_cons]
    rw [if_pos (by omega), show c.utf8Size + size u + n - c.utf8Size = size u + n by omega, ih]

@[simp] theorem takeBytes_left : takeBytes (u ++ v) (size u) = u := by
  simpa using takeBytes_append_size u v 0

@[simp] theorem dropBytes_left : dropBytes (u ++ v) (size u) = v := by
  simpa using dropBytes_append_size u v 0

theorem takeBytes_size : takeBytes t (size t) = t := by
  simpa using takeBytes_left t []

theorem takeBytes_eq_self {n : Nat} (h : size t ≤ n) : takeBytes t n = t := by
  obtain ⟨more, rfl⟩ := Nat.exists_eq_add_of_le h
  simpa only [List.append_nil, takeBytes] using takeBytes_append_size t [] more

theorem dropBytes_size : dropBytes t (size t) = [] := by
  simpa using dropBytes_left t []

theorem takeBytes_takeBytes {m n : Nat} (h : m ≤ n) :
    takeBytes (takeBytes t n) m = takeBytes t m := by
  induction t generalizing m n with
  | nil => rfl
  | cons c t ih =>
    by_cases hm : c.utf8Size ≤ m
    · rw [takeBytes, if_pos (by omega), takeBytes, if_pos hm, takeBytes, if_pos hm]
      rw [ih (by omega)]
    · by_cases hn : c.utf8Size ≤ n
      · simp [takeBytes, hm, hn]
      · simp [takeBytes, hm, hn]

theorem slice_append_dropBytes {m n : Nat} (h : m ≤ n) :
    slice t ⟨m, n⟩ ++ dropBytes t n = dropBytes t m := by
  unfold slice
  induction t generalizing m n with
  | nil => rfl
  | cons c t ih =>
    by_cases hm : c.utf8Size ≤ m
    · simp only [takeBytes, dropBytes, hm, show c.utf8Size ≤ n by omega, if_true]
      exact ih (by omega)
    · by_cases hn : c.utf8Size ≤ n
      · simp [takeBytes, dropBytes, hm, hn]
      · simp [takeBytes, dropBytes, hm, hn]

theorem slice_zero (n : Nat) : slice t ⟨0, n⟩ = takeBytes t n := by
  simp [slice]

theorem slice_append_slice {a b c : Nat} (h : a ≤ b) (k : b ≤ c) :
    slice t ⟨a, b⟩ ++ slice t ⟨b, c⟩ = slice t ⟨a, c⟩ := by
  have := slice_append_dropBytes (takeBytes t c) h
  simpa only [slice, takeBytes_takeBytes t k] using this

theorem takeBytes_append_slice {a b : Nat} (h : a ≤ b) :
    takeBytes t a ++ slice t ⟨a, b⟩ = takeBytes t b := by
  simpa only [slice_zero] using slice_append_slice t (Nat.zero_le a) h

theorem slice_size (n : Nat) : slice t ⟨n, size t⟩ = dropBytes t n := by
  simp [slice, takeBytes_size]

theorem slice_point (n : Nat) : slice t ⟨n, n⟩ = [] := by
  have := takeBytes_append_slice t (Nat.le_refl n)
  simpa using this

variable {t u v}

theorem size_takeBytes_iff {n : Nat} : t.isBoundary n ↔ size (takeBytes t n) = n :=
  decide_eq_true_iff

theorem size_takeBytes {n : Nat} (h : t.isBoundary n) : size (takeBytes t n) = n :=
  size_takeBytes_iff.mp h

/-- A boundary is where a text falls into two. -/
theorem isBoundary_iff {n : Nat} : t.isBoundary n ↔ ∃ u v, t = u ++ v ∧ n = size u := by
  constructor
  · intro h
    exact ⟨takeBytes t n, dropBytes t n, by simp, (size_takeBytes h).symm⟩
  · rintro ⟨u, v, rfl, rfl⟩
    simp [size_takeBytes_iff]

theorem isBoundary_zero (t : Text) : t.isBoundary 0 := by simp [size_takeBytes_iff]

theorem isBoundary_size (t : Text) : t.isBoundary (size t) := by
  simp [size_takeBytes_iff, takeBytes_size]

theorem isBoundary_le {n : Nat} (h : t.isBoundary n) : n ≤ size t := by
  obtain ⟨u, v, rfl, rfl⟩ := isBoundary_iff.mp h
  simp

theorem valid_iff {r : Region} :
    t.Valid r ↔ ∃ u w v, t = u ++ (w ++ v) ∧ r = ⟨size u, size u + size w⟩ := by
  constructor
  · rintro ⟨h, hstart, hstop⟩
    refine ⟨takeBytes t r.start, slice t r, dropBytes t r.stop, ?_, ?_⟩
    · rw [slice_append_dropBytes t h, takeBytes_append_dropBytes]
    · rw [← size_append, takeBytes_append_slice t h, size_takeBytes hstart, size_takeBytes hstop]
  · rintro ⟨u, w, v, rfl, rfl⟩
    refine ⟨by simp, isBoundary_iff.mpr ⟨u, w ++ v, rfl, rfl⟩, ?_⟩
    exact isBoundary_iff.mpr ⟨u ++ w, v, by simp, by simp⟩

theorem slice_middle (u w v : Text) : slice (u ++ (w ++ v)) ⟨size u, size u + size w⟩ = w := by
  simp [slice]

theorem size_slice {r : Region} (h : t.Valid r) : r.start + size (t.slice r) = r.stop := by
  obtain ⟨u, w, v, rfl, rfl⟩ := valid_iff.mp h
  rw [slice_middle]

theorem valid_whole (t : Text) : t.Valid t.whole :=
  ⟨Nat.zero_le _, isBoundary_zero t, isBoundary_size t⟩

theorem slice_whole (t : Text) : t.slice t.whole = t := by
  simp [whole, slice, takeBytes_size]

theorem valid_shift {r m : Region} (h : t.Valid r) (k : (t.slice r).Valid m) :
    t.Valid (m.shift r.start) := by
  obtain ⟨u, w, v, rfl, rfl⟩ := valid_iff.mp h
  rw [slice_middle] at k
  obtain ⟨a, b, c, rfl, rfl⟩ := valid_iff.mp k
  refine valid_iff.mpr ⟨u ++ a, b, c ++ v, by simp, ?_⟩
  simp only [Region.shift, size_append, Region.mk.injEq]
  omega

theorem slice_slice {r m : Region} (h : t.Valid r) (k : (t.slice r).Valid m) :
    (t.slice r).slice m = t.slice (m.shift r.start) := by
  obtain ⟨u, w, v, rfl, rfl⟩ := valid_iff.mp h
  rw [slice_middle] at k ⊢
  obtain ⟨a, b, c, rfl, rfl⟩ := valid_iff.mp k
  have whole : u ++ (a ++ (b ++ c) ++ v) = (u ++ a) ++ (b ++ (c ++ v)) := by simp
  have place : Region.shift ⟨size a, size a + size b⟩ (size u) =
      ⟨size (u ++ a), size (u ++ a) + size b⟩ := by
    simp only [Region.shift, size_append, Region.mk.injEq]
    omega
  rw [slice_middle, place, whole, slice_middle]

end StructuralEdit.Text
