import StructuralEdit.Proofs.Pattern.Matches
/-!
Searches from different places. A search that starts further on, but not behind the match, finds the
same match. Inside a character, a search goes on to the end of the character.
-/
namespace StructuralEdit.Pattern

variable {p : Pattern} {t u v rest : Text} {m : Region} {n k here : Nat} {prev : Option Char}
  {c : Char}

theorem seek_of_le (h : n ≤ here) : p.seek n prev here rest = p.findFrom prev here rest := by
  cases rest with
  | nil => rw [seek, if_pos h]
  | cons c rest => rw [seek, if_pos h]

theorem seek_cons_of_lt (h : here < n) :
    p.seek n prev here (c :: rest) = p.seek n (some c) (here + c.utf8Size) rest := by
  rw [seek, if_neg (by omega)]

theorem findFrom_cons_cases (p : Pattern) (prev : Option Char) (here : Nat) (c : Char)
    (rest : Text) :
    (∃ n, p.findFrom prev here (c :: rest) = some ⟨here, here + n⟩) ∨
      p.findFrom prev here (c :: rest) = p.findFrom (some c) (here + c.utf8Size) rest := by
  rw [findFrom]
  split
  · next n _ => exact Or.inl ⟨n, rfl⟩
  · exact Or.inr rfl

theorem seek_of_size_lt (h : here + Text.size rest < n) : p.seek n prev here rest = none := by
  induction rest generalizing prev here with
  | nil =>
    rw [Text.size_nil] at h
    rw [seek, if_neg (by omega)]
  | cons c rest ih =>
    rw [Text.size_cons] at h
    rw [seek_cons_of_lt (by omega), ih (by omega)]

theorem find?_of_size_lt (h : t.size < n) : p.find? t n = none :=
  seek_of_size_lt (by omega)

theorem seek_inside (lower : here + Text.size u < n) (upper : n ≤ here + Text.size u + c.utf8Size) :
    p.seek n prev here (u ++ c :: v) =
      p.findFrom (some c) (here + Text.size u + c.utf8Size) v := by
  induction u generalizing prev here with
  | nil =>
    rw [Text.size_nil, Nat.add_zero] at lower upper
    rw [List.nil_append, seek_cons_of_lt lower, seek_of_le upper, Text.size_nil, Nat.add_zero]
  | cons d u ih =>
    have split : here + Text.size (d :: u) = here + d.utf8Size + Text.size u := by
      rw [Text.size_cons, Nat.add_assoc]
    rw [split] at lower upper ⊢
    rw [List.cons_append, seek_cons_of_lt (by omega)]
    exact ih lower upper

theorem find?_succ_of_afterChar? (boundary : t.isBoundary n) (next : afterChar? t n = some k) :
    p.find? t (n + 1) = p.find? t k := by
  obtain ⟨u, v, rfl, rfl⟩ := Text.isBoundary_iff.mp boundary
  rw [afterChar?, Text.dropBytes_left] at next
  cases v with
  | nil => cases next
  | cons c v =>
    have pos := c.utf8Size_pos
    obtain rfl : u.size + c.utf8Size = k := Option.some.inj next
    have near : p.find? (u ++ c :: v) (u.size + 1) =
        p.findFrom (some c) (0 + u.size + c.utf8Size) v := seek_inside (by omega) (by omega)
    have far : p.find? (u ++ c :: v) (u.size + c.utf8Size) =
        p.findFrom (some c) (0 + u.size + c.utf8Size) v := seek_inside (by omega) (by omega)
    rw [near, far]

theorem eq_size_of_afterChar? (boundary : t.isBoundary n) (last : afterChar? t n = none) :
    n = t.size := by
  obtain ⟨u, v, rfl, rfl⟩ := Text.isBoundary_iff.mp boundary
  rw [afterChar?, Text.dropBytes_left] at last
  cases v with
  | nil => rw [List.append_nil]
  | cons c v => cases last

theorem lt_of_afterChar? (next : afterChar? t n = some k) : n < k := by
  obtain ⟨c, _, rfl⟩ := Option.map_eq_some_iff.mp next
  have := c.utf8Size_pos
  omega

theorem isBoundary_of_afterChar? (boundary : t.isBoundary n) (next : afterChar? t n = some k) :
    t.isBoundary k := by
  obtain ⟨u, v, rfl, rfl⟩ := Text.isBoundary_iff.mp boundary
  rw [afterChar?, Text.dropBytes_left] at next
  cases v with
  | nil => cases next
  | cons c v =>
    obtain rfl : u.size + c.utf8Size = k := Option.some.inj next
    exact Text.isBoundary_iff.mpr ⟨u ++ [c], v, by simp, by simp⟩

/-- What a search finds from a place on, it also finds from a later one on that is not behind the
start of the match. -/
theorem seek_later (found : p.seek n prev here (u ++ v) = some m) (later : n ≤ here + Text.size u)
    (before : here + Text.size u ≤ m.start) :
    p.seek (here + Text.size u) prev here (u ++ v) = some m := by
  induction u generalizing n prev here with
  | nil =>
    rw [Text.size_nil, Nat.add_zero] at later ⊢
    rw [seek_of_le later] at found
    rw [seek_of_le (Nat.le_refl here), found]
  | cons c u ih =>
    have pos := c.utf8Size_pos
    have split : here + Text.size (c :: u) = here + c.utf8Size + Text.size u := by
      rw [Text.size_cons, Nat.add_assoc]
    rw [split] at later before ⊢
    rw [List.cons_append, seek_cons_of_lt (by omega)]
    by_cases reached : n ≤ here
    · rw [List.cons_append, seek_of_le reached] at found
      rcases findFrom_cons_cases p prev here c (u ++ v) with ⟨size, first⟩ | skipped
      · -- A match of the first character would start before the later place.
        rw [first] at found
        obtain rfl : _ = m := Option.some.inj found
        dsimp only at before
        omega
      · rw [skipped, ← seek_of_le (Nat.le_refl _)] at found
        exact ih found (by omega) before
    · rw [List.cons_append, seek_cons_of_lt (by omega)] at found
      exact ih found (by omega) before

theorem find?_later (found : p.find? t n = some m) (later : n ≤ k) (before : k ≤ m.start)
    (boundary : t.isBoundary k) : p.find? t k = some m := by
  obtain ⟨u, v, rfl, rfl⟩ := Text.isBoundary_iff.mp boundary
  have start : u.size = 0 + u.size := (Nat.zero_add _).symm
  rw [start] at later before ⊢
  exact seek_later found later before

theorem find?_start (found : p.find? t n = some m) : p.find? t m.start = some m := by
  obtain ⟨valid, behind⟩ := find?_eq_some found
  exact find?_later found behind (Nat.le_refl _) valid.2.1

end StructuralEdit.Pattern
