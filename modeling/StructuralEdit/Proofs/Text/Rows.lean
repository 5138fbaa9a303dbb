import StructuralEdit.Text.Lines
/-!
The rows of a text, and how many there are. Each line feed ends a row, and a carriage return before
it belongs to the end; what follows the last line feed is one more row if there is something.
-/
namespace StructuralEdit.Text

variable {c : Char} {u : Text}

theorem exists_row (c : Char) (l : Text) : ∃ row, row? (c :: l) = some row := by
  rw [row?]
  split
  · next empty => exact absurd (List.reverse_eq_nil_iff.mp empty) (List.cons_ne_nil c l)
  · exact ⟨_, rfl⟩
  · exact ⟨_, rfl⟩
  · exact ⟨_, rfl⟩

theorem exists_lines_cons (c : Char) (t : Text) : ∃ l ls, lines (c :: t) = (c :: l) :: ls := by
  rw [lines]
  split
  · exact ⟨[], _, rfl⟩
  · split
    · exact ⟨[], [], rfl⟩
    · exact ⟨_, _, rfl⟩

theorem rows_newline_cons (t : Text) : rows ('\n' :: t) = [] :: rows t := by
  rw [rows, lines, if_pos rfl]
  exact List.filterMap_cons_some rfl

theorem lines_append_newline (free : '\n' ∉ u) (t : Text) :
    lines (u ++ '\n' :: t) = (u ++ ['\n']) :: lines t := by
  induction u with
  | nil => rfl
  | cons c u ih =>
    rw [List.mem_cons, not_or] at free
    obtain ⟨first, later⟩ := free
    rw [List.cons_append, lines, if_neg (Ne.symm first), ih later]
    rfl

theorem row?_append_newline (u : Text) :
    row? (u ++ ['\n']) = some (if u.getLast? = some '\r' then u.dropLast else u) := by
  rcases List.eq_nil_or_concat u with rfl | ⟨v, c, rfl⟩
  · rfl
  · by_cases carriage : c = '\r'
    · simp [row?, carriage]
    · simp [row?, carriage]

/-- The first row is what stands before the first line feed, but for a carriage return there. -/
theorem rows_append_newline (free : '\n' ∉ u) (t : Text) :
    rows (u ++ '\n' :: t) = (if u.getLast? = some '\r' then u.dropLast else u) :: rows t := by
  rw [rows, lines_append_newline free]
  exact List.filterMap_cons_some (row?_append_newline u)

theorem rows_eq_nil_iff {t : Text} : rows t = [] ↔ t = [] := by
  cases t with
  | nil => exact ⟨fun _ => rfl, fun _ => rfl⟩
  | cons c t =>
    obtain ⟨l, ls, split⟩ := exists_lines_cons c t
    obtain ⟨row, some⟩ := exists_row c l
    rw [rows, split, List.filterMap_cons_some some]
    exact ⟨nofun, nofun⟩

theorem length_rows_cons_cons (h : c ≠ '\n') (d : Char) (t : Text) :
    (rows (c :: d :: t)).length = (rows (d :: t)).length := by
  obtain ⟨l, ls, split⟩ := exists_lines_cons d t
  obtain ⟨longer, hlonger⟩ := exists_row c (d :: l)
  obtain ⟨row, hrow⟩ := exists_row d l
  rw [rows, rows, lines, if_neg h, split]
  simp only [List.filterMap_cons, hlonger, hrow, List.length_cons]

theorem length_rows (t : Text) :
    (rows t).length = t.count '\n' + if t = [] ∨ t.getLast? = some '\n' then 0 else 1 := by
  induction t with
  | nil => rfl
  | cons c t ih =>
    by_cases newline : c = '\n'
    · subst newline
      rw [rows_newline_cons, List.length_cons, ih, List.count_cons_self]
      cases t with
      | nil => rfl
      | cons d t => simp [List.getLast?_cons_cons, Nat.add_right_comm]
    · rw [List.count_cons_of_ne newline]
      cases t with
      | nil =>
        obtain ⟨row, single⟩ := exists_row c []
        simp [rows, lines, newline, single]
      | cons d t =>
        rw [length_rows_cons_cons newline, ih]
        simp [List.getLast?_cons_cons]

end StructuralEdit.Text
