import StructuralEdit.Text.Blank
/-!
Text without the blanks in front of it, and without those around it.
-/
namespace StructuralEdit.Text

variable {t : Text} {c : Char}

@[simp] theorem trimStart_blank (h : c.isBlank = true) (t : Text) :
    trimStart (c :: t) = trimStart t := List.dropWhile_cons_of_pos h

@[simp] theorem trimStart_solid (h : c.isBlank = false) (t : Text) :
    trimStart (c :: t) = c :: t := List.dropWhile_cons_of_neg (by simp [h])

theorem trimStart_head : ∀ c ∈ (trimStart t).head?, c.isBlank = false := by
  intro c hc
  have first := List.head?_dropWhile_not Char.isBlank t
  rw [trimStart, Option.mem_def] at hc
  rwa [hc] at first

theorem trimStart_eq_self (h : ∀ c ∈ t.head?, c.isBlank = false) : trimStart t = t := by
  cases t with
  | nil => rfl
  | cons c t => exact trimStart_solid (h c rfl) t

@[simp] theorem trimStart_trimStart (t : Text) : trimStart (trimStart t) = trimStart t :=
  trimStart_eq_self trimStart_head

theorem trimStart_append_of_ne_nil {s : Text} (h : trimStart s ≠ []) (t : Text) :
    trimStart (s ++ t) = trimStart s ++ t := by
  rw [trimStart, List.dropWhile_append]
  exact if_neg fun empty => h (List.isEmpty_iff.1 empty)

structure Trimmed (t : Text) : Prop where
  start : ∀ c ∈ t.head?, c.isBlank = false
  stop : ∀ c ∈ t.getLast?, c.isBlank = false

theorem trimEnd_eq (t : Text) : trimEnd t = (trimStart t.reverse).reverse := rfl

theorem trim_eq_self (h : Trimmed t) : trim t = t := by
  have stop : trimStart t.reverse = t.reverse :=
    trimStart_eq_self fun c hc => h.stop c (by rwa [List.head?_reverse] at hc)
  rw [trim, trimStart_eq_self h.start, trimEnd_eq, stop, List.reverse_reverse]

theorem trimEnd_isPrefix (t : Text) : trimEnd t <+: t := by
  have suffix := List.dropWhile_suffix Char.isBlank (l := t.reverse)
  rwa [← List.reverse_prefix, List.reverse_reverse] at suffix

theorem mem_of_mem_trim (h : c ∈ trim t) : c ∈ t :=
  (List.dropWhile_suffix _).subset ((trimEnd_isPrefix _).subset h)

theorem trimEnd_last : ∀ c ∈ (trimEnd t).getLast?, c.isBlank = false := by
  intro c hc
  rw [trimEnd_eq, List.getLast?_reverse] at hc
  exact trimStart_head c hc

theorem trimmed_trim (t : Text) : Trimmed (trim t) := by
  constructor
  · intro c hc
    obtain ⟨rest, split⟩ := trimEnd_isPrefix (trimStart t)
    refine trimStart_head (t := t) c ?_
    rw [← split, List.head?_append]
    exact Option.or_eq_some_iff.mpr (Or.inl hc)
  · exact trimEnd_last

end StructuralEdit.Text
