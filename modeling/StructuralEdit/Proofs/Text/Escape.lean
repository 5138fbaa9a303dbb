import StructuralEdit.Escape
/-!
How text between delimiters is split, one character or pair at a time. Every delimiter can be
written inside that a backslash can hide: not the backslash itself, and not the letters that stand
with it for another character.
-/
namespace StructuralEdit

variable {d : Char}

def CanEscape (d : Char) : Prop := d ≠ '\\' ∧ d ≠ 'n' ∧ d ≠ 't'

instance (d : Char) : Decidable (CanEscape d) := inferInstanceAs (Decidable (_ ∧ _ ∧ _))

def restoreChar (d c : Char) : Char :=
  if c ≠ d then c else if d = 'n' then '\n' else if d = 't' then '\t' else c

theorem restoreChar_of_canEscape (hd : CanEscape d) (c : Char) : restoreChar d c = c := by
  simp [restoreChar, hd.2.1, hd.2.2]

theorem restoreChar_of_ne {c : Char} (h : c ≠ d) : restoreChar d c = c := if_pos h

theorem restoreChar_eq_self {c : Char} (n : c ≠ 'n') (t : c ≠ 't') : restoreChar d c = c := by
  by_cases same : c = d
  · subst same
    simp [restoreChar, n, t]
  · exact restoreChar_of_ne same

theorem restoreChar_delimiter_ne (hd : d ≠ '\\') (h : ¬CanEscape d) : restoreChar d d ≠ d := by
  by_cases feed : d = 'n'
  · subst feed
    decide
  · by_cases tab : d = 't'
    · subst tab
      decide
    · exact absurd ⟨hd, feed, tab⟩ h

theorem map_restoreChar_eq_self_iff (hd : d ≠ '\\') {t : Text} :
    t.map (restoreChar d) = t ↔ CanEscape d ∨ d ∉ t := by
  have all : t.map (restoreChar d) = t ↔ ∀ c ∈ t, restoreChar d c = c := by
    rw [← List.map_inj_left, List.map_id']
  rw [all]
  constructor
  · intro same
    by_cases hidden : CanEscape d
    · exact Or.inl hidden
    · exact Or.inr fun inside => restoreChar_delimiter_ne hd hidden (same d inside)
  · rintro (hidden | outside)
    · exact fun c _ => restoreChar_of_canEscape hidden c
    · exact fun c hc => restoreChar_of_ne fun same => outside (same ▸ hc)

theorem unescape_delimiter (d : Char) (t : Text) : unescape d (d :: t) = some ([], t) := by
  unfold unescape
  exact if_pos rfl

theorem unescape_plain {c : Char} (hc : c ≠ d) (plain : c ≠ '\\') (t : Text) :
    unescape d (c :: t) = (unescape d t).map fun (a, rest) => (c :: a, rest) := by
  conv => lhs; unfold unescape
  exact (if_neg hc).trans (if_neg plain)

theorem unescape_backslash (hd : d ≠ '\\') (e : Char) (t : Text) :
    unescape d ('\\' :: e :: t) =
      (unescape d t).map fun (a, rest) => (unescapeChar d e ++ a, rest) := by
  rw [unescape, if_neg hd.symm, if_pos rfl]

end StructuralEdit
