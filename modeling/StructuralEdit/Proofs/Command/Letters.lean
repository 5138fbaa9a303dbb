import StructuralEdit.Proofs.Command.Addresses
/-!
The letters of commands: no address starts with one, and what is read behind each.
-/
namespace StructuralEdit.Command

open Address (EndsAddress)

variable {c : Command} {i : Input} {l : Char} {t u rest : Text} {excess : Malformed → Prop}
  {member : Reader Command}

def letters : List Char := "pdcai|xygv\x7b".toList

theorem endsAddress_of_letter {l : Char} (h : l ∈ letters) : EndsAddress l := by
  have all : letters.all (fun l => !startsAddress l && !l.isBlank) = true := by decide
  have found := List.all_eq_true.mp all l h
  rw [Bool.and_eq_true, Bool.not_eq_true', Bool.not_eq_true'] at found
  exact ⟨found.1, found.2⟩

theorem ne_close_of_letter {l : Char} (h : l ∈ letters) : l ≠ '}' := by
  rintro rfl
  exact absurd h (by decide)

/-- A character is a letter of one of five kinds, or none. -/
theorem letter_cases (l : Char) :
    (∃ c, Letter l c) ∨ (∃ put, TextLetter l put) ∨ (∃ wrap, PatternLetter l wrap) ∨ l = '|' ∨
      l = '{' ∨ l ∉ letters := by
  by_cases h : l ∈ letters
  · have all : letters = ['p', 'd', 'c', 'a', 'i', '|', 'x', 'y', 'g', 'v', '{'] := by decide
    rw [all] at h
    simp only [List.mem_cons, List.not_mem_nil, or_false] at h
    rcases h with rfl | rfl | rfl | rfl | rfl | rfl | rfl | rfl | rfl | rfl | rfl
    · exact Or.inl ⟨_, .print⟩
    · exact Or.inl ⟨_, .delete⟩
    · exact Or.inr (Or.inl ⟨_, .change⟩)
    · exact Or.inr (Or.inl ⟨_, .append⟩)
    · exact Or.inr (Or.inl ⟨_, .insert⟩)
    · exact Or.inr (Or.inr (Or.inr (Or.inl rfl)))
    · exact Or.inr (Or.inr (Or.inl ⟨_, .matching⟩))
    · exact Or.inr (Or.inr (Or.inl ⟨_, .between⟩))
    · exact Or.inr (Or.inr (Or.inl ⟨_, .present⟩))
    · exact Or.inr (Or.inr (Or.inl ⟨_, .absent⟩))
    · exact Or.inr (Or.inr (Or.inr (Or.inr (Or.inl rfl))))
  · exact Or.inr (Or.inr (Or.inr (Or.inr (Or.inr h))))

theorem readSimple_unknown (h : l ∉ letters) (hi : i.rest = l :: t) :
    readSimple member i = i.fail (.commandUnknown l) := by
  simp only [readSimple, hi]
  split
  case h_12 => rfl
  all_goals exact absurd (by decide) h

theorem Letter.readSimple_eq (h : Letter l c) (hi : i.rest = l :: t) :
    readSimple member i = .ok (c, i.after [l] t) := by
  cases h with
  | print => simp only [readSimple, hi]
  | delete => simp only [readSimple, hi]

theorem Letter.reads (h : Letter l c) (hi : i.rest = l :: rest) :
    Reads c rest (readSimple member i) := by
  rw [h.readSimple_eq hi]
  exact .ok rfl

theorem TextLetter.readSimple_eq {put : Text → Command} (h : TextLetter l put)
    (hi : i.rest = l :: t) :
    readSimple member i = (do
      let (u, k) ← readText l (i.after [l] t)
      return (put u, k)) := by
  cases h <;> simp only [readSimple, hi]

theorem TextLetter.reads {put : Text → Command} (h : TextLetter l put) (argument : Argument u t)
    (hi : i.rest = l :: (u ++ rest)) : Reads (put t) rest (readSimple member i) := by
  rw [h.readSimple_eq hi]
  exact (argument.reads_text l rfl).map fun _ => rfl

theorem PatternLetter.readSimple_eq {wrap : Pattern → Command → Command}
    (h : PatternLetter l wrap) (hi : i.rest = l :: t) :
    readSimple member i = (do
      let (p, k) ← readPattern l (i.after [l] t)
      let (sub, k) ← readSub member k
      return (wrap p sub, k)) := by
  cases h <;> simp only [readSimple, hi]

theorem PatternLetter.reading {wrap : Pattern → Command → Command} {p : Pattern}
    {source v : Text} (h : PatternLetter l wrap) (argument : Argument u source)
    (compiled : Pattern.ofSource source = .ok p)
    (inner : ∀ k, k.rest.trimStart = (v ++ rest).trimStart →
      Reading c rest excess (readSub member k))
    (hi : i.rest = l :: (u ++ (v ++ rest))) :
    Reading (wrap p c) rest excess (readSimple member i) := by
  rw [h.readSimple_eq hi]
  refine (argument.reads_pattern compiled l rfl).bind fun k left => ?_
  exact (inner k left).map fun _ => rfl

theorem patternLetter_extract (inverse : Bool) :
    PatternLetter (if inverse then 'y' else 'x') (.extract inverse) := by
  cases inverse with
  | false => exact .matching
  | true => exact .between

theorem patternLetter_guard (inverse : Bool) :
    PatternLetter (if inverse then 'v' else 'g') (.guard inverse) := by
  cases inverse with
  | false => exact .present
  | true => exact .absent

end StructuralEdit.Command
