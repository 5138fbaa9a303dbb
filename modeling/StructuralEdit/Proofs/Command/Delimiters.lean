import StructuralEdit.Proofs.Grammar.Lexical
/-!
Texts between delimiters, as they are read from the place where they stand. What is read of a text
that was written with backslashes is this text, unless the delimiter is one of the two letters that
stand with a backslash for another character: then it is read as that character wherever it occurs.
-/
namespace StructuralEdit

variable {i : Input} {d : Char} {t u rest : Text}

@[simp] theorem Input.after_rest (i : Input) (u s : Text) : (i.after u s).rest = s := rfl

theorem Input.after_after (i : Input) (u v s t : Text) :
    (i.after u s).after v t = i.after (u ++ v) t := by
  simp [after, Nat.add_assoc]

theorem Delimited.readDelimited_eq (h : Delimited d u t) (plain : d ≠ '\\') (opening : Input)
    (hi : i.rest = u ++ rest) : readDelimited opening d i = .ok (t, i.after u rest) := by
  have taken : i.rest.size - rest.size = u.size := by
    rw [hi, Text.size_append]
    omega
  have found : unescape d i.rest = some (t, rest) := by rw [hi, h.unescape_append plain rest]
  simp only [readDelimited, found, taken]
  rfl

theorem Argument.readArgument_eq (h : Argument u t) (letter : Char) (hi : i.rest = u ++ rest) :
    readArgument letter i = .ok ((i, t), i.after u rest) := by
  cases h with
  | @mk d u _ solid plain delimited =>
    have valid : ¬(d.isBlank = true ∨ d = '\\') := by simp [solid, plain]
    have inside := delimited.readDelimited_eq plain i (i := i.after [d] (u ++ rest)) rfl
    simp only [readArgument, hi, List.cons_append, if_neg valid, inside, Input.after_after]
    rfl

/-- A text that was written between delimiters is read up to the delimiter behind it, and it is
read as it was if and only if the delimiter can be hidden by a backslash or does not occur. -/
theorem readDelimited_escape (opening : Input) (plain : d ≠ '\\')
    (hi : i.rest = escape d t ++ d :: rest) :
    readDelimited opening d i =
        .ok (t.map (restoreChar d), i.after (escape d t ++ [d]) rest) ∧
      (readDelimited opening d i = .ok (t, i.after (escape d t ++ [d]) rest) ↔
        (d ≠ 'n' ∧ d ≠ 't') ∨ d ∉ t) := by
  have written : i.rest = (escape d t ++ [d]) ++ rest := by
    rw [hi, List.append_assoc, List.singleton_append]
  have read := (delimited_escape_map plain t).readDelimited_eq plain opening written
  refine ⟨read, ?_⟩
  rw [read]
  have same : (Except.ok (t.map (restoreChar d), i.after (escape d t ++ [d]) rest) :
      Except ParseError (Text × Input)) = .ok (t, i.after (escape d t ++ [d]) rest) ↔
        t.map (restoreChar d) = t := by simp
  rw [same, map_restoreChar_eq_self_iff plain, CanEscape, and_iff_right plain]

theorem readDelimited_escape_letter :
    let i : Input := ⟨1, "\\\\\\n#tp".toList⟩
    readDelimited i 't' i = .ok ("\\\n#".toList, ⟨7, ['p']⟩) ∧
      readDelimited i 't' ⟨1, "\\tttp".toList⟩ = .ok (['\t'], ⟨4, "tp".toList⟩) := by
  intro i
  constructor
  · have written : i.rest = escape 't' "\\\n#".toList ++ 't' :: ['p'] := rfl
    exact (readDelimited_escape i (by decide) written).2.2 (Or.inr (by decide))
  · have written : (Input.mk 1 "\\tttp".toList).rest = escape 't' ['t'] ++ 't' :: "tp".toList := rfl
    exact (readDelimited_escape i (by decide) written).1

/-- With the letter `n` as delimiter, an `n` in the text is read as a line feed. -/
theorem exists_not_readDelimited_escape :
    ¬∀ (d : Char) (t rest : Text) (opening i : Input), d.isBlank = false → d ≠ '\\' →
      i.rest = escape d t ++ d :: rest →
        ∃ j, readDelimited opening d i = .ok (t, j) ∧ j.rest = rest := by
  intro all
  obtain ⟨j, read, -⟩ := all 'n' ['n'] [] ⟨1, []⟩ ⟨2, "\\nn".toList⟩ rfl (by decide) rfl
  have feed : readDelimited ⟨1, []⟩ 'n' ⟨2, "\\nn".toList⟩ = .ok (['\n'], ⟨5, []⟩) := rfl
  rw [feed] at read
  cases read

end StructuralEdit
