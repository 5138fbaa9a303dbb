import StructuralEdit.Proofs.Command.Delimiters
import StructuralEdit.Proofs.Command.Shape
/-!
What comes of reading something that is spelled as the grammar says. Readers skip blanks before
they look at what is next, so what they leave matters up to blanks only. The parts of commands
that do not nest are always read; the rest may be refused as too deep.
-/
namespace StructuralEdit

/-- Either `a` is read and `rest` is left but for blanks, and there is no excess; or the reading
fails for something in excess. -/
inductive Reading (a : α) (rest : Text) (excess : Malformed → Prop) :
    Except ParseError (α × Input) → Prop
  | reads {j : Input} : (∀ why, ¬excess why) → j.rest.trimStart = rest.trimStart →
      Reading a rest excess (.ok (a, j))
  | refuses {e : ParseError} : excess e.why → Reading a rest excess (.error e)

abbrev Reads (a : α) (rest : Text) (r : Except ParseError (α × Input)) : Prop :=
  Reading a rest (fun _ => False) r

section Reading

variable {a : α} {b : β} {rest rest' : Text} {excess excess' : Malformed → Prop}
  {r : Except ParseError (α × Input)} {f : α × Input → Except ParseError (β × Input)}

theorem Reading.congr (h : Reading a rest excess r) (same : ∀ why, excess why ↔ excess' why) :
    Reading a rest excess' r := by
  rwa [← funext fun why => propext (same why)]

theorem Reading.bind {whole : Malformed → Prop} (h : Reading a rest excess r)
    (next : ∀ j, j.rest.trimStart = rest.trimStart → Reading b rest' excess' (f (a, j)))
    (all : ∀ why, excess why ∨ excess' why ↔ whole why) :
    Reading b rest' whole (r >>= f) := by
  cases h with
  | reads none left =>
    exact (next _ left).congr fun why => (or_iff_right (none why)).symm.trans (all why)
  | refuses found => exact .refuses ((all _).mp (Or.inl found))

theorem Reading.map (h : Reading a rest excess r) (next : ∀ j, f (a, j) = .ok (b, j)) :
    Reading b rest excess (r >>= f) := by
  cases h with
  | reads none left =>
    refine Eq.subst (next _).symm ?_
    exact .reads none left
  | refuses found => exact .refuses found

theorem Reading.ok {j : Input} (h : j.rest = rest) : Reads a rest (.ok (a, j)) :=
  .reads (fun _ => id) (congrArg _ h)

theorem Reading.skip (h : Reading a rest excess r) (same : rest.trimStart = rest'.trimStart) :
    Reading a rest' excess r := by
  cases h with
  | reads none left => exact .reads none (left.trans same)
  | refuses found => exact .refuses found

theorem Reads.bind (h : Reads a rest r)
    (next : ∀ j, j.rest.trimStart = rest.trimStart → Reading b rest' excess' (f (a, j))) :
    Reading b rest' excess' (r >>= f) :=
  Reading.bind h next fun _ => or_iff_right id

end Reading

variable {i : Input} {rest u : Text}

theorem span_append {p : Char → Bool} (all : ∀ c ∈ u, p c = true)
    (stop : ∀ c ∈ rest.head?, p c = false) :
    (u ++ rest).takeWhile p = u ∧ (u ++ rest).dropWhile p = rest := by
  rw [List.takeWhile_append_of_pos all, List.dropWhile_append_of_pos all]
  cases rest with
  | nil => exact ⟨List.append_nil u, rfl⟩
  | cons c rest =>
    have first : ¬p c = true := Bool.not_eq_true _ ▸ stop c rfl
    rw [List.takeWhile_cons_of_neg first, List.dropWhile_cons_of_neg first]
    exact ⟨List.append_nil u, rfl⟩

theorem Digits.reads {n : Nat} (h : Digits u n) (stop : ∀ c ∈ rest.head?, c.isDigit = false)
    (hi : i.rest = u ++ rest) : Reads n rest (readNumber i) := by
  have value : Text.toNat? u = some n := toNat?_eq_some_iff.mpr h.spelled
  have digits : ∀ d ∈ u, d.isDigit = true := by
    obtain ⟨zeros, rfl⟩ := h.spelled
    exact fun _ => isDigit_of_mem_zeros
  obtain ⟨taken, left⟩ := span_append digits stop
  simp only [readNumber, hi, taken, left, value, if_pos h.small]
  exact .ok rfl

theorem Delimited.reads {d : Char} {t : Text} (h : Delimited d u t) (plain : d ≠ '\\')
    (opening : Input) (hi : i.rest = u ++ rest) : Reads t rest (readDelimited opening d i) := by
  rw [h.readDelimited_eq plain opening hi]
  exact .ok rfl

theorem Argument.reads {t : Text} (h : Argument u t) (letter : Char) (hi : i.rest = u ++ rest) :
    Reads (i, t) rest (readArgument letter i) := by
  rw [h.readArgument_eq letter hi]
  exact .ok rfl

theorem Argument.reads_text {t : Text} (h : Argument u t) (letter : Char)
    (hi : i.rest = u ++ rest) : Reads t rest (readText letter i) :=
  (h.reads letter hi).map fun _ => rfl

theorem Pattern.ofSource_source (p : Pattern) : ofSource p.source = .ok p := by
  unfold ofSource
  split
  · exact congrArg Except.ok (eq_of_source rfl)
  · next failed => cases failed.symm.trans p.ofPattern_eq

theorem Pattern.source_of_ofSource {p : Pattern} (h : ofSource u = .ok p) : p.source = u := by
  unfold ofSource at h
  split at h
  · cases h
    rfl
  · cases h

theorem compilePattern_of_ofSource (i : Input) {p : Pattern} (h : Pattern.ofSource u = .ok p) :
    compilePattern i u = .ok p := by
  rw [compilePattern, h]

theorem Argument.reads_pattern {t : Text} {p : Pattern} (h : Argument u t)
    (compiled : Pattern.ofSource t = .ok p) (letter : Char) (hi : i.rest = u ++ rest) :
    Reads p rest (readPattern letter i) := by
  refine (h.reads letter hi).map fun j => ?_
  simp only [compilePattern_of_ofSource i compiled]
  rfl

theorem readFilter_of_line (opening : Input) (inLine : '\n' ∉ u) (some : Text.trim u ≠ [])
    (stop : ∀ c ∈ rest.head?, c = '\n') (hi : i.rest = u ++ rest) :
    Reads (.filter (Text.trim u)) rest (Command.readFilter opening i) := by
  have all : ∀ c ∈ u, decide (c ≠ '\n') = true := fun c hc =>
    decide_eq_true fun feed => inLine (feed ▸ hc)
  have feed : ∀ c ∈ rest.head?, decide (c ≠ '\n') = false := fun c hc =>
    decide_eq_false fun other => other (stop c hc)
  obtain ⟨line, left⟩ := span_append all feed
  have some : (Text.trim u).isEmpty = false := by simpa using some
  simp only [Command.readFilter, hi, line, left, some]
  exact .ok rfl

theorem readFilter_line (opening : Input) (hu : FilterText u)
    (hi : i.rest = u ++ '\n' :: rest) :
    Reads (.filter u) rest (Command.readFilter opening i) := by
  have same := Text.trim_eq_self hu.toTrimmed
  have whole : Reads (.filter (Text.trim u)) ('\n' :: rest) (Command.readFilter opening i) :=
    readFilter_of_line opening hu.oneLine (by rw [same]; exact hu.some) (by rintro _ ⟨⟩; rfl) hi
  rw [same] at whole
  exact whole.skip (Text.trimStart_blank (by decide) rest)

theorem exists_level {depth levels : Nat} (level : depth + levels = nestingLimit)
    (flat : depth ≤ 100) : ∃ more, levels = more + 1 ∧ depth + 1 + more = nestingLimit := by
  have limit : nestingLimit = 101 := rfl
  exact ⟨100 - depth, by omega, by omega⟩

end StructuralEdit
