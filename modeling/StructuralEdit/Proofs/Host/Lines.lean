import StructuralEdit.Host.Terminal
import StructuralEdit.Proofs.Text.Utf8
/-!
Lines that a terminal reads. No byte of a character is a line feed, unless the character is one, so
the bytes of a text are split where the text has its first line feed, and a line that was sent as
text is read back. What reading leaves of an input that is a text is a text, and less than before.
-/
namespace StructuralEdit

open Terminal (newline splitLine dropLineEnd)

namespace Text

theorem le_of_mem_charBytes {c : Char} (wide : 0x80 ≤ c.toNat) :
    ∀ b ∈ charBytes c, 0x80 ≤ b.toNat := by
  have valid : c.toNat < 0xD800 ∨ 0xDFFF < c.toNat ∧ c.toNat < 0x110000 := c.valid
  unfold charBytes
  dsimp only
  generalize c.toNat = n at *
  intro b hb
  rw [if_neg (by omega)] at hb
  by_cases two : n < 0x800
  · rw [if_pos two] at hb
    simp only [List.mem_cons, List.not_mem_nil, or_false] at hb
    rcases hb with rfl | rfl <;> rw [toNat_toUInt8 (by omega)] <;> omega
  rw [if_neg two] at hb
  by_cases three : n < 0x10000
  · rw [if_pos three] at hb
    simp only [List.mem_cons, List.not_mem_nil, or_false] at hb
    rcases hb with rfl | rfl | rfl <;> rw [toNat_toUInt8 (by omega)] <;> omega
  · rw [if_neg three] at hb
    simp only [List.mem_cons, List.not_mem_nil, or_false] at hb
    rcases hb with rfl | rfl | rfl | rfl <;> rw [toNat_toUInt8 (by omega)] <;> omega

theorem newline_not_mem_charBytes {c : Char} (h : c ≠ '\n') : newline ∉ charBytes c := by
  intro found
  by_cases wide : 0x80 ≤ c.toNat
  · have high := le_of_mem_charBytes wide newline found
    have value : newline.toNat = 10 := rfl
    omega
  · have single : charBytes c = [c.toNat.toUInt8] := if_pos (by omega)
    rw [single, List.mem_singleton] at found
    have value := congrArg UInt8.toNat found
    rw [toNat_toUInt8 (by omega)] at value
    exact h (Char.toNat_inj.mp value.symm)

theorem newline_not_mem_toBytes {t : Text} (h : '\n' ∉ t) : newline ∉ toBytes t := by
  intro found
  obtain ⟨c, hc, byte⟩ := List.mem_flatMap.mp found
  refine newline_not_mem_charBytes (fun same => h ?_) byte
  rwa [← same]

theorem toBytes_append (t u : Text) : toBytes (t ++ u) = toBytes t ++ toBytes u :=
  List.flatMap_append

theorem toBytes_newline : toBytes ['\n'] = [newline] := rfl

end Text

namespace Terminal

variable {bs rest : List UInt8} {t u : Text} {label : String} {h : Terminal}

theorem splitLine_append (free : newline ∉ bs) :
    splitLine (bs ++ newline :: rest) = (bs ++ [newline], rest) := by
  induction bs with
  | nil => simp [splitLine]
  | cons b bs ih =>
    rw [List.mem_cons, not_or] at free
    obtain ⟨first, later⟩ := free
    rw [List.cons_append, splitLine, if_neg fun same => first same.symm, ih later]
    rfl

theorem splitLine_of_not_mem (free : newline ∉ bs) : splitLine bs = (bs, []) := by
  induction bs with
  | nil => rfl
  | cons b bs ih =>
    rw [List.mem_cons, not_or] at free
    obtain ⟨first, later⟩ := free
    rw [splitLine, if_neg fun same => first same.symm, ih later]

theorem splitLine_parts (bs : List UInt8) : (splitLine bs).1 ++ (splitLine bs).2 = bs := by
  induction bs with
  | nil => rfl
  | cons b bs ih =>
    rw [splitLine]
    split
    · rfl
    · exact congrArg (b :: ·) ih

theorem splitLine_toBytes (t : Text) :
    ∃ line rest, splitLine (Text.toBytes t) = (Text.toBytes line, Text.toBytes rest) := by
  by_cases ends : '\n' ∈ t
  · obtain ⟨line, rest, rfl, free⟩ := List.eq_append_cons_of_mem ends
    refine ⟨line ++ ['\n'], rest, ?_⟩
    have bytes : Text.toBytes (line ++ '\n' :: rest) =
        Text.toBytes line ++ newline :: Text.toBytes rest := Text.toBytes_append line _
    rw [bytes, splitLine_append (Text.newline_not_mem_toBytes free), Text.toBytes_append]
    rfl
  · exact ⟨t, [], splitLine_of_not_mem (Text.newline_not_mem_toBytes ends)⟩

theorem dropLineEnd_eq_self (line : '\n' ∉ t) (last : t.getLast? ≠ some '\r') :
    dropLineEnd t = t := by
  rcases List.eq_nil_or_concat t with rfl | ⟨u, c, rfl⟩
  · rfl
  · have feed : c ≠ '\n' := fun same => line (by simp [same])
    have carriage : c ≠ '\r' := fun same => last (by simp [same])
    simp [dropLineEnd, feed, carriage]

theorem dropLineEnd_newline (t : Text) : dropLineEnd (t ++ ['\n']) = dropLineEnd t := by
  simp [dropLineEnd]

theorem readLine_line (line : '\n' ∉ t) (input : h.input = Text.toBytes t ++ newline :: rest) :
    h.readLine label =
      (.ok (some (dropLineEnd t)), { h with input := rest, status := h.status ++ label }) := by
  have bytes : Text.toBytes t ++ [newline] = Text.toBytes (t ++ ['\n']) := by
    rw [Text.toBytes_append, Text.toBytes_newline]
  have some : (Text.toBytes t ++ [newline]).isEmpty = false := by simp
  simp only [readLine, input, splitLine_append (Text.newline_not_mem_toBytes line), some]
  rw [bytes, Text.ofBytes?_toBytes]
  simp only [Bool.false_eq_true, if_false, dropLineEnd_newline]

theorem readLine_end (input : h.input = []) :
    h.readLine label = (.ok none, { h with status := h.status ++ label }) := by
  simp only [readLine, input, splitLine]
  rfl

/-- What the terminal `k` has left of the input that the terminal `h` had: no more of it, and still
a text if it was one. -/
structure Consumes (h k : Terminal) : Prop where
  length_le : k.input.length ≤ h.input.length
  text : ∀ t, h.input = Text.toBytes t → ∃ u, k.input = Text.toBytes u

theorem Consumes.of_input_eq {k : Terminal} (same : k.input = h.input) : Consumes h k :=
  ⟨Nat.le_of_eq (congrArg List.length same), fun t text => ⟨t, same.trans text⟩⟩

theorem Consumes.trans {k l : Terminal} (first : Consumes h k) (later : Consumes k l) :
    Consumes h l := by
  refine ⟨Nat.le_trans later.length_le first.length_le, fun t text => ?_⟩
  obtain ⟨u, text⟩ := first.text t text
  exact later.text u text

/-- To read a line puts the label on the status stream and takes the line from the input, also if
it is no text. At the end of the input there is nothing to take. -/
theorem readLine_snd (label : String) (h : Terminal) :
    (h.readLine label).2 =
      { h with status := h.status ++ label, input := (splitLine h.input).2 } := by
  unfold readLine
  dsimp only
  split
  · next none =>
    have parts := splitLine_parts h.input
    rw [List.isEmpty_iff.mp none, List.nil_append] at parts
    rw [parts]
  · split
    · rfl
    · rfl

theorem prompt_eq_readLine (label : String) (h : Terminal) :
    Host.prompt label h = ((h.readLine label).1.toOption.join, (h.readLine label).2) := by
  simp only [Host.prompt]
  split
  · next read =>
    rw [read]
    rfl
  · next read =>
    rw [read]
    rfl

theorem readLine_consumes (label : String) (h : Terminal) : Consumes h (h.readLine label).2 := by
  constructor
  · have parts := congrArg List.length (splitLine_parts h.input)
    rw [List.length_append] at parts
    rw [readLine_snd]
    dsimp only
    omega
  · intro t text
    obtain ⟨line, rest, split⟩ := splitLine_toBytes t
    exact ⟨rest, by rw [readLine_snd, text, split]⟩

theorem readLine_length_lt {k : Terminal} {line : Text}
    (read : h.readLine label = (.ok (some line), k)) : k.input.length < h.input.length := by
  have parts := congrArg List.length (splitLine_parts h.input)
  have input := congrArg Terminal.input (readLine_snd label h)
  have some : (splitLine h.input).1 ≠ [] := by
    intro none
    simp [readLine, none] at read
  have positive := List.length_pos_iff.mpr some
  rw [read] at input
  dsimp only at input
  rw [List.length_append] at parts
  rw [input]
  omega

end Terminal

end StructuralEdit
