import StructuralEdit.Proofs.Command.Answers
import StructuralEdit.Proofs.Session.Output
/-!
The summary of an output in one line. It shows the beginning of the first line, and dots stand
behind it if and only if more than the line feed at the end is left out. There is one exception: a
carriage return at the end of the first line is always left out, and the dots do not tell of it.
-/
namespace StructuralEdit

open Command (firstLine otherLines)

variable {σ : Type} {u v : Text}

theorem Command.firstLine_append (free : '\n' ∉ u) (v : Text) :
    firstLine (u ++ '\n' :: v) = u := by
  have all : ∀ c ∈ u, decide (c ≠ '\n') = true :=
    fun c hc => decide_eq_true fun newline => free (newline ▸ hc)
  rw [firstLine, List.takeWhile_append_of_pos all, List.takeWhile_cons_of_neg (by decide),
    List.append_nil]

def printedTexts (ts : List Text) : Text := ts.flatMap (· ++ ['\n'])

theorem printedTexts_cases (ts : List Text) :
    printedTexts ts = [] ∨ ∃ u v, '\n' ∉ u ∧ printedTexts ts = u ++ '\n' :: v := by
  cases ts with
  | nil => exact Or.inl rfl
  | cons t ts =>
    have feed : '\n' ∈ printedTexts (t :: ts) := by simp [printedTexts]
    obtain ⟨u, v, split, free⟩ := List.eq_append_cons_of_mem feed
    exact Or.inr ⟨u, v, free, split⟩

def dots (more : Prop) [Decidable more] : Text := if more then ['.', '.', '.'] else []

theorem dots_congr {p q : Prop} [Decidable p] [Decidable q] (h : p ↔ q) : dots p = dots q :=
  by simp only [dots, h]

theorem summary_append (free : '\n' ∉ u) (v : Text) (width : Nat) :
    summary (u ++ '\n' :: v) width =
      let row := if u.getLast? = some '\r' then u.dropLast else u
      row.take width ++ dots (width < row.length ∨ v ≠ []) := by
  have more : ∀ row : Text, 1 < (row :: v.rows).length ↔ v ≠ [] := by
    intro row
    rw [List.length_cons, Nat.lt_add_left_iff_pos, List.length_pos_iff]
    exact not_congr Text.rows_eq_nil_iff
  simp only [summary, Text.rows_append_newline free, List.headD_cons, more]
  rfl

theorem ne_take_append_iff (u e v : Text) (width : Nat) :
    u ++ (e ++ v) ≠ u.take width ++ e ↔ width < u.length ∨ v ≠ [] := by
  constructor
  · intro lacks
    by_cases none : v = []
    · refine Or.inl (Nat.lt_of_not_le fun fits => lacks ?_)
      rw [none, List.append_nil, List.take_of_length_le fits]
    · exact Or.inr none
  · intro more same
    have lengths := congrArg List.length same
    simp only [List.length_append, List.length_take] at lengths
    rcases more with cut | some
    · omega
    · have positive := List.length_pos_iff.2 some
      omega

/-- How an output is summed up. The dots stand for all that is left out but the end of the first
line, which is its line feed together with a carriage return before it. -/
structure SumsUp (output : Text) (width : Nat) : Prop where
  plain : (firstLine output).getLast? ≠ some '\r' →
    let line := (firstLine output).take width
    summary output width = line ++ dots (output ≠ [] ∧ output ≠ line ++ ['\n'])
  returned : (firstLine output).getLast? = some '\r' →
    let line := (firstLine output).dropLast.take width
    summary output width = line ++ dots (output ≠ line ++ ['\r', '\n'])

theorem sumsUp_printedTexts (ts : List Text) (width : Nat) : SumsUp (printedTexts ts) width := by
  rcases printedTexts_cases ts with none | ⟨u, v, free, split⟩
  · rw [none]
    exact ⟨fun _ => rfl, nofun⟩
  rw [split]
  constructor
  · intro plain
    rw [Command.firstLine_append free] at plain ⊢
    rw [summary_append free, if_neg plain]
    have lacks := ne_take_append_iff u ['\n'] v width
    have some : u ++ '\n' :: v ≠ [] := by simp
    refine congrArg _ (dots_congr ?_)
    rw [and_iff_right some, ← lacks]
    rfl
  · intro returned
    rw [Command.firstLine_append free] at returned ⊢
    obtain ⟨line, rfl⟩ := List.getLast?_eq_some_iff.1 returned
    rw [summary_append free, if_pos returned, List.dropLast_concat]
    have lacks := ne_take_append_iff line ['\r', '\n'] v width
    refine congrArg _ (dots_congr ?_)
    rw [← lacks, List.append_assoc]
    rfl

theorem Command.output_eq_printedTexts {c : Command} {filter : Filter σ} {t : Text} {r : Region}
    {m : σ} {e : Evaluation} (h : (c.evaluate filter t r m).1 = .ok e) :
    ∃ ts, e.output = printedTexts ts := by
  obtain ⟨_, x, run, -, rfl⟩ := exists_execute_of_evaluate h
  have prints := c.execute_prints filter t r _ (.start m)
  rw [run] at prints
  refine ⟨x.printed.map t.slice, Eq.trans prints ?_⟩
  rw [printedTexts, List.flatMap_map]

/-- Whatever texts are printed, what is left out of their summary at any width is told by the dots,
up to a carriage return at the end of the first line, which is left out untold. And what an
evaluation puts out is always printed texts. -/
theorem summary_tells (filter : Filter σ) (t : Text) (c : Command) (r : Region) (m : σ)
    (width : Nat) :
    (∀ ts, SumsUp (printedTexts ts) width) ∧
      ∀ e, (c.evaluate filter t r m).1 = .ok e →
        (∃ ts, e.output = printedTexts ts) ∧ SumsUp e.output width := by
  refine ⟨fun ts => sumsUp_printedTexts ts width, fun e evaluated => ?_⟩
  obtain ⟨ts, printed⟩ := Command.output_eq_printedTexts evaluated
  exact ⟨⟨ts, printed⟩, printed ▸ sumsUp_printedTexts ts width⟩

/-- A line of a letter and a carriage return is cut to the letter, and no dots tell of it. -/
theorem exists_omission_untold :
    ¬∀ (ts : List Text) (width : Nat),
      let output := printedTexts ts
      let line := (firstLine output).take width
      summary output width = line ++ dots (output ≠ [] ∧ output ≠ line ++ ['\n']) := by
  intro all
  have told : ['a'] = ['a', '.', '.', '.'] := all [['a', '\r']] 1
  cases told

end StructuralEdit
