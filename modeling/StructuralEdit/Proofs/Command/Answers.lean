import StructuralEdit.NamedCommand
import StructuralEdit.Proofs.Command.Surroundings
/-!
The commands that are made from answers. An answer that stands between delimiters is read as one
pattern, whatever characters it has. One that stands behind a bar is read as a filter up to the end
of its first line, and it is refused if more than blanks follow.
-/
namespace StructuralEdit

variable {r u : Text}

open Command (letters)

namespace PatternCommand

def wrap : PatternCommand → Pattern → Command → Command
  | .matching => .extract false
  | .between => .extract true
  | .present => .guard false
  | .absent => .guard true

theorem patternLetter (c : PatternCommand) : Command.PatternLetter c.letter c.wrap := by
  cases c with
  | matching => exact .matching
  | between => exact .between
  | present => exact .present
  | absent => exact .absent

def command (c : PatternCommand) (p : Pattern) : Command := c.wrap p .print

def query (c : PatternCommand) (answer : Text) : Text := c.letter :: Command.slashed answer ++ ['p']

theorem letter_mem (c : PatternCommand) : c.letter ∈ letters := by cases c <;> decide

theorem letter_size (c : PatternCommand) : Text.size [c.letter] = 1 := by cases c <;> rfl

theorem readSub_print (n : Nat) :
    Command.readSub (Command.readNested 100) ⟨n, ['p']⟩ = .ok (.print, ⟨n + 1, []⟩) := rfl

theorem readPattern_query (c : PatternCommand) (r : Text) :
    readPattern c.letter ⟨1, Command.slashed r ++ ['p']⟩ =
      match Pattern.ofSource r with
      | .ok p => .ok (p, ⟨1 + (Command.slashed r).size, ['p']⟩)
      | .error e => .error ⟨1, .pattern r e⟩ := by
  have behind : (Input.mk 1 (Command.slashed r ++ ['p'])).rest = Command.slashed r ++ ['p'] := rfl
  have argument := (argument_slashed r).readArgument_eq c.letter behind
  simp only [readPattern, argument, compilePattern, bind, Except.bind]
  cases Pattern.ofSource r with
  | ok p => rfl
  | error e => rfl

theorem read_query (c : PatternCommand) (r : Text) :
    Command.read (c.query r) =
      match Pattern.ofSource r with
      | .ok p => .ok (c.command p)
      | .error e => .error ⟨1, .pattern r e⟩ := by
  let start : Input := ⟨0, c.query r⟩
  let argument : Text := Command.slashed r ++ ['p']
  have behind : start.after [c.letter] argument = ⟨1, argument⟩ := by
    simp only [Input.after, letter_size, start]
  have nested : Command.readNested nestingLimit start =
      Command.readSimple (Command.readNested 100) start :=
    Command.readNested_letter c.letter_mem rfl
  rw [c.patternLetter.readSimple_eq (t := argument) rfl, behind, c.readPattern_query r] at nested
  rw [Command.read, nested]
  cases Pattern.ofSource r with
  | ok p =>
    simp only [bind, Except.bind, readSub_print]
    rfl
  | error e => rfl

theorem query_trimmed (c : PatternCommand) (r : Text) : (c.query r).Trimmed := by
  constructor
  · rintro _ ⟨⟩
    exact (Command.endsAddress_of_letter c.letter_mem).solid
  · intro d hd
    rw [query, List.getLast?_concat] at hd
    cases hd
    decide

/-- The answer makes one command, which has it as its pattern, or an error at the delimiter. -/
theorem readInput_query (c : PatternCommand) (r : Text) :
    readInput (c.query r) =
      match Pattern.ofSource r with
      | .ok p => .ok (c.command p)
      | .error e => .error (.malformed ⟨1, .pattern r e⟩) := by
  simp only [readInput, Text.trim_eq_self (c.query_trimmed r), c.read_query r]
  cases Pattern.ofSource r with
  | ok p => rfl
  | error e => rfl

end PatternCommand

namespace Command

def firstLine (t : Text) : Text := t.takeWhile (· ≠ '\n')

def otherLines (t : Text) : Text := t.dropWhile (· ≠ '\n')

/-- The text that is made of an answer that names a filter. -/
def pipeline (answer : Text) : Text := ',' :: '|' :: answer

theorem readNested_pipeline (u : Text) :
    readNested nestingLimit ⟨0, pipeline u⟩ = (do
      let (c, j) ← readFilter ⟨1, '|' :: u⟩ ⟨2, u⟩
      return (.addressed .wholeText c, j)) := rfl

theorem read_pipeline_blank (h : Blanks (firstLine u)) :
    read (pipeline u) = .error ⟨1, .filterEmpty⟩ := by
  have none : Text.trim (u.takeWhile (· ≠ '\n')) = [] := trim_eq_nil_iff.2 h
  have nested := readNested_pipeline u
  simp only [readFilter, none] at nested
  rw [read, nested]
  rfl

theorem read_pipeline (h : ¬Blanks (firstLine u)) :
    read (pipeline u) =
      match (otherLines u).trimStart with
      | [] => .ok (.addressed .wholeText (.filter (Text.trim (firstLine u))))
      | c :: _ =>
        (Input.after ⟨2, u⟩ (firstLine u) (otherLines u)).skipBlanks.fail (.trailing c) := by
  have some : (Text.trim (u.takeWhile (· ≠ '\n'))).isEmpty = false := by
    refine Bool.eq_false_iff.2 fun empty => h ?_
    exact trim_eq_nil_iff.1 (List.isEmpty_iff.1 empty)
  have nested := readNested_pipeline u
  simp only [readFilter, some] at nested
  rw [read, nested, ← Input.after_rest ⟨2, u⟩ (firstLine u) (otherLines u), ← Input.skipBlanks_rest]
  simp only [bind, Except.bind, pure, Except.pure]
  rfl

theorem exists_lines_trimEnd (r : Text) :
    ∃ b b', Blanks b ∧ Blanks b' ∧ firstLine r = firstLine (Text.trimEnd r) ++ b ∧
      otherLines r = otherLines (Text.trimEnd r) ++ b' := by
  obtain ⟨back, blanks, split⟩ := exists_trimEnd r
  obtain ⟨b, front, line, b', behind, others⟩ := correspondence_blanks.span
    (i := ⟨0, Text.trimEnd r⟩) (j := ⟨0, r⟩) ⟨back, blanks, split⟩ fun c => decide (c ≠ '\n')
  exact ⟨b, b', front, behind, line, others⟩

theorem pipeline_trimmed (r : Text) : Text.trim (pipeline r) = pipeline (Text.trimEnd r) := by
  obtain ⟨b, blanks, split⟩ := exists_trimEnd r
  have trimmed : (pipeline (Text.trimEnd r)).Trimmed := by
    constructor
    · rintro _ ⟨⟩
      decide
    · intro c hc
      cases cut : Text.trimEnd r with
      | nil =>
        rw [cut] at hc
        cases hc
        decide
      | cons d u =>
        rw [cut, pipeline, List.getLast?_cons_cons, List.getLast?_cons_cons, ← cut] at hc
        exact Text.trimEnd_last c hc
  conv => lhs; rw [split]
  exact (blanks.trim_append (pipeline (Text.trimEnd r))).trans (Text.trim_eq_self trimmed)

theorem readInput_pipeline (r : Text) :
    readInput (pipeline r) = (read (pipeline (Text.trimEnd r))).mapError Failure.malformed := by
  simp only [readInput, pipeline_trimmed]
  cases read (pipeline (Text.trimEnd r)) with
  | ok c => rfl
  | error e => rfl

theorem readInput_pipeline_blank (h : Blanks (firstLine r)) :
    readInput (pipeline r) = .error (.malformed ⟨1, .filterEmpty⟩) := by
  obtain ⟨b, b', front, -, line, -⟩ := exists_lines_trimEnd r
  rw [line, front.append_iff] at h
  rw [readInput_pipeline, read_pipeline_blank h]
  rfl

/-- An answer is one filter if it has one line, but for blanks behind the line. -/
theorem readInput_pipeline_filter (h : ¬Blanks (firstLine r)) (single : Blanks (otherLines r)) :
    readInput (pipeline r) =
      .ok (.addressed .wholeText (.filter (Text.trim (firstLine r)))) := by
  obtain ⟨b, b', front, behind, line, others⟩ := exists_lines_trimEnd r
  rw [line, front.append_iff] at h
  rw [others, behind.append_iff] at single
  rw [readInput_pipeline, read_pipeline h, single.trimStart_eq_nil, line, front.trim_append]
  rfl

theorem readInput_pipeline_trailing (h : ¬Blanks (firstLine r)) (more : ¬Blanks (otherLines r)) :
    ∃ n c, c ∈ (otherLines r).trimStart.head? ∧
      readInput (pipeline r) = .error (.malformed ⟨n, .trailing c⟩) := by
  obtain ⟨b, b', front, behind, line, others⟩ := exists_lines_trimEnd r
  rw [line, front.append_iff] at h
  rw [others, behind.append_iff, ← trimStart_eq_nil_iff] at more
  rw [readInput_pipeline, read_pipeline h, others, Text.trimStart_append_of_ne_nil more]
  cases found : (otherLines (Text.trimEnd r)).trimStart with
  | nil => exact absurd found more
  | cons c s => exact ⟨_, c, rfl, rfl⟩

end Command

end StructuralEdit
