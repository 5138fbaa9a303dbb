import StructuralEdit.Proofs.Text.Rows
import StructuralEdit.Proofs.Walk.Checked
/-!
Lines as regions. A text with so many line feeds has one more line, and the lines cover it from its
start to its end: each starts where the one before it stops, and all but the last have one line
feed, as their last character. So a range of lines covers these lines and nothing else.
-/
namespace StructuralEdit

namespace Text

variable {t : Text} {a b n : Nat}

/-- Where the line with the given index starts: behind as many line feeds, or at the end of the
text if there are fewer. -/
def lineStart : Text → Nat → Nat
  | _, 0 => 0
  | [], _ + 1 => 0
  | c :: t, n + 1 => c.utf8Size + lineStart t (if c = '\n' then n else n + 1)

@[simp] theorem lineStart_zero (t : Text) : lineStart t 0 = 0 := by
  cases t <;> rfl

def EndedLine (l : Text) : Prop := ∃ u, '\n' ∉ u ∧ l = u ++ ['\n']

theorem EndedLine.cons {c : Char} {l : Text} (h : EndedLine l) (other : c ≠ '\n') :
    EndedLine (c :: l) := by
  obtain ⟨u, free, rfl⟩ := h
  refine ⟨c :: u, fun found => ?_, rfl⟩
  rcases List.mem_cons.1 found with rfl | found
  · exact other rfl
  · exact free found

theorem exists_lines_concat (t : Text) :
    ∃ ls l, t.lines = ls ++ [l] ∧ ls.length = t.count '\n' ∧ (∀ m ∈ ls, EndedLine m) ∧
      '\n' ∉ l := by
  induction t with
  | nil => exact ⟨[], [], rfl, rfl, by simp, by simp⟩
  | cons c t ih =>
    obtain ⟨ls, l, split, count, ended, last⟩ := ih
    by_cases newline : c = '\n'
    · subst newline
      refine ⟨['\n'] :: ls, l, ?_, ?_, ?_, last⟩
      · rw [lines, if_pos rfl, split, List.cons_append]
      · rw [List.length_cons, count, List.count_cons_self]
      · exact List.forall_mem_cons.2 ⟨⟨[], by simp, rfl⟩, ended⟩
    · rw [List.count_cons_of_ne newline, lines, if_neg newline, split]
      cases ls with
      | nil =>
        refine ⟨[], c :: l, rfl, count, by simp, fun found => ?_⟩
        rcases List.mem_cons.1 found with rfl | found
        · exact newline rfl
        · exact last found
      | cons m ls =>
        obtain ⟨first, later⟩ := List.forall_mem_cons.1 ended
        exact ⟨(c :: m) :: ls, l, rfl, count,
          List.forall_mem_cons.2 ⟨first.cons newline, later⟩, last⟩

theorem length_lines (t : Text) : t.lines.length = t.count '\n' + 1 := by
  obtain ⟨ls, l, split, count, -, -⟩ := exists_lines_concat t
  rw [split, List.length_append, count]
  rfl

theorem lineStart_eq_size (t : Text) (n : Nat) :
    lineStart t n = size (t.lines.take n).flatten := by
  induction t generalizing n with
  | nil =>
    cases n with
    | zero => rfl
    | succ n => simp [lineStart, lines]
  | cons c t ih =>
    cases n with
    | zero => rfl
    | succ n =>
      rw [lineStart, lines]
      by_cases newline : c = '\n'
      · rw [if_pos newline, if_pos newline, ih, List.take_succ_cons, List.flatten_cons,
          size_append]
        rfl
      · rw [if_neg newline, if_neg newline, ih]
        cases lines t with
        | nil => simp
        | cons l ls => simp

theorem lineFrom_eq (here : Nat) (ls : List Text) (n : Nat) :
    lineFrom here ls n =
      ⟨here + size (ls.take n).flatten, here + size (ls.take (n + 1)).flatten⟩ := by
  induction ls generalizing here n with
  | nil => simp [lineFrom, Region.point]
  | cons l ls ih =>
    cases n with
    | zero => simp [lineFrom]
    | succ n => simp [lineFrom, ih, Nat.add_assoc]

theorem line_succ (t : Text) (n : Nat) : t.line (n + 1) = ⟨t.lineStart n, t.lineStart (n + 1)⟩ := by
  simp only [line, lineFrom_eq, lineStart_eq_size, Nat.zero_add]

theorem line_stop (t : Text) (n : Nat) : (t.line n).stop = t.lineStart n := by
  cases n with
  | zero => exact (lineStart_zero t).symm
  | succ n => rw [line_succ]

theorem lineStart_le_succ (t : Text) (n : Nat) : t.lineStart n ≤ t.lineStart (n + 1) := by
  have valid := (valid_line t (n + 1)).1
  rwa [line_succ] at valid

theorem lineStart_mono (h : a ≤ b) : t.lineStart a ≤ t.lineStart b := by
  induction h with
  | refl => exact Nat.le_refl _
  | step _ ih => exact Nat.le_trans ih (lineStart_le_succ t _)

theorem lineStart_eq_of_count_lt (h : t.count '\n' < n) : t.lineStart n = t.size := by
  have all : t.lines.length ≤ n := by
    rw [length_lines]
    exact h
  rw [lineStart_eq_size, List.take_of_length_le all, flatten_lines]

theorem slice_flatten {ls : List Text} {l : Text} (h : ls[n]? = some l) :
    slice ls.flatten ⟨size (ls.take n).flatten, size (ls.take (n + 1)).flatten⟩ = l := by
  have upTo : (ls.take (n + 1)).flatten = (ls.take n).flatten ++ l := by
    rw [List.take_add_one, h, List.flatten_append]
    exact congrArg _ (List.append_nil l)
  have parts : ls.flatten = (ls.take n).flatten ++ (l ++ (ls.drop (n + 1)).flatten) := by
    rw [← List.append_assoc, ← upTo, ← List.flatten_append, List.take_append_drop]
  rw [upTo, size_append, parts]
  exact slice_middle _ _ _

theorem slice_line {l : Text} (h : t.lines[n]? = some l) : t.slice (t.line (n + 1)) = l := by
  have part := slice_flatten h
  rwa [flatten_lines, ← lineStart_eq_size, ← lineStart_eq_size, ← line_succ] at part

theorem flatMap_slice_line (t : Text) (n k : Nat) :
    ((List.range' (n + 1) k).flatMap fun i => t.slice (t.line i)) =
      t.slice ⟨t.lineStart n, t.lineStart (n + k)⟩ := by
  induction k generalizing n with
  | zero => exact (slice_point t _).symm
  | succ k ih =>
    have within : t.lineStart (n + 1) ≤ t.lineStart (n + 1 + k) :=
      lineStart_mono (Nat.le_add_right _ _)
    rw [List.range'_succ, List.flatMap_cons, ih, line_succ,
      slice_append_slice t (lineStart_le_succ t n) within, Nat.add_right_comm, Nat.add_assoc]

/-- The lines of a text with `k` line feeds, counted from one: they cover it one after another, the
first `k` end with their only line feed, and the last has none. Line 0 is the start of the text, and
every line behind the last is its end. -/
structure Lined (t : Text) (k : Nat) : Prop where
  first : (t.line 1).start = 0
  next : ∀ n, 1 ≤ n → n ≤ k → (t.line (n + 1)).start = (t.line n).stop
  last : (t.line (k + 1)).stop = t.size
  valid : ∀ n, t.Valid (t.line n)
  ended : ∀ n, 1 ≤ n → n ≤ k → EndedLine (t.slice (t.line n))
  unended : '\n' ∉ t.slice (t.line (k + 1))
  zero : t.line 0 = .point 0
  beyond : ∀ n, k + 1 < n → t.line n = .point t.size

theorem lined (t : Text) : t.Lined (t.count '\n') := by
  obtain ⟨ls, l, split, count, ended, unended⟩ := exists_lines_concat t
  refine ⟨?_, ?_, ?_, valid_line t, ?_, ?_, rfl, ?_⟩
  · rw [line_succ, lineStart_zero]
  · intro n _ _
    rw [line_succ, line_stop]
  · rw [line_stop, lineStart_eq_of_count_lt (Nat.lt_succ_self _)]
  · intro n positive inside
    obtain ⟨i, rfl⟩ := Nat.exists_eq_add_one_of_ne_zero (Nat.ne_zero_of_lt positive)
    have here : i < ls.length := by omega
    have found : t.lines[i]? = some ls[i] := by
      rw [split, List.getElem?_append_left here, List.getElem?_eq_getElem here]
    rw [slice_line found]
    exact ended _ (List.getElem_mem here)
  · have found : t.lines[t.count '\n']? = some l := by
      rw [split, ← count, List.getElem?_concat_length]
    rwa [slice_line found]
  · intro n beyond
    obtain ⟨i, rfl⟩ := Nat.exists_eq_add_one_of_ne_zero (Nat.ne_zero_of_lt beyond)
    rw [line_succ, lineStart_eq_of_count_lt (by omega), lineStart_eq_of_count_lt (by omega)]
    rfl

end Text

namespace Checked

variable {t : Text} {n : Nat}

def difference (a b : Nat) : Option Nat := if b ≤ a then some (a - b) else none

def lineStart (t : Text) (i : Nat) : Option Nat :=
  if i ≤ t.lines.length then some (t.lineStart i) else none

def line (limit : Nat) (t : Text) (n : Nat) : Option Region := do
  if n = 0 then return .point 0
  let i ← difference n 1
  if t.lines.length ≤ i then return .point t.size
  return .between (← lineStart t i) (← lineStart t (← sum limit i 1))

theorem line_eq {limit : Nat} (h : n < limit) : line limit t n = some (t.line n) := by
  cases n with
  | zero => rfl
  | succ i =>
    rw [line, if_neg (Nat.succ_ne_zero i), difference, if_pos (Nat.le_add_left 1 i),
      Nat.add_sub_cancel]
    by_cases beyond : t.lines.length ≤ i
    · have far := t.lined.beyond (i + 1) (by rw [t.length_lines] at beyond; omega)
      simp only [bind, Option.bind, if_pos beyond, far]
      rfl
    · have start : lineStart t i = some (t.lineStart i) := if_pos (by omega)
      have stop : lineStart t (i + 1) = some (t.lineStart (i + 1)) := if_pos (by omega)
      simp only [bind, Option.bind, if_neg beyond, start, sum_eq h, stop, Text.line_succ]
      exact congrArg some (congrArg _ (Nat.max_eq_right (t.lineStart_le_succ i)))

end Checked

namespace Address

/-- What a range of lines covers: if the second number is not smaller, all lines from the first to
the second, where line 0 adds nothing; else it is the empty region where the first line starts. -/
structure CoversLines (t : Text) (a b : Nat) (m : Region) : Prop where
  forward : 1 ≤ a → a ≤ b → m = ⟨(t.line a).start, (t.line b).stop⟩ ∧
    t.slice m = (List.range' a (b + 1 - a)).flatMap fun n => t.slice (t.line n)
  fromStart : a = 0 → m = ⟨0, (t.line b).stop⟩ ∧
    t.slice m = (List.range' 1 b).flatMap fun n => t.slice (t.line n)
  backward : 1 ≤ a → b < a → m = .point (t.line a).start

theorem coversLines (t : Text) (a b : Nat) :
    CoversLines t a b (.between (t.line a).start (t.line b).stop) := by
  have stop := t.line_stop b
  cases a with
  | zero =>
    have region : Region.between (t.line 0).start (t.line b).stop = ⟨0, (t.line b).stop⟩ :=
      congrArg _ (Nat.max_eq_right (Nat.zero_le _))
    refine ⟨by omega, fun _ => ⟨region, ?_⟩, by omega⟩
    rw [region, stop, Text.flatMap_slice_line t 0 b, Text.lineStart_zero, Nat.zero_add]
  | succ i =>
    have start : (t.line (i + 1)).start = t.lineStart i := by rw [Text.line_succ]
    refine ⟨fun _ upTo => ?_, by omega, fun _ before => ?_⟩
    · have lines := t.flatMap_slice_line i (b + 1 - (i + 1))
      have last : i + (b + 1 - (i + 1)) = b := by omega
      have region : Region.between (t.line (i + 1)).start (t.line b).stop =
          ⟨(t.line (i + 1)).start, (t.line b).stop⟩ := by
        refine congrArg _ (Nat.max_eq_right ?_)
        rw [start, stop]
        exact Text.lineStart_mono (by omega)
      rw [last] at lines
      exact ⟨region, by rw [region, lines, start, stop]⟩
    · refine congrArg _ (Nat.max_eq_left ?_)
      rw [start, stop]
      exact Text.lineStart_mono (by omega)

/-- The lines of a text tile it, whatever its characters are, and a machine whose numbers stay below
a limit finds each line with a number below that limit. A range of two lines stands for a region
wherever it is looked for, and covers the lines from the first to the second. -/
theorem resolve_lines (t : Text) :
    t.Lined (t.count '\n') ∧
      (∀ limit n, n < limit → Checked.line limit t n = some (t.line n)) ∧
      ∀ current a b, ∃ m, (range (.line a) (.line b)).resolve t current = .ok m ∧
        CoversLines t a b m :=
  ⟨t.lined, fun _ _ => Checked.line_eq, fun _ a b => ⟨_, rfl, coversLines t a b⟩⟩

/-- A carriage return and a line separator end no line, and behind the last line feed there is an
empty line. -/
example : [0, 1, 2, 3, 9].map (Text.line "a\r\u2028b\n\n".toList) =
    [⟨0, 0⟩, ⟨0, 7⟩, ⟨7, 8⟩, ⟨8, 8⟩, ⟨8, 8⟩] := by decide

end Address

end StructuralEdit
