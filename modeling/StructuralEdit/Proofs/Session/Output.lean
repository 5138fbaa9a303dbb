import StructuralEdit.Proofs.Evaluation.Printing
import StructuralEdit.Proofs.Session.Scopes
import StructuralEdit.Proofs.Text.Rows
/-!
Output is shown without loss. What a command prints on the whole buffer is said in one message, but
for the line feed at its end, or presented in a buffer if it has too many lines; the lines counted
are the line feeds. A command that says of itself that it had nothing to do has neither printed nor
changed anything.
-/
namespace StructuralEdit

open Host.Storing (stored)

variable {η σ : Type}

theorem Evaluation.changes_eq_nil {e : Evaluation} (h : e.hasChanges = false) : e.changes = [] := by
  simpa [hasChanges] using h

theorem dropLastNewline_append (u : Text) : dropLastNewline (u ++ ['\n']) = u := by
  rw [dropLastNewline, if_pos List.getLast?_concat, List.dropLast_concat]

/-- Behind each region that is printed a line ends, and so the output has as many rows as it has
line feeds, whatever the regions contain. -/
theorem Context.Prints.outputLines_eq {t : Text} {x : Context σ} (h : x.Prints t) :
    x.evaluation.outputLines = x.evaluation.output.count '\n' := by
  have ended : x.evaluation.output = [] ∨ x.evaluation.output.getLast? = some '\n' := by
    rcases h.output_cases with ⟨empty, -⟩ | ⟨u, lines⟩
    · exact Or.inl empty
    · rw [lines]
      exact Or.inr List.getLast?_concat
  rw [Evaluation.outputLines, Text.length_rows, if_pos ended, Nat.add_zero]

theorem Context.Prints.printed_eq_nil {t : Text} {x : Context σ} (h : x.Prints t)
    (silent : x.evaluation.output = []) : x.printed = [] := by
  rcases h.output_cases with ⟨-, none⟩ | ⟨u, lines⟩
  · exact none
  · rw [silent] at lines
    exact absurd lines.symm (List.append_ne_nil_of_right_ne_nil u (List.cons_ne_nil _ _))

/-- The ways to show output with so many lines: one message that says all of it but for the last
line feed, or the named buffer with all of it and a message that counts the lines. -/
inductive ShownBy (config : Config) (output : Text) (lines : Nat) : List Event → Prop
  | message {m : Text} : lines ≤ config.shortOutputLines → m ++ ['\n'] = output →
      ShownBy config output lines [.said (.ofList m)]
  | buffer : config.shortOutputLines < lines →
      ShownBy config output lines
        [.presented config.outputBuffer output, .said (toString lines ++ " lines of output")]

theorem Context.Prints.shownBy {t : Text} {x : Context σ} (h : x.Prints t) (config : Config)
    (some : x.evaluation.output ≠ []) :
    ShownBy config x.evaluation.output x.evaluation.outputLines
      (Scope.whole.shows config x.evaluation) := by
  rw [Scope.shows]
  split
  · next short =>
    rcases h.output_cases with ⟨empty, -⟩ | ⟨u, lines⟩
    · exact absurd empty some
    · rw [lines, dropLastNewline_append]
      exact .message short rfl
  · next long => exact .buffer (Nat.lt_of_not_le long)

theorem Sequel.of_idle {config : Config} {scope : Scope} {t : Text} {e : Evaluation} {o : Outcome}
    {events : List Event} (sequel : Sequel config scope t e (.ok o) events)
    (idle : o = .noMatches ∨ ∃ n, o = .filtersFailed n) :
    e.hasChanges = false ∧ e.output = [] := by
  rcases idle with rfl | ⟨n, rfl⟩
  · cases sequel with
    | noMatches kept silent _ => exact ⟨kept, silent⟩
  · cases sequel with
    | filtersFailed kept silent _ => exact ⟨kept, silent⟩

theorem Command.exists_execute_of_evaluate {c : Command} {filter : Filter σ} {t : Text} {r : Region}
    {memory : σ} {e : Evaluation} (h : (c.evaluate filter t r memory).1 = .ok e) :
    ∃ u x, c.execute filter t r { memory } = (.ok u, x) ∧
      c.evaluate filter t r memory = (.ok x.evaluation, x.memory) ∧ x.evaluation = e := by
  rw [evaluate_eq_execute] at h ⊢
  rcases run : c.execute filter t r { memory } with ⟨f | u, x⟩
  · rw [run] at h
    cases h
  · rw [run] at h
    exact ⟨u, x, rfl, rfl, Except.ok.inj h⟩

namespace Session

variable [Host η]

/-- The buffer has the text `t`, and on the whole of it a run of the command ends well in the
context `x`, with the evaluation of the command. -/
def Collects (s : Session σ) (input : Text) (w : World η σ) (t : Text) (x : Context σ) : Prop :=
  ∃ c u, readInput input = .ok c ∧ Host.contents w.host = .ok t ∧
    c.execute s.filter t t.whole { memory := w.memory } = (.ok u, x) ∧
    c.evaluate s.filter t t.whole w.memory = (.ok x.evaluation, x.memory)

theorem Collects.prints {s : Session σ} {input t : Text} {w : World η σ} {x : Context σ}
    (h : s.Collects input w t x) : x.Prints t := by
  obtain ⟨c, u, -, -, run, -⟩ := h
  have prints := c.execute_prints s.filter t t.whole _ (.start w.memory)
  rwa [run] at prints

variable [Host.Storing η]

theorem exists_collects {s : Session σ} {input : Text} {w : World η σ} {o : Outcome}
    (ended : (s.transcribed.execute input w.transcribed).1 = .ok o) :
    ∃ t x events,
      let after := (s.transcribed.execute input w.transcribed).2.host
      s.Collects input w t x ∧ Sequel s.config .whole t x.evaluation (.ok o) events ∧
        after.events = reports x.evaluation ++ events ∧
        stored after = (written events).getLast?.or (stored w.host) := by
  rcases s.transcribed.runOn_cases input Text.whole w.transcribed with ⟨f, -, run⟩ |
    ⟨c, t, read, opened, ⟨f, memory, -, run⟩ | ⟨e, memory, evaluated, run⟩⟩
  · have failed : s.transcribed.execute input w.transcribed = _ := run (conclude s.config)
    rw [failed] at ended
    cases ended
  · have failed : s.transcribed.execute input w.transcribed = _ := run (conclude s.config)
    rw [failed] at ended
    cases ended
  · have concluded : s.transcribed.execute input w.transcribed = _ := run (conclude s.config)
    rw [concluded] at ended ⊢
    have same : Agree _ (c.evaluate s.transcribed.filter t t.whole w.transcribed.memory)
        (c.evaluate s.filter t t.whole w.memory) :=
      Command.evaluate_related (Filter.transcribed_related s.filter) rfl c t t.whole
    rw [evaluated] at same
    obtain ⟨u, x, executed, same_end, rfl⟩ := Command.exists_execute_of_evaluate same.1.symm
    have result : (conclude s.config t x.evaluation w.transcribed.host).1 = .ok o := ended
    obtain ⟨events, told, sequel⟩ := conclude_sequel s.config t x.evaluation w.transcribed.host
    rw [result] at sequel
    have kept : stored (conclude s.config t x.evaluation w.transcribed.host).2 =
        (written (reports x.evaluation ++ events)).getLast?.or (stored w.host) :=
      Scope.whole.stored_finish s.config t x.evaluation told
    rw [written_append, written_reports, List.nil_append] at kept
    exact ⟨t, x, events, ⟨c, u, read, opened, executed, same_end⟩, sequel, told, kept⟩

/-- When a command on the whole buffer says that it printed so many lines, the output is made of the
regions that it has printed, each with an end of line behind it; there are as many lines as line
feeds. The host is told of the filters that failed, and then it is shown all of the output, and the
buffer is kept. When a command says that nothing matched or that its filters failed, it has printed
no region and changed nothing. -/
theorem execute_shows (s : Session σ) (input : Text) (w : World η σ) :
    let run := s.transcribed.execute input w.transcribed
    s.execute input w = (run.1, ⟨run.2.host.host, run.2.memory.state⟩) ∧
    (∀ lines, run.1 = .ok (.printed lines) →
      ∃ t x events, s.Collects input w t x ∧
        x.evaluation.output = (x.printed.flatMap fun r => t.slice r ++ ['\n']) ∧
        x.evaluation.changes = [] ∧ lines = x.evaluation.output.count '\n' ∧
        run.2.host.events = reports x.evaluation ++ events ∧
        ShownBy s.config x.evaluation.output lines events ∧
        stored run.2.host = stored w.host) ∧
    ∀ o, run.1 = .ok o → (o = .noMatches ∨ ∃ n, o = .filtersFailed n) →
      ∃ t x, s.Collects input w t x ∧ x.printed = [] ∧ x.evaluation.changes = [] := by
  intro run
  refine ⟨s.runIn_transcribed input .whole w, ?_, ?_⟩
  · intro lines ended
    obtain ⟨t, x, events, collects, sequel, told, kept⟩ := exists_collects ended
    have prints := collects.prints
    cases sequel with
    | printed unchanged some =>
      have written_nothing := Scope.written_displays s.config x.evaluation .whole
        (.ok (.printed x.evaluation.outputLines))
      rw [Scope.displays] at written_nothing
      rw [written_nothing] at kept
      exact ⟨t, x, _, collects, prints, Evaluation.changes_eq_nil unchanged, prints.outputLines_eq,
        told, prints.shownBy s.config some, kept⟩
  · intro o ended idle
    obtain ⟨t, x, _, collects, sequel, -, -⟩ := exists_collects ended
    obtain ⟨unchanged, silent⟩ := sequel.of_idle idle
    exact ⟨t, x, collects, collects.prints.printed_eq_nil silent,
      Evaluation.changes_eq_nil unchanged⟩

theorem execute_shows_single :
    let s : Session Nat := ⟨{ shortOutputLines := 1 }, refusing⟩
    (∃ t x, s.Collects "\x7b|no\np\np\x7d".toList single t x ∧
      x.evaluation.output.count '\n' = 2 ∧
      (s.transcribed.execute "\x7b|no\np\np\x7d".toList single.transcribed).2.host.events =
        reports x.evaluation ++
          [.presented s.config.outputBuffer x.evaluation.output, .said "2 lines of output"]) ∧
    ∃ t x, s.Collects "x/b/p".toList single t x ∧ x.printed = [] := by
  intro s
  have printed : (s.transcribed.execute "\x7b|no\np\np\x7d".toList single.transcribed).1 =
      .ok (.printed 2) := rfl
  have idle : (s.transcribed.execute "x/b/p".toList single.transcribed).1 = .ok .noMatches := rfl
  obtain ⟨-, shows, -⟩ := execute_shows s "\x7b|no\np\np\x7d".toList single
  obtain ⟨t, x, events, collects, -, -, lines, told, shown, -⟩ := shows 2 printed
  obtain ⟨-, -, silent⟩ := execute_shows s "x/b/p".toList single
  obtain ⟨u, y, collects', none, -⟩ := silent .noMatches idle (Or.inl rfl)
  refine ⟨⟨t, x, collects, lines.symm, ?_⟩, u, y, collects', none⟩
  cases shown with
  | message short _ => exact absurd short (by decide)
  | buffer _ => exact told

end Session

end StructuralEdit
