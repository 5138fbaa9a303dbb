import StructuralEdit.Proofs.Command.Answers
import StructuralEdit.Proofs.Evaluation.Execution
import StructuralEdit.Proofs.Evaluation.Rewriting
import StructuralEdit.Proofs.Session.Accounts
import StructuralEdit.Proofs.Session.Scopes
/-!
Commands that ask. Whatever the answer to a question for a pattern, it only finds what is printed,
or it is refused: no filter is called and nothing is changed. Whatever the answer to the question
for a filter, it is called once for the whole buffer, which becomes its output, or it is refused.
-/
namespace StructuralEdit

open Host.Storing (stored)

variable {η σ : Type}

theorem NamedCommand.named?_name (c : NamedCommand) : named? c.name = some c := by
  cases c with
  | pattern c => cases c <;> rfl
  | _ => rfl

theorem Evaluation.ofSteps_print (filter : Filter σ) (t : Text) (m : σ) (rs : List Region) :
    ofSteps filter t m (rs.map .print) =
      ({ output := rs.flatMap fun r => t.slice r ++ ['\n'] }, m) := by
  induction rs with
  | nil => rfl
  | cons r rs ih =>
    rw [List.map_cons, ofSteps_cons]
    simp only [ofStep, ih, append, List.nil_append, List.flatMap_cons]

theorem Walk.calls_print (t : Text) (rs : List Region) :
    calls t ⟨rs.map .print, none⟩ = [] := by
  rw [calls, List.filterMap_map, List.filterMap_eq_nil_iff]
  intro r _
  rfl

namespace PatternCommand

def regions (c : PatternCommand) (p : Pattern) (t : Text) : List Region :=
  match c with
  | .matching => targets t false p t.whole
  | .between => targets t true p t.whole
  | .present => if p.occursIn t then [t.whole] else []
  | .absent => if p.occursIn t then [] else [t.whole]

def printed (c : PatternCommand) (p : Pattern) (t : Text) : Text :=
  (c.regions p t).flatMap fun r => t.slice r ++ ['\n']

theorem walk_command (c : PatternCommand) (p : Pattern) (t : Text) :
    (c.command p).walk t t.whole = ⟨(c.regions p t).map .print, none⟩ := by
  have extraction (inverse : Bool) : (Command.extract inverse p .print).walk t t.whole =
      ⟨(targets t inverse p t.whole).map .print, none⟩ := by
    rw [Command.walk, Walk.each_of_failure_eq_none fun m _ => rfl, List.map_eq_flatMap]
    rfl
  cases c with
  | matching => exact extraction false
  | between => exact extraction true
  | present =>
    simp only [command, wrap, Command.walk, Text.slice_whole, regions]
    cases p.occursIn t <;> rfl
  | absent =>
    simp only [command, wrap, Command.walk, Text.slice_whole, regions]
    cases p.occursIn t <;> rfl

theorem evaluate_command (c : PatternCommand) (p : Pattern) (filter : Filter σ) (t : Text) (m : σ) :
    (c.command p).evaluate filter t t.whole m = (.ok { output := c.printed p t }, m) := by
  rw [Command.evaluate, walk_command, Evaluation.ofSteps_print]
  rfl

end PatternCommand

theorem evaluate_filter_whole (f : Text) (filter : Filter σ) (t : Text) (m : σ) :
    (Command.addressed .wholeText (.filter f)).evaluate filter t t.whole m =
      (.ok (.ofAnswer t.whole (filter f t m).1), (filter f t m).2) := by
  have walk : (Command.addressed .wholeText (.filter f)).walk t t.whole =
      { steps := [.filter f t.whole] } := rfl
  rw [Command.evaluate, walk, Evaluation.ofSteps_cons, Evaluation.ofStep_filter, Text.slice_whole]
  simp only [Evaluation.ofSteps, Evaluation.append_empty]
  rfl

theorem calls_filter_whole (f t : Text) :
    ((Command.addressed .wholeText (.filter f)).walk t t.whole).calls t = [(f, t)] := by
  have call : Step.call? t (.filter f t.whole) = some (f, t) := by
    rw [Step.call?, Text.slice_whole]
  exact List.filterMap_cons_some call

theorem apply_replace_whole (t u : Text) :
    Evaluation.apply { changes := [.replace t.whole u] } t = .ok u := by
  have rewrites := Change.Rewrites.replace (Text.valid_whole t) u
  rw [Evaluation.apply, Change.applyAll_of_rewrites (Text.valid_whole t) rewrites]
  simp [Text.whole, Text.dropBytes_size]

section Effects

variable [Host η] {config : Config} {t u : Text}

def report : Result × η → Bool × η
  | (.ok _, h) => (true, h)
  | (.error f, h) => (false, Host.say (failureMessage f) h)

def Event.asksToReplace : Event → Bool
  | .replaced _ => true
  | .refused _ => true
  | _ => false

def displayed (config : Config) (u : Text) : List Event :=
  if u.isEmpty then [.said "No matches"] else Scope.whole.shows config { output := u }

theorem report_conclude_output (config : Config) (t u : Text) (h : η) :
    report (conclude config t { output := u } h) =
      (true, (conclude config t { output := u } h).2) := by
  cases u <;> rfl

theorem events_conclude_output (config : Config) (t u : Text) (h : Observed η) :
    (conclude config t { output := u } h).2.events = h.events ++ displayed config u := by
  cases u with
  | nil => rfl
  | cons c u => exact events_presentOutput config { output := c :: u } h

theorem displayed_keeps {e : Event} (h : e ∈ displayed config u) : e.asksToReplace = false := by
  have said (message : String) (h : e ∈ [.said message]) : e.asksToReplace = false := by
    rw [List.mem_singleton.1 h]
    rfl
  rw [displayed, Scope.shows] at h
  split at h
  · exact said _ h
  · split at h
    · exact said _ h
    · rcases List.mem_cons.1 h with rfl | h
      · rfl
      · exact said _ h

theorem conclude_replace_whole (config : Config) (t u : Text) (h : η) :
    conclude config t { changes := [.replace t.whole u] } h =
      match Host.replace u h with
      | (.error f, h) => (.error f, h)
      | (.ok (), h) => (.ok (.changed 1), Host.say "1 change(s) applied" h) := by
  have commits : conclude config t { changes := [.replace t.whole u] } h =
      commit t { changes := [.replace t.whole u] } h := rfl
  rw [commits, commit, apply_replace_whole]
  dsimp only
  have counted : toString 1 ++ " change(s) applied" = "1 change(s) applied" := rfl
  rcases Host.replace u h with ⟨_ | _, k⟩
  · rfl
  · simp only [List.length_cons, List.length_nil, Nat.zero_add, counted]

/-- How the answer of a filter for the whole text `t` ends on a host. Its output replaces the text,
or the host refuses it, or the filter has failed; in the last two cases the text is kept. -/
inductive Piped [Host.Storing η] (t : Text) (h : η) :
    Except Failure Text → Bool × η → List Event → Prop
  | replaced {u : Text} {k : η} : Host.replace u h = (.ok (), k) →
      stored (Host.say "1 change(s) applied" k) = some u →
      Piped t h (.ok u) (true, Host.say "1 change(s) applied" k)
        [.replaced u, .said "1 change(s) applied"]
  | refused {u : Text} {f : Failure} {k : η} : Host.replace u h = (.error f, k) →
      stored (Host.say (failureMessage f) k) = some t →
      Piped t h (.ok u) (false, Host.say (failureMessage f) k)
        [.refused u, .said (failureMessage f)]
  | failed {f : Failure} : stored (Host.say (failureMessage f) h) = some t →
      Piped t h (.error f) (true, Host.say (failureMessage f) h) [.said (failureMessage f)]

theorem stored_of_contents [Host.Storing η] {h : η} (opened : Host.contents h = .ok t) :
    stored h = some t := by
  rcases Host.Storing.contents_cases h with closed | ⟨u, kept, opened'⟩
  · cases closed.symm.trans opened
  · cases opened'.symm.trans opened
    exact kept

theorem exists_piped [Host.Storing η] {h : η} (config : Config) (opened : Host.contents h = .ok t)
    (answer : Except Failure Text) (before : List Event) :
    ∃ events,
      Piped t h answer (report (conclude config t (.ofAnswer t.whole answer) h)) events ∧
      (report (conclude config t (.ofAnswer t.whole answer) (⟨h, before⟩ : Observed η))).2.events =
        before ++ events := by
  have kept := stored_of_contents opened
  cases answer with
  | error f =>
    exact ⟨_, .failed ((Host.Storing.stored_say (failureMessage f) h).trans kept), rfl⟩
  | ok u =>
    simp only [Evaluation.ofAnswer, conclude_replace_whole, Host.replace]
    rcases Host.Storing.replace_cases u h with ⟨k, done, text, -⟩ | ⟨detail, k, done, same, -⟩
    · rw [done]
      refine ⟨_, .replaced done ((Host.Storing.stored_say _ k).trans text), ?_⟩
      simp only [report, Host.say, List.append_assoc, List.singleton_append]
    · rw [done]
      refine ⟨_, .refused done ((Host.Storing.stored_say _ k).trans (same.trans kept)), ?_⟩
      simp only [report, Host.say, List.append_assoc, List.singleton_append]

end Effects

namespace Session

variable [Host η] {s : Session σ} {w : World η σ} {host : η} {c : NamedCommand} {label : String}
  {build : Text → Text} {r t : Text} {f : Failure}

/-- The course of a named command: whether it goes through, the world it leaves, the calls of
filters on the way, and what the host is asked to do. -/
structure Course (s : Session σ) (name : String) (w : World η σ) (through : Bool)
    (after : World η σ) (calls : List (Text × Text)) (events : List Event) : Prop where
  run : s.runNamed name w = (through, after)
  account_eq : s.account (.named name) w = ⟨.inr through, calls, events⟩

theorem course_of_observed {name : String} {through through' : Bool} {after : World η σ}
    {seen : World (Observed η) (Logged σ)} (run : s.runNamed name w = (through, after))
    (observed : s.observed.runNamed name w.observed = (through', seen)) :
    s.Course name w through after seen.memory.calls seen.host.events := by
  refine ⟨run, ?_⟩
  simp only [account, answer, perform, run, observed]

theorem prompt_observed (asked : Host.prompt label w.host = (some r, host)) :
    Host.prompt label w.observed.host = (some r, ⟨host, [.prompted label]⟩) := by
  simp only [World.observed, Host.prompt, asked]
  rfl

theorem runNamed_answered (question : c.question? = some (label, build))
    (asked : Host.prompt label w.host = (some r, host)) :
    s.runNamed c.name w =
      let (result, after) := s.execute (build r) ⟨host, w.memory⟩
      let (through, host) := report (result, after.host)
      (through, { after with host }) := by
  simp only [runNamed, NamedCommand.named?_name, question, asked]
  rcases s.execute (build r) ⟨host, w.memory⟩ with ⟨f | o, after⟩
  · rfl
  · rfl

/-- The text made of the answer is refused: no filter is called, and nothing is done but to say
why. -/
structure Refuses (s : Session σ) (name : String) (w : World η σ) (host : η) (label : String)
    (input : Text) (f : Failure) : Prop where
  read : readInput input = .error f
  course : s.Course name w false ⟨Host.say (failureMessage f) host, w.memory⟩ []
    [.prompted label, .said (failureMessage f)]

theorem refuses_of_read (question : c.question? = some (label, build))
    (asked : Host.prompt label w.host = (some r, host)) (read : readInput (build r) = .error f) :
    s.Refuses c.name w host label (build r) f := by
  refine ⟨read, ?_⟩
  have run := runNamed_answered (s := s) question asked
  have observed := runNamed_answered (s := s.observed) question (prompt_observed asked)
  simp only [execute, runOn, read] at run observed
  exact course_of_observed run observed

theorem course_evaluated {d : Command} {e : Evaluation} {m : σ} {through : Bool} {after : η}
    {events : List Event} (question : c.question? = some (label, build))
    (asked : Host.prompt label w.host = (some r, host)) (opened : Host.contents host = .ok t)
    (read : readInput (build r) = .ok d)
    (result : d.evaluate s.filter t t.whole w.memory = (.ok e, m))
    (ended : report (conclude s.config t e host) = (through, after))
    (told : (report (conclude s.config t e (⟨host, [.prompted label]⟩ : Observed η))).2.events =
      .prompted label :: events) :
    s.Course c.name w through ⟨after, m⟩ ((d.walk t t.whole).calls t)
      (.prompted label :: events) := by
  have run := runNamed_answered (s := s) question asked
  have observed := runNamed_answered (s := s.observed) question (prompt_observed asked)
  have seen : Host.contents (⟨host, [.prompted label]⟩ : Observed η) = .ok t := opened
  have logged := d.evaluate_logged s.filter t t.whole ⟨w.memory, []⟩
  simp only [result, List.nil_append] at logged
  simp only [execute, runOn, read, opened, result, ended] at run
  simp only [execute, runOn, read, seen, Session.observed, World.observed, logged] at observed
  rw [← told]
  exact course_of_observed run observed

/-- Whatever the answer to the question for a pattern, no filter is called and the host is not
asked to replace the buffer. If the answer is the source of a pattern, then the text made of it is
read as the command that prints for this pattern, and what it prints is displayed. If it is not,
the text is refused at the delimiter. -/
theorem runNamed_pattern (s : Session σ) (c : PatternCommand)
    (question : (NamedCommand.pattern c).question? = some (label, build))
    (asked : Host.prompt label w.host = (some r, host)) (opened : Host.contents host = .ok t) :
    let name := c.letter.toString
    (s.account (.named name) w).calls = [] ∧
      (∀ e ∈ (s.account (.named name) w).events, e.asksToReplace = false) ∧
      match Pattern.ofSource r with
      | .ok p =>
        let e : Evaluation := { output := c.printed p t }
        p.source = r ∧ readInput (build r) = .ok (c.command p) ∧
          (c.command p).evaluate s.filter t t.whole w.memory = (.ok e, w.memory) ∧
          s.Course name w true ⟨(conclude s.config t e host).2, w.memory⟩ []
            (.prompted label :: displayed s.config e.output)
      | .error e => s.Refuses name w host label (build r) (.malformed ⟨1, .pattern r e⟩) := by
  intro name
  have made : build r = c.query r := by
    cases question
    rfl
  have read := c.readInput_query r
  rw [← made] at read
  cases valid : Pattern.ofSource r with
  | ok p =>
    rw [valid] at read
    have printed := c.evaluate_command p s.filter t w.memory
    -- A command that only prints has no filter to call.
    have none : ((c.command p).walk t t.whole).calls t = [] := by
      rw [c.walk_command, Walk.calls_print]
    let e : Evaluation := { output := c.printed p t }
    have course : s.Course name w true ⟨(conclude s.config t e host).2, w.memory⟩ []
        (.prompted label :: displayed s.config e.output) := by
      rw [← none]
      refine course_evaluated question asked opened read printed (report_conclude_output _ _ _ _) ?_
      rw [report_conclude_output]
      exact events_conclude_output _ _ _ _
    rw [course.account_eq]
    refine ⟨rfl, fun e he => ?_, Pattern.source_of_ofSource valid, read, printed, course⟩
    rcases List.mem_cons.1 he with rfl | he
    · rfl
    · exact displayed_keeps he
  | error e =>
    rw [valid] at read
    have refuses : s.Refuses name w host label (build r) (.malformed ⟨1, .pattern r e⟩) :=
      refuses_of_read question asked read
    rw [refuses.course.account_eq]
    refine ⟨rfl, fun e he => ?_, refuses⟩
    rcases List.mem_cons.1 he with rfl | he
    · rfl
    · rw [List.mem_singleton.1 he]
      rfl

theorem runNamed_pattern_slash :
    let s : Session Nat := ⟨{}, refusing⟩
    let w (answer : String) : World Recording Nat :=
      ⟨{ buffer := some "a/d|no".toList, answers := [some answer.toList] }, 0⟩
    (∃ p : Pattern, p.source = "/d|no".toList ∧
      readInput "x/\\/d|no/p".toList = .ok (.extract false p .print) ∧
      (s.account (.named "x") (w "/d|no")).calls = []) ∧
    ∃ f, (s.account (.named "x") (w "(")).events = [.prompted "x/pattern/: ", .said f] := by
  intro s w
  have printed := runNamed_pattern (w := w "/d|no") s .matching rfl rfl rfl
  have refused := runNamed_pattern (w := w "(") s .matching rfl rfl rfl
  have valid : (Pattern.ofSource "/d|no".toList).isOk = true := by decide +kernel
  have invalid : (Pattern.ofSource "(".toList).isOk = false := by decide +kernel
  refine ⟨?_, ?_⟩
  · obtain ⟨none, -, run⟩ := printed
    generalize Pattern.ofSource "/d|no".toList = compiled at valid run
    cases compiled with
    | ok p =>
      obtain ⟨source, read, -⟩ := run
      exact ⟨p, source, read, none⟩
    | error e => cases valid
  · obtain ⟨-, -, run⟩ := refused
    generalize Pattern.ofSource "(".toList = compiled at invalid run
    cases compiled with
    | ok p => cases invalid
    | error e => exact ⟨_, congrArg Account.events run.course.account_eq⟩

open Command (firstLine otherLines)

/-- An answer to the question for a filter is refused if its first line is blank, and also if more
than blanks follow the line; then the buffer is kept. Every other answer is one filter, which is
called once, with the whole text of the buffer. -/
theorem runNamed_pipe [Host.Storing η] (s : Session σ)
    (question : NamedCommand.pipe.question? = some (label, build))
    (asked : Host.prompt label w.host = (some r, host)) (opened : Host.contents host = .ok t) :
    (Blanks (firstLine r) →
      s.Refuses "pipe" w host label (build r) (.malformed ⟨1, .filterEmpty⟩) ∧
        stored (s.runNamed "pipe" w).2.host = some t) ∧
    (¬Blanks (firstLine r) → ¬Blanks (otherLines r) →
      ∃ n c, s.Refuses "pipe" w host label (build r) (.malformed ⟨n, .trailing c⟩) ∧
        stored (s.runNamed "pipe" w).2.host = some t) ∧
    (¬Blanks (firstLine r) → Blanks (otherLines r) →
      let command := Text.trim (firstLine r)
      let called := s.filter command t w.memory
      readInput (build r) = .ok (.addressed .wholeText (.filter command)) ∧
        ∃ through after events,
          s.Course "pipe" w through ⟨after, called.2⟩ [(command, t)]
            (.prompted label :: events) ∧
          Piped t host called.1 (through, after) events) := by
  have made : build r = Command.pipeline r := by
    cases question
    rfl
  have refused {f : Failure} (read : readInput (build r) = .error f) :
      s.Refuses "pipe" w host label (build r) f ∧
        stored (s.runNamed "pipe" w).2.host = some t := by
    have refuses : s.Refuses "pipe" w host label (build r) f :=
      refuses_of_read question asked read
    rw [refuses.course.run]
    exact ⟨refuses, (Host.Storing.stored_say _ host).trans (stored_of_contents opened)⟩
  -- The first line and what is behind it decide between the three cases.
  refine ⟨fun blank => ?_, fun line more => ?_, fun line single => ?_⟩
  · exact refused (by rw [made, Command.readInput_pipeline_blank blank])
  · obtain ⟨n, c, -, read⟩ := Command.readInput_pipeline_trailing line more
    exact ⟨n, c, refused (by rw [made, read])⟩
  · intro command called
    have read : readInput (build r) = .ok (.addressed .wholeText (.filter command)) := by
      rw [made, Command.readInput_pipeline_filter line single]
    obtain ⟨events, piped, told⟩ := exists_piped s.config opened called.1
      [.prompted label]
    have course := course_evaluated question asked opened read
      (evaluate_filter_whole command s.filter t w.memory) rfl told
    rw [calls_filter_whole] at course
    exact ⟨read, _, _, events, course, piped⟩

theorem runNamed_pipe_lines :
    let s : Session Nat := ⟨{}, refusing⟩
    let w (answer : String) : World Recording Nat :=
      ⟨{ buffer := some ['a'], answers := [some answer.toList] }, 0⟩
    (∃ through after events, s.Course "pipe" (w " yes \n\t") through ⟨after, 1⟩
      [("yes".toList, ['a'])] (.prompted "Pipe through: " :: events)) ∧
    (∃ n c, readInput ",|yes\nd".toList = .error (.malformed ⟨n, .trailing c⟩)) ∧
    stored (s.runNamed "pipe" (w "\nd")).2.host = some ['a'] := by
  intro s w
  have one := runNamed_pipe (w := w " yes \n\t") (r := " yes \n\t".toList) s rfl rfl rfl
  have more := runNamed_pipe (w := w "yes\nd") (r := "yes\nd".toList) s rfl rfl rfl
  have blank := runNamed_pipe (w := w "\nd") (r := "\nd".toList) s rfl rfl rfl
  refine ⟨?_, ?_, ?_⟩
  · obtain ⟨-, through, after, events, course, -⟩ := one.2.2 (by decide) (by decide)
    exact ⟨through, after, events, course⟩
  · obtain ⟨n, c, refuses, -⟩ := more.2.1 (by decide) (by decide)
    exact ⟨n, c, refuses.read⟩
  · exact (blank.1 (by decide)).2

end Session

end StructuralEdit
