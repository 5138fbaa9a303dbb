import StructuralEdit.Proofs.Evaluation.Failures
import StructuralEdit.Proofs.Session.Endings
/-!
All or nothing. A step of a session either puts one text into the buffer, which is the old one
with all changes that its command asks for, or leaves the buffer as it is. It fails before it has
done anything that would have to be undone: a command that cannot be read, that has no buffer or
that finds no match is silent, and changes that cannot be made are preceded by nothing but the
reports of filters that failed.
-/
namespace StructuralEdit

open Host.Storing (stored named)

variable {η σ : Type}

/-- A run of a command on the buffer: its text and the region it is run on, the worlds before and
after it, and its result. -/
structure Execution (η σ : Type) where
  input : Text
  region : Text → Region
  before : World η σ
  result : Result
  after : World η σ

/-- The execution of a step. A named command has one for the answer to its question; without an
answer, and for help, there is none. -/
def Session.execution? [Host η] (s : Session σ) : Task → World η σ → Option (Execution η σ)
  | .execute input, w =>
    some ⟨input, Text.whole, w, (s.execute input w).1, (s.execute input w).2⟩
  | .onRegion input a b, w =>
    some ⟨input, fun t => t.clampRegion a b, w, (s.executeOnRegion input a b w).1,
      (s.executeOnRegion input a b w).2⟩
  | .named name, w =>
    match (NamedCommand.named? name).bind NamedCommand.question? with
    | none => none
    | some (label, build) =>
      match Host.prompt label w.host with
      | (none, _) => none
      | (some answer, host) =>
        let w : World η σ := { w with host }
        some ⟨build answer, Text.whole, w, (s.execute (build answer) w).1,
          (s.execute (build answer) w).2⟩

def Session.executions [Host η] (s : Session σ) : List Task → World η σ → List (Execution η σ)
  | [], _ => []
  | task :: tasks, w => (s.execution? task w).toList ++ s.executions tasks (s.perform task w)

namespace Execution

/-- The buffer had the text `t` before, and the evaluation of the command on it was `e`. -/
def Evaluates [Host η] (s : Session σ) (x : Execution η σ) (t : Text) (e : Evaluation) : Prop :=
  ∃ c, readInput x.input = .ok c ∧ Host.contents x.before.host = .ok t ∧
    c.evaluate s.filter t (x.region t) x.before.memory = (.ok e, x.after.memory)

def hasChanged (x : Execution η σ) : Bool :=
  match x.result with
  | .ok (.changed _) => true
  | _ => false

/-- What an execution on an observed host has done when it fails. If the command cannot be read or
there is no buffer, nothing at all: no message has been sent and no filter has run. If a pattern
is not found, no message has been sent. If the changes conflict or the buffer cannot be replaced,
the filters that failed have been reported. -/
def Spares [Host η] (s : Session σ) (x : Execution (Observed η) σ) : Failure → Prop
  | .malformed _ | .emptyCommand | .noBuffer => x.after = x.before
  | .notFound _ => x.after.host = x.before.host
  | .conflict why => ∃ t e, x.Evaluates s t e ∧ e.apply t = .error (.conflict why) ∧
      x.after.host.events = x.before.host.events ++ reports e
  | .io _ => ∃ t e u, x.Evaluates s t e ∧ e.apply t = .ok u ∧
      x.after.host.events = x.before.host.events ++ reports e ++ [.refused u]
  | .filter _ _ => False

/-- The ways an execution can end: early, by a pattern that is not found, or with an effect. -/
inductive Sound [Host η] [Host.Storing η] (s : Session σ) (x : Execution (Observed η) σ) : Prop
  | rejected {f : Failure} : f = .emptyCommand ∨ f = .noBuffer ∨ (∃ e, f = .malformed e) →
      x.result = .error f → x.after = x.before → Sound s x
  | notFound {source : Text} : x.result = .error (.notFound source) →
      x.after.host = x.before.host → Sound s x
  | evaluated {t : Text} {e : Evaluation} : x.Evaluates s t e → stored x.before.host = some t →
      Ends t e x.before.host (x.result, x.after.host) → Sound s x

end Execution

theorem readInput_error {input : Text} {f : Failure} (h : readInput input = .error f) :
    f = .emptyCommand ∨ ∃ e, f = .malformed e := by
  unfold readInput at h
  dsimp only at h
  split at h
  · exact Or.inl (Except.error.inj h).symm
  · split at h
    · cases h
    · next e _ => exact Or.inr ⟨e, (Except.error.inj h).symm⟩

/-- A run goes the same way whatever effect may follow. Either there is no command or no buffer, or
the evaluation fails, or it comes to an end and its effect follows. -/
theorem Session.runOn_cases [Host η] (s : Session σ) (input : Text) (region : Text → Region)
    (w : World η σ) :
    (∃ f, (readInput input = .error f ∨ Host.contents w.host = .error f) ∧
      ∀ finish, s.runOn input region finish w = (.error f, w)) ∨
    ∃ c t, readInput input = .ok c ∧ Host.contents w.host = .ok t ∧
      ((∃ f memory, c.evaluate s.filter t (region t) w.memory = (.error f, memory) ∧
        ∀ finish, s.runOn input region finish w = (.error f, { w with memory })) ∨
      ∃ e memory, c.evaluate s.filter t (region t) w.memory = (.ok e, memory) ∧
        ∀ finish, s.runOn input region finish w =
          ((finish t e w.host).1, ⟨(finish t e w.host).2, memory⟩)) := by
  cases read : readInput input with
  | error f => exact Or.inl ⟨f, Or.inl rfl, fun finish => by simp only [runOn, read]⟩
  | ok c =>
    cases opened : Host.contents w.host with
    | error f => exact Or.inl ⟨f, Or.inr rfl, fun finish => by simp only [runOn, read, opened]⟩
    | ok t =>
      refine Or.inr ⟨c, t, rfl, rfl, ?_⟩
      rcases result : c.evaluate s.filter t (region t) w.memory with ⟨f | e, memory⟩
      · exact Or.inl ⟨f, memory, rfl, fun finish => by simp only [runOn, read, opened, result]⟩
      · exact Or.inr ⟨e, memory, rfl, fun finish => by simp only [runOn, read, opened, result]⟩

open Observed (Extends extends_say extends_prompt extends_present)

section Steps

variable [Host η] [Host.Storing η] {s : Session σ} {w : World (Observed η) σ}
  {x : Execution (Observed η) σ}

theorem Session.runOn_sound (input : Text) (region : Text → Region)
    {finish : Text → Evaluation → Observed η → Result × Observed η}
    (ends : ∀ t e h, Ends t e h (finish t e h)) :
    Execution.Sound s ⟨input, region, w, (s.runOn input region finish w).1,
      (s.runOn input region finish w).2⟩ := by
  rcases s.runOn_cases input region w with ⟨f, early, run⟩ |
    ⟨c, t, read, opened, ⟨f, memory, result, run⟩ | ⟨e, memory, result, run⟩⟩
  · rw [run]
    refine .rejected ?_ rfl rfl
    rcases early with unread | closed
    · rcases readInput_error unread with empty | malformed
      · exact Or.inl empty
      · exact Or.inr (Or.inr malformed)
    · rcases Host.Storing.contents_cases w.host with none | ⟨t, -, opened⟩
      · exact Or.inr (Or.inl (Except.error.inj (closed.symm.trans none)))
      · rw [closed] at opened
        cases opened
  · rw [run]
    obtain ⟨source, rfl⟩ := Command.evaluate_error result
    exact .notFound rfl rfl
  · rw [run]
    have storing : stored w.host = some t := by
      rcases Host.Storing.contents_cases w.host with none | ⟨u, storing, found⟩
      · rw [opened] at none
        cases none
      · rw [storing, Except.ok.inj (found.symm.trans opened)]
    exact .evaluated ⟨c, read, opened, result⟩ storing (ends t e w.host)

theorem Session.execution?_sound {task : Task} (h : s.execution? task w = some x) :
    x.Sound s := by
  cases task with
  | execute input =>
    cases h
    exact runOn_sound input Text.whole (conclude_ends s.config)
  | onRegion input a b =>
    cases h
    exact runOn_sound input _ (concludeOnRegion_ends s.config)
  | named name =>
    rw [execution?] at h
    split at h
    · cases h
    · split at h
      · cases h
      · cases h
        exact runOn_sound _ Text.whole (conclude_ends s.config)

/-- A step without an execution does not put a text into the buffer. Around an execution, it only
asks its question and says what went wrong. -/
theorem Session.perform_cases (s : Session σ) (task : Task) (w : World (Observed η) σ) :
    (s.execution? task w = none ∧
      ∃ events, Extends w.host (s.perform task w).host events ∧ written events = []) ∨
    ∃ x asked told, s.execution? task w = some x ∧ Quiet asked ∧ Quiet told ∧
      Extends w.host x.before.host asked ∧ Extends x.after.host (s.perform task w).host told := by
  cases task with
  | execute input => exact Or.inr ⟨_, [], [], rfl, Quiet.nil, Quiet.nil, .refl _, .refl _⟩
  | onRegion input a b => exact Or.inr ⟨_, [], [], rfl, Quiet.nil, Quiet.nil, .refl _, .refl _⟩
  | named name =>
    simp only [execution?, perform, runNamed]
    cases NamedCommand.named? name with
    | none => exact Or.inl ⟨rfl, _, extends_say _ w.host, rfl⟩
    | some c =>
      simp only [Option.bind_some]
      rcases c.question? with _ | ⟨label, build⟩
      · exact Or.inl ⟨rfl, _, (extends_present _ _ w.host).trans (extends_say _ _), rfl⟩
      · have asked := extends_prompt label w.host
        dsimp only
        rcases prompted : Host.prompt label w.host with ⟨_ | answer, host⟩
        · rw [prompted] at asked
          exact Or.inl ⟨rfl, _, asked.trans (extends_say "Cancelled" host), rfl⟩
        · rw [prompted] at asked
          dsimp only
          rcases result : s.execute (build answer) { w with host } with ⟨f | o, after⟩
          · exact Or.inr ⟨_, _, _, rfl, .single rfl rfl, .single rfl rfl, asked,
              extends_say _ after.host⟩
          · exact Or.inr ⟨_, _, _, rfl, .single rfl rfl, .nil, asked, .refl after.host⟩

end Steps

namespace Execution

variable [Host η] [Host.Storing η] {s : Session σ} {x : Execution (Observed η) σ}

theorem Sound.of_changed {n : Nat} (sound : x.Sound s) (h : x.result = .ok (.changed n)) :
    ∃ t e u events, x.Evaluates s t e ∧ stored x.before.host = some t ∧ e.apply t = .ok u ∧
      n = e.changes.length ∧ Extends x.before.host x.after.host events ∧ written events = [u] := by
  cases sound with
  | rejected _ failed _ =>
    rw [failed] at h
    cases h
  | notFound failed _ =>
    rw [failed] at h
    cases h
  | evaluated ran storing ends =>
    rw [h] at ends
    cases ends with
    | changed made extended one => exact ⟨_, _, _, _, ran, storing, made, rfl, extended, one⟩
    | kept _ other _ _ => exact absurd rfl (other n)

theorem Sound.of_not_changed (sound : x.Sound s) (h : ∀ n, x.result ≠ .ok (.changed n)) :
    ∃ events, Extends x.before.host x.after.host events ∧ written events = [] := by
  cases sound with
  | rejected _ _ same =>
    rw [same]
    exact ⟨[], .refl _, rfl⟩
  | notFound _ same =>
    rw [same]
    exact ⟨[], .refl _, rfl⟩
  | evaluated ran storing ends =>
    generalize result : x.result = r at ends
    cases ends with
    | changed => exact absurd result (h _)
    | kept _ _ extended zero => exact ⟨_, extended, zero⟩
    | conflict _ reported => exact ⟨_, reported, written_reports _⟩
    | refused _ extended =>
      refine ⟨_, extended, ?_⟩
      rw [written_append, written_reports]
      rfl

theorem Sound.of_unchanged {o : Outcome} (sound : x.Sound s) (h : x.result = .ok o)
    (other : ∀ n, o ≠ .changed n) : ∃ t e, x.Evaluates s t e ∧ e.hasChanges = false := by
  cases sound with
  | rejected _ failed _ =>
    rw [failed] at h
    cases h
  | notFound failed _ =>
    rw [failed] at h
    cases h
  | evaluated ran _ ends =>
    rw [h] at ends
    cases ends with
    | changed => exact absurd rfl (other _)
    | kept unchanged => exact ⟨_, _, ran, unchanged⟩

theorem Sound.of_error {f : Failure} (sound : x.Sound s) (h : x.result = .error f) :
    named x.after.host = named x.before.host ∧ x.Spares s f := by
  cases sound with
  | rejected why failed same =>
    rw [failed] at h
    cases h
    rw [same]
    rcases why with rfl | rfl | ⟨e, rfl⟩
    · exact ⟨rfl, same⟩
    · exact ⟨rfl, same⟩
    · exact ⟨rfl, same⟩
  | notFound failed same =>
    rw [failed] at h
    cases h
    rw [same]
    exact ⟨rfl, same⟩
  | evaluated ran storing ends =>
    rw [h] at ends
    cases ends with
    | conflict failed reported =>
      exact ⟨reported.named_eq fun _ => reports_isPresented, _, _, ran, failed,
        reported.events_eq⟩
    | refused made extended =>
      refine ⟨extended.named_eq fun event he => ?_, _, _, _, ran, made, ?_⟩
      · rcases List.mem_append.1 he with reported | last
        · exact reports_isPresented reported
        · rw [List.mem_singleton.1 last]
          rfl
      · rw [extended.events_eq, List.append_assoc]

end Execution

/-- A step that puts one text into the buffer or leaves the buffer as it is. It succeeds without
a change only if its command asks for none. If its execution fails, the named buffers are left as
well, and the execution spares what its failure says. -/
structure Session.AllOrNothing [Host η] [Host.Storing η] (s : Session σ) (task : Task)
    (w : World (Observed η) σ) : Prop where
  changed : ∀ x n, s.execution? task w = some x → x.result = .ok (.changed n) →
    ∃ t e u, x.Evaluates s t e ∧ stored w.host = some t ∧ e.apply t = .ok u ∧
      n = e.changes.length ∧ stored (s.perform task w).host = some u ∧
      written (s.perform task w).host.events = written w.host.events ++ [u]
  unchanged : (∀ x n, s.execution? task w = some x → x.result ≠ .ok (.changed n)) →
    stored (s.perform task w).host = stored w.host ∧
      written (s.perform task w).host.events = written w.host.events
  kept : ∀ x o, s.execution? task w = some x → x.result = .ok o → (∀ n, o ≠ .changed n) →
    ∃ t e, x.Evaluates s t e ∧ e.hasChanges = false
  failed : ∀ x f, s.execution? task w = some x → x.result = .error f →
    stored (s.perform task w).host = stored w.host ∧
      named (s.perform task w).host = named w.host ∧ x.Spares s f

variable [Host η] [Host.Storing η]

theorem Session.perform_all_or_nothing (s : Session σ) (task : Task) (w : World (Observed η) σ) :
    s.AllOrNothing task w := by
  rcases s.perform_cases task w with ⟨idle, events, extended, zero⟩ |
    ⟨x, asked, told, ran, quietAsked, quietTold, before, after⟩
  · have none : ∀ x, s.execution? task w ≠ some x := by
      intro x ran
      rw [idle] at ran
      cases ran
    exact ⟨fun x _ ran => absurd ran (none x), fun _ => extended.of_written_eq_nil zero,
      fun x _ ran => absurd ran (none x), fun x _ ran => absurd ran (none x)⟩
  · have sound : x.Sound s := execution?_sound ran
    -- Only the execution itself can put a text into the buffer: what is around it is quiet.
    have around (events : List Event) : written (asked ++ events ++ told) = written events := by
      rw [written_append, written_append, quietAsked.written_eq, quietTold.written_eq,
        List.nil_append, List.append_nil]
    have kept (h : ∀ n, x.result ≠ .ok (.changed n)) :
        stored (s.perform task w).host = stored w.host ∧
          written (s.perform task w).host.events = written w.host.events := by
      obtain ⟨events, extended, zero⟩ := sound.of_not_changed h
      exact ((before.trans extended).trans after).of_written_eq_nil ((around events).trans zero)
    refine ⟨?_, ?_, ?_, ?_⟩
    · intro y n hy result
      obtain rfl : x = y := Option.some.inj (ran.symm.trans hy)
      obtain ⟨t, e, u, events, evaluates, storing, made, count, extended, one⟩ :=
        sound.of_changed result
      have whole := (before.trans extended).trans after
      have puts : written (asked ++ events ++ told) = [u] := (around events).trans one
      have opened := (before.of_written_eq_nil quietAsked.written_eq).1
      refine ⟨t, e, u, evaluates, opened.symm.trans storing, made, count, ?_, ?_⟩
      · rw [whole.stored_eq, puts]
        rfl
      · rw [whole.events_eq, written_append, puts]
    · intro h
      exact kept fun n => h x n ran
    · intro y o hy result
      obtain rfl : x = y := Option.some.inj (ran.symm.trans hy)
      exact sound.of_unchanged result
    · intro y f hy result
      obtain rfl : x = y := Option.some.inj (ran.symm.trans hy)
      obtain ⟨hidden, spares⟩ := sound.of_error result
      have failed : ∀ n, x.result ≠ .ok (.changed n) := by
        intro n changed
        rw [result] at changed
        cases changed
      refine ⟨(kept failed).1, ?_, spares⟩
      rw [after.named_eq_of_quiet quietTold, hidden, before.named_eq_of_quiet quietAsked]

section Runs

variable {s : Session σ} {task : Task} {w : World (Observed η) σ}

theorem Session.AllOrNothing.stored_eq {start : Option Text} (step : s.AllOrNothing task w)
    (h : stored w.host = (written w.host.events).getLast?.or start) :
    stored (s.perform task w).host =
      (written (s.perform task w).host.events).getLast?.or start := by
  by_cases changed : ∃ x n, s.execution? task w = some x ∧ x.result = .ok (.changed n)
  · obtain ⟨x, n, ran, result⟩ := changed
    obtain ⟨_, _, u, _, _, _, _, storing, puts⟩ := step.changed x n ran result
    rw [storing, puts, List.getLast?_concat]
    rfl
  · obtain ⟨storing, puts⟩ := step.unchanged fun x n ran result => changed ⟨x, n, ran, result⟩
    rw [storing, puts, h]

theorem Session.AllOrNothing.length_written (step : s.AllOrNothing task w) :
    (written (s.perform task w).host.events).length =
      (written w.host.events).length +
        (s.execution? task w).toList.countP Execution.hasChanged := by
  by_cases changed : ∃ x n, s.execution? task w = some x ∧ x.result = .ok (.changed n)
  · obtain ⟨x, n, ran, result⟩ := changed
    obtain ⟨_, _, u, _, _, _, _, _, puts⟩ := step.changed x n ran result
    have counts : x.hasChanged = true := by rw [Execution.hasChanged, result]
    rw [puts, ran, List.length_append, Option.toList_some, List.countP_cons_of_pos counts]
    rfl
  · obtain ⟨_, puts⟩ := step.unchanged fun x n ran result => changed ⟨x, n, ran, result⟩
    have none : (s.execution? task w).toList.countP Execution.hasChanged = 0 := by
      rw [List.countP_eq_zero]
      intro x hx counts
      have ran := Option.mem_toList.1 hx
      unfold Execution.hasChanged at counts
      split at counts
      · next n result => exact changed ⟨x, n, ran, result⟩
      · cases counts
    rw [puts, none, Nat.add_zero]

theorem Session.performAll_stored {start : Option Text} (tasks : List Task)
    (h : stored w.host = (written w.host.events).getLast?.or start) :
    stored (s.performAll tasks w).host =
      (written (s.performAll tasks w).host.events).getLast?.or start := by
  induction tasks generalizing w with
  | nil => exact h
  | cons task tasks ih => exact ih ((s.perform_all_or_nothing task w).stored_eq h)

theorem Session.performAll_length_written (tasks : List Task) :
    (written (s.performAll tasks w).host.events).length =
      (written w.host.events).length + (s.executions tasks w).countP Execution.hasChanged := by
  induction tasks generalizing w with
  | nil => rfl
  | cons task tasks ih =>
    rw [performAll, ih, (s.perform_all_or_nothing task w).length_written, executions,
      List.countP_append, Nat.add_assoc]

end Runs

/-- All or nothing over a whole session. After any steps, the next one puts one text into the
buffer, with all changes made, or leaves it as it is. As many texts were put into the buffer as
executions said so, and it has the last of them. That the session is looked at changes nothing. -/
theorem Session.performAll_all_or_nothing (s : Session σ) (tasks : List Task) (task : Task)
    (w : World η σ) :
    s.observed.AllOrNothing task (s.observed.performAll tasks w.observed) ∧
      (written (s.observed.performAll tasks w.observed).host.events).length =
        (s.observed.executions tasks w.observed).countP Execution.hasChanged ∧
      stored (s.observed.performAll tasks w.observed).host =
        (written (s.observed.performAll tasks w.observed).host.events).getLast?.or
          (stored w.host) ∧
      (s.observed.performAll tasks w.observed).erase = s.performAll tasks w := by
  refine ⟨perform_all_or_nothing _ task _, ?_, ?_, performAll_erase s tasks w.observed⟩
  · have count := performAll_length_written (s := s.observed) (w := w.observed) tasks
    exact count.trans (Nat.zero_add _)
  · exact performAll_stored (s := s.observed) (w := w.observed) tasks rfl

end StructuralEdit
