import StructuralEdit.Proofs.Evaluation.Failures
import StructuralEdit.Proofs.Evaluation.Transcript
import StructuralEdit.Proofs.Session.Endings
/-!
What a command says. When its evaluation comes to an end, each call of a filter that failed is
reported, in the order of the calls, before anything else is said or done. When a pattern is not
found, nothing is said: the failures of filters that were called before are lost.
-/
namespace StructuralEdit

variable {η σ : Type}

/-- What a command is run on: the whole buffer, or what is between two places of it. -/
inductive Scope where
  | whole
  | between (a b : Nat)

namespace Scope

def region : Scope → Text → Region
  | .whole, t => t.whole
  | .between a b, t => t.clampRegion a b

def shows (config : Config) (e : Evaluation) : Scope → List Event
  | .whole =>
    if e.outputLines ≤ config.shortOutputLines then
      [.said (.ofList (dropLastNewline e.output))]
    else
      [.presented config.outputBuffer e.output,
        .said (toString e.outputLines ++ " lines of output")]
  | .between _ _ => [.said (.ofList (summary e.output config.summaryWidth))]

def adds (config : Config) (e : Evaluation) : Scope → List Event
  | .whole => []
  | .between _ _ =>
    if e.output.isEmpty then [] else [.said (.ofList (summary e.output config.summaryWidth))]

def finish [Host η] (config : Config) : Scope → Text → Evaluation → η → Result × η
  | .whole => conclude config
  | .between _ _ => concludeOnRegion config

end Scope

/-- What follows the reports, for each result of a command. -/
inductive Sequel (config : Config) (scope : Scope) (t : Text) (e : Evaluation) :
    Result → List Event → Prop
  | conflict {f : Failure} : e.hasChanges = true → e.apply t = .error f →
      Sequel config scope t e (.error f) []
  | refused {u : Text} {f : Failure} : e.hasChanges = true → e.apply t = .ok u →
      Sequel config scope t e (.error f) [.refused u]
  | changed {u : Text} : e.hasChanges = true → e.apply t = .ok u →
      Sequel config scope t e (.ok (.changed e.changes.length))
        ([.replaced u, .said (toString e.changes.length ++ " change(s) applied")] ++
          scope.adds config e)
  | printed : e.hasChanges = false → e.output ≠ [] →
      Sequel config scope t e (.ok (.printed e.outputLines)) (scope.shows config e)
  | noMatches : e.hasChanges = false → e.output = [] → e.failures = [] →
      Sequel config scope t e (.ok .noMatches) [.said "No matches"]
  | filtersFailed : e.hasChanges = false → e.output = [] → e.failures ≠ [] →
      Sequel config scope t e (.ok (.filtersFailed e.failures.length)) []

section Effects

variable [Host η] {config : Config} {scope : Scope} {t : Text} {e : Evaluation}

theorem events_reportFailures (e : Evaluation) (h : Observed η) :
    (reportFailures e.failures h).events = h.events ++ reports e := by
  have all : ∀ (fs : List Failure) (h : Observed η), (reportFailures fs h).events =
      h.events ++ fs.map fun f => .said (failureMessage f) := by
    intro fs
    induction fs with
    | nil => exact fun h => (List.append_nil h.events).symm
    | cons f fs ih =>
      intro h
      have later := ih (Host.say (failureMessage f) h)
      have first : (Host.say (failureMessage f) h).events =
          h.events ++ [.said (failureMessage f)] := rfl
      rw [first, List.append_assoc] at later
      exact later
  exact all e.failures h

/-- To make changes ends in one of three ways: they conflict and the host is not asked at all, or
the host refuses the new text, or it takes it and is told so. -/
theorem commit_cases (t : Text) (e : Evaluation) (h : Observed η) :
    (∃ f, e.apply t = .error f ∧ commit t e h = (.error f, h)) ∨
    (∃ u f k, e.apply t = .ok u ∧ commit t e h = (.error f, k) ∧
      k.events = h.events ++ [.refused u]) ∨
    ∃ u k, e.apply t = .ok u ∧ commit t e h = (.ok (.changed e.changes.length), k) ∧
      k.events = h.events ++
        [.replaced u, .said (toString e.changes.length ++ " change(s) applied")] := by
  simp only [commit, Host.replace]
  cases made : e.apply t with
  | error f => exact Or.inl ⟨f, rfl, rfl⟩
  | ok u =>
    dsimp only
    rcases Host.replace u h.host with ⟨_ | f, k⟩
    · exact Or.inr (Or.inl ⟨u, _, _, rfl, rfl, rfl⟩)
    · refine Or.inr (Or.inr ⟨u, _, rfl, rfl, ?_⟩)
      simp only [Host.say, List.append_assoc, List.singleton_append]

theorem events_presentOutput (config : Config) (e : Evaluation) (h : Observed η) :
    (presentOutput config e h).events = h.events ++ Scope.whole.shows config e := by
  unfold presentOutput Scope.shows
  dsimp only
  split
  · rfl
  · simp only [Host.say, Host.present, List.append_assoc, List.singleton_append]

theorem events_sayIfAny (u message : Text) (h : Observed η) :
    (sayIfAny u message h).events =
      h.events ++ if u.isEmpty then [] else [.said (.ofList message)] := by
  unfold sayIfAny
  split
  · exact (List.append_nil _).symm
  · rfl

theorem unchanged_sequel {h shown : Observed η} (kept : e.hasChanges = false)
    (told : e.output ≠ [] → shown.events = h.events ++ scope.shows config e) :
    let ended : Result × Observed η :=
      if e.output.isEmpty then nothingHappened e h else (.ok (.printed e.outputLines), shown)
    ∃ events, ended.2.events = h.events ++ events ∧ Sequel config scope t e ended.1 events := by
  by_cases silent : e.output = []
  · rw [if_pos (List.isEmpty_iff.mpr silent), nothingHappened]
    by_cases none : e.failures = []
    · rw [if_pos (List.isEmpty_iff.mpr none)]
      exact ⟨_, rfl, .noMatches kept silent none⟩
    · rw [if_neg fun empty => none (List.isEmpty_iff.mp empty)]
      exact ⟨[], (List.append_nil _).symm, .filtersFailed kept silent none⟩
  · rw [if_neg fun empty => silent (List.isEmpty_iff.mp empty)]
    exact ⟨_, told silent, .printed kept silent⟩

theorem conclude_sequel (config : Config) (t : Text) (e : Evaluation) (h : Observed η) :
    ∃ events, (conclude config t e h).2.events = h.events ++ reports e ++ events ∧
      Sequel config .whole t e (conclude config t e h).1 events := by
  rw [← events_reportFailures, conclude]
  by_cases changes : e.hasChanges = true
  · rw [if_pos changes]
    rcases commit_cases t e (reportFailures e.failures h) with ⟨f, conflict, done⟩ |
      ⟨u, f, k, made, done, told⟩ | ⟨u, k, made, done, told⟩
    · rw [done]
      exact ⟨[], (List.append_nil _).symm, .conflict changes conflict⟩
    · rw [done]
      exact ⟨_, told, .refused changes made⟩
    · rw [done]
      exact ⟨_, told, .changed changes made⟩
  · rw [if_neg changes]
    exact unchanged_sequel (Bool.eq_false_iff.mpr changes) fun _ => events_presentOutput config e _

theorem concludeOnRegion_sequel (config : Config) (a b : Nat) (t : Text) (e : Evaluation)
    (h : Observed η) :
    ∃ events, (concludeOnRegion config t e h).2.events = h.events ++ reports e ++ events ∧
      Sequel config (.between a b) t e (concludeOnRegion config t e h).1 events := by
  rw [← events_reportFailures, concludeOnRegion]
  by_cases changes : e.hasChanges = true
  · rw [if_pos changes]
    rcases commit_cases t e (reportFailures e.failures h) with ⟨f, conflict, done⟩ |
      ⟨u, f, k, made, done, told⟩ | ⟨u, k, made, done, told⟩
    · rw [done]
      exact ⟨[], (List.append_nil _).symm, .conflict changes conflict⟩
    · rw [done]
      exact ⟨_, told, .refused changes made⟩
    · rw [done]
      refine ⟨_, ?_, .changed changes made⟩
      rw [events_sayIfAny, told, List.append_assoc]
      rfl
  · rw [if_neg changes]
    refine unchanged_sequel (Bool.eq_false_iff.mpr changes) fun prints => ?_
    rw [events_sayIfAny, if_neg fun empty => prints (List.isEmpty_iff.mp empty)]
    rfl

theorem Scope.finish_sequel (scope : Scope) (config : Config) (t : Text) (e : Evaluation)
    (h : Observed η) :
    ∃ events, (scope.finish config t e h).2.events = h.events ++ reports e ++ events ∧
      Sequel config scope t e (scope.finish config t e h).1 events := by
  cases scope with
  | whole => exact conclude_sequel config t e h
  | between a b => exact concludeOnRegion_sequel config a b t e h

end Effects

def Session.transcribed (s : Session σ) : Session (Transcript σ) :=
  { s with filter := s.filter.transcribed }

def Filter.Call.report? (k : Filter.Call σ) : Option Event :=
  k.failure?.map fun f => .said (failureMessage f)

theorem reports_ofCalls (t : Text) (steps : List Step) (calls : List (Filter.Call σ)) :
    reports (.ofCalls t steps calls) = calls.filterMap Filter.Call.report? :=
  List.map_filterMap

def World.transcribed (w : World η σ) : World (Observed η) (Transcript σ) :=
  ⟨⟨w.host, []⟩, ⟨w.memory, []⟩⟩

theorem Filter.transcribed_related (filter : Filter σ) :
    Filter.Related (fun (m : Transcript σ) (n : σ) => m.state = n) filter.transcribed filter := by
  rintro m _ rfl command input
  exact ⟨rfl, rfl⟩

namespace Session

variable [Host η]

def runIn (s : Session σ) (input : Text) : Scope → World η σ → Result × World η σ
  | .whole => s.execute input
  | .between a b => s.executeOnRegion input a b

theorem runIn_eq_runOn (s : Session σ) (input : Text) (scope : Scope) (w : World η σ) :
    s.runIn input scope w = s.runOn input scope.region (scope.finish s.config) w := by
  cases scope with
  | whole => rfl
  | between a b => rfl

theorem runIn_of_transcribed {s : Session σ} {input : Text} {scope : Scope} {w : World η σ}
    {result : Result} {h : Observed η} {m : Transcript σ}
    (run : s.transcribed.runIn input scope w.transcribed = (result, ⟨h, m⟩)) :
    s.runIn input scope w = (result, ⟨h.host, m.state⟩) := by
  let R : Observed η → η → Prop := fun h k => h.host = k
  let M : Transcript σ → σ → Prop := fun m n => m.state = n
  have start : World.Related R M w.transcribed w := ⟨rfl, rfl⟩
  have answers : Filter.Related M s.transcribed.filter s.filter :=
    Filter.transcribed_related s.filter
  have same : Agree (World.Related R M) (s.transcribed.runIn input scope w.transcribed)
      (s.runIn input scope w) := by
    cases scope with
    | whole => exact execute_related Observed.related answers rfl start input
    | between a b => exact executeOnRegion_related Observed.related answers rfl start input a b
  rw [run] at same
  obtain ⟨results, host, memory⟩ := same
  exact Prod.ext results.symm (by rw [World.mk.injEq]; exact ⟨host.symm, memory.symm⟩)

/-- A run of a command that can be read, on a host with a buffer, calls the filters of its walk
with the inputs the walk gives them. If the walk comes to its end, the run reports the calls that
failed, each once and in their order, and then does what follows from the evaluation. If the walk
fails, which is for a pattern that is not found, the run ends with this failure, and it has said
nothing, whatever the filters answered. -/
theorem runIn_reports (s : Session σ) (scope : Scope) (w : World η σ) {input t : Text}
    {c : Command} (read : readInput input = .ok c) (opened : Host.contents w.host = .ok t) :
    ∃ (result : Result) (h : Observed η) (m : σ) (calls : List (Filter.Call σ)),
      let walk := c.walk t (scope.region t)
      s.transcribed.runIn input scope w.transcribed = (result, ⟨h, ⟨m, calls⟩⟩) ∧
        s.runIn input scope w = (result, ⟨h.host, m⟩) ∧
        Filter.Calls s.filter w.memory calls m ∧
        calls.map Filter.Call.question = walk.calls t ∧
        (walk.failure = none → ∃ later,
          h.events = calls.filterMap Filter.Call.report? ++ later ∧
            Sequel s.config scope t (.ofCalls t walk.steps calls) result later) ∧
        ∀ f, walk.failure = some f →
          (∃ source, f = .notFound source) ∧ result = .error f ∧ h = ⟨w.host, []⟩ := by
  obtain ⟨calls, m, evaluated, -, chain, asked⟩ :=
    c.evaluate_transcribed s.filter t (scope.region t) ⟨w.memory, []⟩
  have seen : Host.contents w.transcribed.host = .ok t := opened
  cases failure : (c.walk t (scope.region t)).failure with
  -- What the evaluation has collected is dropped before there is an effect.
  | some f =>
    have run : s.transcribed.runIn input scope w.transcribed =
        (.error f, ⟨⟨w.host, []⟩, ⟨m, calls⟩⟩) := by
      rw [runIn_eq_runOn]
      simp only [runOn, read, seen]
      simp only [transcribed, World.transcribed, evaluated, failure, Option.elim_some, List.nil_append]
    refine ⟨_, _, m, calls, run, runIn_of_transcribed run, chain, asked, ?_, ?_⟩
    · intro none
      rw [failure] at none
      cases none
    · intro g some
      rw [failure] at some
      cases some
      exact ⟨Command.walk_failure failure, rfl, rfl⟩
  | none =>
    let e : Evaluation := .ofCalls t (c.walk t (scope.region t)).steps calls
    let ended := scope.finish s.config t e w.transcribed.host
    have run : s.transcribed.runIn input scope w.transcribed =
        (ended.1, ⟨ended.2, ⟨m, calls⟩⟩) := by
      rw [runIn_eq_runOn]
      simp only [runOn, read, seen]
      simp only [transcribed, World.transcribed, evaluated, failure, Option.elim_none]
      rfl
    obtain ⟨later, events, sequel⟩ := scope.finish_sequel s.config t e w.transcribed.host
    refine ⟨_, _, m, calls, run, runIn_of_transcribed run, chain, asked, ?_, ?_⟩
    · intro _
      rw [← reports_ofCalls t (c.walk t (scope.region t)).steps]
      exact ⟨later, events, sequel⟩
    · intro f some
      rw [failure] at some
      cases some

def refusing : Filter Nat := fun command input n =>
  if command = "no".toList then (.error (.filter command "exit status: 1".toList), n + 1)
  else (.ok input, n + 1)

def single : World Recording Nat := ⟨{ buffer := some ['a'] }, 0⟩

theorem runIn_reports_refusing :
    ∃ (result : Result) (h : Observed Recording) (m : Nat) (calls : List (Filter.Call Nat))
        (later : List Event),
      (transcribed ⟨{}, refusing⟩).runIn "\x7b|no\n|yes\n|no\n\x7d".toList .whole
          single.transcribed = (result, ⟨h, ⟨m, calls⟩⟩) ∧
        calls.map Filter.Call.question =
          ["no", "yes", "no"].map (fun command => (command.toList, ['a'])) ∧
        h.events = calls.filterMap Filter.Call.report? ++ later := by
  let c : Command := .group [.filter "no".toList, .filter "yes".toList, .filter "no".toList]
  have read : readInput "\x7b|no\n|yes\n|no\n\x7d".toList = .ok c := rfl
  obtain ⟨result, h, m, calls, run, -, -, asked, reported, -⟩ :=
    runIn_reports ⟨{}, refusing⟩ .whole single read rfl
  obtain ⟨later, events, -⟩ := reported (by decide +kernel)
  exact ⟨result, h, m, calls, later, run, asked.trans (by decide +kernel), events⟩

/-- A filter that fails before a pattern is not found goes unreported. -/
theorem exists_failure_unreported :
    ¬∀ (s : Session Nat) (w : World Recording Nat) (input t : Text) (c : Command),
      readInput input = .ok c → Host.contents w.host = .ok t →
        (s.transcribed.runIn input .whole w.transcribed).2.memory.calls.filterMap
            Filter.Call.report? <+:
          (s.transcribed.runIn input .whole w.transcribed).2.host.events := by
  intro all
  have accepted : (readInput "\x7b|no\n/b/\x7d".toList).isOk = true := by decide +kernel
  have failed : ((transcribed ⟨{}, refusing⟩).runIn "\x7b|no\n/b/\x7d".toList .whole
      single.transcribed).2.memory.calls.filterMap Filter.Call.report? =
        [.said "Error: pipe command `no` failed: exit status: 1"] := by decide +kernel
  have silent : ((transcribed ⟨{}, refusing⟩).runIn "\x7b|no\n/b/\x7d".toList .whole
      single.transcribed).2.host.events = [] := by decide +kernel
  have reported := all ⟨{}, refusing⟩ single "\x7b|no\n/b/\x7d".toList ['a']
  rw [failed, silent, List.prefix_nil] at reported
  generalize readInput "\x7b|no\n/b/\x7d".toList = read at accepted reported
  cases read with
  | error f => cases accepted
  | ok c => cases reported c rfl rfl

end Session

end StructuralEdit
