import StructuralEdit.Proofs.Session.Atomicity
import StructuralEdit.Proofs.Session.Reports
/-!
The same command on two scopes. When the scopes mean the same region of the buffer, the runs
evaluate alike, end alike and do the same to the buffer. They say the same, too, up to the output,
which each displays in its own way at the end. So it is for the whole buffer and for two places
that have all of it between them.
-/
namespace StructuralEdit

open Host.Storing (stored)

variable {η σ : Type}

namespace Scope

def displays (config : Config) (e : Evaluation) (scope : Scope) : Result → List Event
  | .ok (.changed _) => scope.adds config e
  | .ok (.printed _) => scope.shows config e
  | _ => []

theorem written_displays (config : Config) (e : Evaluation) (scope : Scope) (result : Result) :
    written (scope.displays config e result) = [] := by
  have shows : written (scope.shows config e) = [] := by
    cases scope with
    | between a b => rfl
    | whole =>
      rw [Scope.shows]
      split
      · rfl
      · rfl
  have adds : written (scope.adds config e) = [] := by
    cases scope with
    | whole => rfl
    | between a b =>
      rw [Scope.adds]
      split
      · rfl
      · rfl
  unfold displays
  split
  · exact adds
  · exact shows
  · rfl

end Scope

section Sequels

variable {config : Config} {scope : Scope} {t : Text} {e : Evaluation} {result : Result}
  {events later : List Event}

theorem Sequel.in_scope (sequel : Sequel config scope t e result events) :
    ∃ deed, events = deed ++ scope.displays config e result ∧
      ∀ other : Scope, Sequel config other t e result (deed ++ other.displays config e result) := by
  cases sequel with
  | conflict changes conflict => exact ⟨[], rfl, fun _ => .conflict changes conflict⟩
  | refused changes made => exact ⟨_, (List.append_nil _).symm, fun _ => .refused changes made⟩
  | changed changes made => exact ⟨_, rfl, fun _ => .changed changes made⟩
  | printed kept prints => exact ⟨[], rfl, fun _ => .printed kept prints⟩
  | noMatches kept silent none =>
    exact ⟨_, (List.append_nil _).symm, fun _ => .noMatches kept silent none⟩
  | filtersFailed kept silent some => exact ⟨[], rfl, fun _ => .filtersFailed kept silent some⟩

theorem Sequel.unique (one : Sequel config scope t e result events)
    (other : Sequel config scope t e result later) : events = later := by
  cases one with
  | conflict _ conflict =>
    cases other with
    | conflict => rfl
    | refused _ made =>
      rw [conflict] at made
      cases made
  | refused _ made =>
    cases other with
    | conflict _ conflict =>
      rw [conflict] at made
      cases made
    | refused _ made' => rw [Except.ok.inj (made.symm.trans made')]
  | changed _ made =>
    cases other with
    | changed _ made' => rw [Except.ok.inj (made.symm.trans made')]
  | printed => cases other with | printed => rfl
  | noMatches => cases other with | noMatches => rfl
  | filtersFailed => cases other with | filtersFailed => rfl

end Sequels

section Effects

variable [Host η] (config : Config) (t : Text) (e : Evaluation)

theorem concludeOnRegion_fst (h : η) :
    (concludeOnRegion config t e h).1 = (conclude config t e h).1 := by
  unfold concludeOnRegion conclude
  dsimp only
  split
  · split
    · next done => rw [done]
    · next done => rw [done]
  · split
    · rfl
    · rfl

theorem Scope.finish_fst (one other : Scope) (h : η) :
    (one.finish config t e h).1 = (other.finish config t e h).1 := by
  have whole : ∀ scope : Scope, (scope.finish config t e h).1 = (conclude config t e h).1 := by
    intro scope
    cases scope with
    | whole => rfl
    | between a b => exact concludeOnRegion_fst config t e h
  rw [whole one, whole other]

theorem Scope.finish_alike (one other : Scope) (h : Observed η) :
    ∃ deed,
      let result := (one.finish config t e h).1
      Sequel config one t e result (deed ++ one.displays config e result) ∧
        (one.finish config t e h).2.events =
          h.events ++ (reports e ++ deed ++ one.displays config e result) ∧
        (other.finish config t e h).2.events =
          h.events ++ (reports e ++ deed ++ other.displays config e result) := by
  obtain ⟨events, told, sequel⟩ := one.finish_sequel config t e h
  obtain ⟨later, told', sequel'⟩ := other.finish_sequel config t e h
  obtain ⟨deed, rfl, elsewhere⟩ := sequel.in_scope
  rw [Scope.finish_fst config t e other one] at sequel'
  obtain rfl := sequel'.unique (elsewhere other)
  refine ⟨deed, sequel, ?_, ?_⟩
  · rw [told, List.append_assoc, List.append_assoc]
  · rw [told', List.append_assoc, List.append_assoc]

theorem Scope.stored_finish [Host.Storing η] (scope : Scope) {h : Observed η} {events : List Event}
    (told : (scope.finish config t e h).2.events = h.events ++ events) :
    stored (scope.finish config t e h).2 = (written events).getLast?.or (stored h) := by
  have ended : Ends t e h (scope.finish config t e h) := by
    cases scope with
    | whole => exact conclude_ends config t e h
    | between a b => exact concludeOnRegion_ends config t e h
  obtain ⟨done, extended⟩ := ended.extends
  have same : done = events := List.append_cancel_left (extended.events_eq.symm.trans told)
  rw [extended.stored_eq, same]

end Effects

namespace Session

variable [Host η] {s : Session σ} {input : Text} {w : World η σ}

theorem runIn_transcribed (s : Session σ) (input : Text) (scope : Scope) (w : World η σ) :
    s.runIn input scope w =
      let run := s.transcribed.runIn input scope w.transcribed
      (run.1, ⟨run.2.host.host, run.2.memory.state⟩) :=
  runIn_of_transcribed rfl

theorem runOn_congr {region other : Text → Region}
    (same : ∀ t, Host.contents w.host = .ok t → region t = other t)
    (finish : Text → Evaluation → η → Result × η) :
    s.runOn input region finish w = s.runOn input other finish w := by
  unfold runOn
  split
  · rfl
  · split
    · rfl
    · next t opened => rw [same t opened]

end Session

/-- Two runs of a command that end alike: with the same result, the same calls of filters and the
same answers to them, the same text in the buffer, and the same texts put into it on the way. -/
structure EndAlike [Host η] [Host.Storing η]
    (x y : Result × World (Observed η) (Transcript σ)) : Prop where
  result : x.1 = y.1
  memory : x.2.memory = y.2.memory
  stored_eq : stored x.2.host = stored y.2.host
  written_eq : written x.2.host.events = written y.2.host.events

namespace Session

variable [Host η] [Host.Storing η]

/-- What two runs of a command have told their hosts. If there was no evaluation, that is nothing.
Else it is the same up to the display of the output: first the reports, then what follows from the
evaluation for their result. -/
def ToldAlike (s : Session σ) (input : Text) (one other : Scope) (w : World η σ)
    (x y : Result × World (Observed η) (Transcript σ)) : Prop :=
  ((∃ f, x.1 = .error f) ∧ x.2.host.events = [] ∧ y.2.host.events = []) ∨
  ∃ t e deed,
    Execution.Evaluates s.transcribed ⟨input, one.region, w.transcribed, x.1, x.2⟩ t e ∧
      Sequel s.config one t e x.1 (deed ++ one.displays s.config e x.1) ∧
      x.2.host.events = reports e ++ deed ++ one.displays s.config e x.1 ∧
      y.2.host.events = reports e ++ deed ++ other.displays s.config e x.1

theorem runIn_alike (s : Session σ) (input : Text) (w : World η σ) {one other : Scope}
    (same : ∀ t, Host.contents w.host = .ok t → one.region t = other.region t) :
    let x := s.transcribed.runIn input one w.transcribed
    let y := s.transcribed.runIn input other w.transcribed
    EndAlike x y ∧ s.ToldAlike input one other w x y := by
  intro x y
  have hx : x = s.transcribed.runOn input one.region (one.finish s.config) w.transcribed :=
    s.transcribed.runIn_eq_runOn input one w.transcribed
  have hy : y = s.transcribed.runOn input one.region (other.finish s.config) w.transcribed := by
    rw [runOn_congr (w := w.transcribed) same]
    exact s.transcribed.runIn_eq_runOn input other w.transcribed
  -- It is one run up to the effect, where the scopes first make a difference.
  rcases s.transcribed.runOn_cases input one.region w.transcribed with ⟨f, -, run⟩ |
    ⟨c, t, read, opened, ⟨f, memory, -, run⟩ | ⟨e, memory, evaluated, run⟩⟩
  · rw [run] at hx hy
    rw [hx, hy]
    exact ⟨⟨rfl, rfl, rfl, rfl⟩, Or.inl ⟨⟨f, rfl⟩, rfl, rfl⟩⟩
  · rw [run] at hx hy
    rw [hx, hy]
    exact ⟨⟨rfl, rfl, rfl, rfl⟩, Or.inl ⟨⟨f, rfl⟩, rfl, rfl⟩⟩
  · rw [run] at hx hy
    obtain ⟨deed, sequel, told, told'⟩ :=
      Scope.finish_alike s.config t e one other w.transcribed.host
    have put : written (one.finish s.config t e w.transcribed.host).2.events =
        written (other.finish s.config t e w.transcribed.host).2.events := by
      simp only [told, told', written_append, Scope.written_displays]
    have kept : stored (one.finish s.config t e w.transcribed.host).2 =
        stored (other.finish s.config t e w.transcribed.host).2 := by
      rw [one.stored_finish s.config t e told, other.stored_finish s.config t e told']
      simp only [written_append, Scope.written_displays]
    rw [hx, hy]
    refine ⟨⟨Scope.finish_fst s.config t e one other _, rfl, kept, put⟩, Or.inr ?_⟩
    exact ⟨t, e, deed, ⟨c, read, opened, evaluated⟩, sequel, told, told'⟩

/-- The whole buffer, and two places with all of it between them. With the same filters, which may
remember what they like, a command gives the same result or fails with the same failure, calls the
filters alike, leaves the same buffer after the same replacements, and says the same but for the
way it displays the output. -/
theorem executeOnRegion_spanning (s : Session σ) (input : Text) (w : World η σ) {a b : Nat}
    (low : min a b = 0) (high : ∀ t, Host.contents w.host = .ok t → t.size ≤ max a b) :
    let x := s.transcribed.execute input w.transcribed
    let y := s.transcribed.executeOnRegion input a b w.transcribed
    s.execute input w = (x.1, ⟨x.2.host.host, x.2.memory.state⟩) ∧
      s.executeOnRegion input a b w = (y.1, ⟨y.2.host.host, y.2.memory.state⟩) ∧
      EndAlike x y ∧ s.ToldAlike input .whole (.between a b) w x y := by
  intro x y
  have same : ∀ t, Host.contents w.host = .ok t →
      Scope.whole.region t = (Scope.between a b).region t :=
    fun t opened => (Text.clampRegion_eq_whole low (high t opened)).symm
  exact ⟨s.runIn_transcribed input .whole w, s.runIn_transcribed input (.between a b) w,
    runIn_alike s input w same⟩

theorem executeOnRegion_spanning_single :
    let input := "\x7b|no\np\nc/b/\x7d".toList
    let x := (transcribed ⟨{}, refusing⟩).execute input single.transcribed
    let y := (transcribed ⟨{}, refusing⟩).executeOnRegion input 7 0 single.transcribed
    EndAlike x y ∧
      x.2.host.events = [.said "Error: pipe command `no` failed: exit status: 1",
        .replaced ['b'], .said "1 change(s) applied"] ∧
      y.2.host.events = x.2.host.events ++ [.said "a"] := by
  intro input x y
  have small : ∀ t, Host.contents single.host = .ok t → t.size ≤ max 7 0 := by
    intro t opened
    cases opened
    decide
  obtain ⟨-, -, alike, -⟩ :=
    executeOnRegion_spanning ⟨{}, refusing⟩ input single (a := 7) (b := 0) (by decide) small
  exact ⟨alike, by decide +kernel, by decide +kernel⟩

end Session

end StructuralEdit
