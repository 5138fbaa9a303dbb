import StructuralEdit.NamedCommand
/-!
Sessions on different hosts. If two hosts answer alike as long as their states are related, and
two filters do as long as what they remember is, then all that a session does gives the same
results on both and leaves related states.
-/
namespace StructuralEdit

variable {α η κ σ τ : Type}

/-- Something to do in a session: to run a command on the whole buffer or between two places of
it, or to run what has a name. -/
inductive Task where
  | execute (input : Text)
  | onRegion (input : Text) (a b : Nat)
  | named (name : String)
  deriving DecidableEq, Repr

namespace Session

variable [Host η]

def perform (s : Session σ) : Task → World η σ → World η σ
  | .execute input, w => (s.execute input w).2
  | .onRegion input a b, w => (s.executeOnRegion input a b w).2
  | .named name, w => (s.runNamed name w).2

def performAll (s : Session σ) : List Task → World η σ → World η σ
  | [], w => w
  | task :: tasks, w => performAll s tasks (s.perform task w)

end Session

def Agree (R : η → κ → Prop) (p : α × η) (q : α × κ) : Prop := p.1 = q.1 ∧ R p.2 q.2

theorem Agree.split {R : η → κ → Prop} {p : α × η} {q : α × κ} (h : Agree R p q) :
    ∃ a x y, p = (a, x) ∧ q = (a, y) ∧ R x y :=
  ⟨p.1, p.2, q.2, rfl, by rw [h.1], h.2⟩

/-- Hosts that cannot be told apart from related states. -/
structure Host.Related [Host η] [Host κ] (R : η → κ → Prop) : Prop where
  contents : ∀ {h k}, R h k → contents h = contents k
  replace : ∀ {h k}, R h k → ∀ t, Agree R (replace t h) (replace t k)
  prompt : ∀ {h k}, R h k → ∀ label, Agree R (prompt label h) (prompt label k)
  present : ∀ {h k}, R h k → ∀ name t, R (present name t h) (present name t k)
  say : ∀ {h k}, R h k → ∀ message, R (say message h) (say message k)

theorem Host.Related.refl [Host η] : Host.Related (Eq : η → η → Prop) where
  contents := by
    rintro h _ rfl
    rfl
  replace := by
    rintro h _ rfl t
    exact ⟨rfl, rfl⟩
  prompt := by
    rintro h _ rfl label
    exact ⟨rfl, rfl⟩
  present := by
    rintro h _ rfl name t
    rfl
  say := by
    rintro h _ rfl message
    rfl

def Filter.Related (M : σ → τ → Prop) (f : Filter σ) (g : Filter τ) : Prop :=
  ∀ {m n}, M m n → ∀ command input, Agree M (f command input m) (g command input n)

structure World.Related (R : η → κ → Prop) (M : σ → τ → Prop) (v : World η σ) (w : World κ τ) :
    Prop where
  host : R v.host w.host
  memory : M v.memory w.memory

section Filters

variable {M : σ → τ → Prop} {f : Filter σ} {g : Filter τ} {m : σ} {n : τ}

theorem Evaluation.ofStep_related (h : Filter.Related M f g) (hm : M m n) (t : Text)
    (step : Step) : Agree M (ofStep f t m step) (ofStep g t n step) := by
  cases step with
  | print r => exact ⟨rfl, hm⟩
  | edit c => exact ⟨rfl, hm⟩
  | filter command r =>
    obtain ⟨a, m', n', hf, hg, related⟩ := (h hm command (t.slice r)).split
    simp only [ofStep, hf, hg]
    cases a with
    | ok u => exact ⟨rfl, related⟩
    | error e => exact ⟨rfl, related⟩

theorem Evaluation.ofSteps_related (h : Filter.Related M f g) (hm : M m n) (t : Text)
    (steps : List Step) : Agree M (ofSteps f t m steps) (ofSteps g t n steps) := by
  induction steps generalizing m n with
  | nil => exact ⟨rfl, hm⟩
  | cons step steps ih =>
    obtain ⟨first, hm⟩ := ofStep_related h hm t step
    obtain ⟨later, hm⟩ := ih hm
    exact ⟨by simp only [ofSteps, first, later], hm⟩

theorem Command.evaluate_related (h : Filter.Related M f g) (hm : M m n) (c : Command) (t : Text)
    (r : Region) : Agree M (c.evaluate f t r m) (c.evaluate g t r n) := by
  obtain ⟨same, hm⟩ := Evaluation.ofSteps_related h hm t (c.walk t r).steps
  exact ⟨by simp only [evaluate, same], hm⟩

end Filters

section Hosts

variable [Host η] [Host κ] {R : η → κ → Prop} {h : η} {k : κ}

theorem reportFailures_related (H : Host.Related R) (hR : R h k) (fs : List Failure) :
    R (reportFailures fs h) (reportFailures fs k) := by
  induction fs generalizing h k with
  | nil => exact hR
  | cons f fs ih => exact ih (H.say hR _)

theorem commit_related (H : Host.Related R) (hR : R h k) (t : Text) (e : Evaluation) :
    Agree R (commit t e h) (commit t e k) := by
  unfold commit
  split
  · exact ⟨rfl, hR⟩
  · next u _ =>
    obtain ⟨a, h', k', hh, hk, related⟩ := (H.replace hR u).split
    rw [hh, hk]
    cases a with
    | ok _ => exact ⟨rfl, H.say related _⟩
    | error f => exact ⟨rfl, related⟩

theorem nothingHappened_related (H : Host.Related R) (hR : R h k) (e : Evaluation) :
    Agree R (nothingHappened e h) (nothingHappened e k) := by
  unfold nothingHappened
  split
  · exact ⟨rfl, H.say hR _⟩
  · exact ⟨rfl, hR⟩

theorem presentOutput_related (H : Host.Related R) (hR : R h k) (config : Config)
    (e : Evaluation) : R (presentOutput config e h) (presentOutput config e k) := by
  unfold presentOutput
  dsimp only
  split
  · exact H.say hR _
  · exact H.say (H.present hR _ _) _

theorem conclude_related (H : Host.Related R) (hR : R h k) (config : Config) (t : Text)
    (e : Evaluation) : Agree R (conclude config t e h) (conclude config t e k) := by
  have reported := reportFailures_related H hR e.failures
  unfold conclude
  dsimp only
  split
  · exact commit_related H reported t e
  · split
    · exact nothingHappened_related H reported e
    · exact ⟨rfl, presentOutput_related H reported config e⟩

theorem sayIfAny_related (H : Host.Related R) (hR : R h k) (t message : Text) :
    R (sayIfAny t message h) (sayIfAny t message k) := by
  unfold sayIfAny
  split
  · exact hR
  · exact H.say hR _

theorem concludeOnRegion_related (H : Host.Related R) (hR : R h k) (config : Config) (t : Text)
    (e : Evaluation) : Agree R (concludeOnRegion config t e h) (concludeOnRegion config t e k) := by
  have reported := reportFailures_related H hR e.failures
  unfold concludeOnRegion
  dsimp only
  split
  · obtain ⟨a, h', k', hh, hk, related⟩ := (commit_related H reported t e).split
    rw [hh, hk]
    cases a with
    | ok o => exact ⟨rfl, sayIfAny_related H related _ _⟩
    | error f => exact ⟨rfl, related⟩
  · split
    · exact nothingHappened_related H reported e
    · exact ⟨rfl, sayIfAny_related H reported _ _⟩

end Hosts

namespace Session

variable [Host η] [Host κ] {R : η → κ → Prop} {M : σ → τ → Prop} {s : Session σ}
  {s' : Session τ} {v : World η σ} {w : World κ τ}

theorem runOn_related (H : Host.Related R) (F : Filter.Related M s.filter s'.filter)
    (hw : World.Related R M v w) (input : Text) (region : Text → Region)
    {finish : Text → Evaluation → η → Result × η} {finish' : Text → Evaluation → κ → Result × κ}
    (same : ∀ t e h k, R h k → Agree R (finish t e h) (finish' t e k)) :
    Agree (World.Related R M) (s.runOn input region finish v)
      (s'.runOn input region finish' w) := by
  unfold runOn
  split
  · exact ⟨rfl, hw⟩
  · next c _ =>
    rw [H.contents hw.host]
    split
    · exact ⟨rfl, hw⟩
    · next t _ =>
      obtain ⟨a, m, n, hv, hw', memory⟩ :=
        (Command.evaluate_related F hw.memory c t (region t)).split
      rw [hv, hw']
      cases a with
      | error f => exact ⟨rfl, hw.host, memory⟩
      | ok e =>
        obtain ⟨result, host⟩ := same t e v.host w.host hw.host
        exact ⟨result, host, memory⟩

variable (H : Host.Related R) (F : Filter.Related M s.filter s'.filter)
  (C : s.config = s'.config) (hw : World.Related R M v w)

include H F C hw

theorem execute_related (input : Text) :
    Agree (World.Related R M) (s.execute input v) (s'.execute input w) := by
  refine runOn_related H F hw input Text.whole fun t e h k hR => ?_
  rw [C]
  exact conclude_related H hR s'.config t e

theorem executeOnRegion_related (input : Text) (a b : Nat) :
    Agree (World.Related R M) (s.executeOnRegion input a b v) (s'.executeOnRegion input a b w) := by
  refine runOn_related H F hw input _ fun t e h k hR => ?_
  rw [C]
  exact concludeOnRegion_related H hR s'.config t e

theorem runNamed_related (name : String) :
    Agree (World.Related R M) (s.runNamed name v) (s'.runNamed name w) := by
  unfold runNamed
  dsimp only
  split
  · exact ⟨rfl, H.say hw.host _, hw.memory⟩
  · split
    · rw [C]
      exact ⟨rfl, H.say (H.present hw.host _ _) _, hw.memory⟩
    · next label build _ =>
      obtain ⟨a, h, k, hv, hw', related⟩ := (H.prompt hw.host label).split
      rw [hv, hw']
      cases a with
      | none => exact ⟨rfl, H.say related _, hw.memory⟩
      | some reply =>
        have before : World.Related R M { v with host := h } { w with host := k } :=
          ⟨related, hw.memory⟩
        obtain ⟨x, v', w', ha, hb, after⟩ := (execute_related H F C before (build reply)).split
        dsimp only
        rw [ha, hb]
        cases x with
        | ok o => exact ⟨rfl, after⟩
        | error f => exact ⟨rfl, H.say after.host _, after.memory⟩

theorem perform_related (task : Task) :
    World.Related R M (s.perform task v) (s'.perform task w) := by
  cases task with
  | execute input => exact (execute_related H F C hw input).2
  | onRegion input a b => exact (executeOnRegion_related H F C hw input a b).2
  | named name => exact (runNamed_related H F C hw name).2

theorem performAll_related (tasks : List Task) :
    World.Related R M (s.performAll tasks v) (s'.performAll tasks w) := by
  induction tasks generalizing v w with
  | nil => exact hw
  | cons task tasks ih => exact ih (perform_related H F C hw task)

end Session

end StructuralEdit
