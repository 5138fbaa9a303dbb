import StructuralEdit.Proofs.Session.Storing
/-!
Accounts of a session. Each task is accounted for by its answer, the calls of filters, and what the
host has been asked to do. On hosts that cannot be told apart the accounts are the same, and what a
host keeps of that which it is asked to do, it has from the accounts.
-/
namespace StructuralEdit

variable {η κ σ : Type}

/-- What can be seen of a task: its result, or whether it went through if it was named, the calls of
filters with their inputs, and what the host was asked to do. -/
structure Account where
  answer : Result ⊕ Bool
  calls : List (Text × Text)
  events : List Event

namespace Session

variable [Host η]

def answer (s : Session σ) : Task → World η σ → Result ⊕ Bool
  | .execute input, w => .inl (s.execute input w).1
  | .onRegion input a b, w => .inl (s.executeOnRegion input a b w).1
  | .named name, w => .inr (s.runNamed name w).1

def account (s : Session σ) (task : Task) (w : World η σ) : Account :=
  let after := s.observed.perform task w.observed
  { answer := s.answer task w, calls := after.memory.calls, events := after.host.events }

def accounts (s : Session σ) : List Task → World η σ → List Account
  | [], _ => []
  | task :: tasks, w => s.account task w :: s.accounts tasks (s.perform task w)

end Session

def eventsOf (accounts : List Account) : List Event := accounts.flatMap Account.events

theorem eventsOf_cons (a : Account) (accounts : List Account) :
    eventsOf (a :: accounts) = a.events ++ eventsOf accounts := List.flatMap_cons

theorem Filter.related_self (filter : Filter σ) : Filter.Related Eq filter filter := by
  rintro m _ rfl command input
  exact ⟨rfl, rfl⟩

section Related

variable [Host η] [Host κ] {R : η → κ → Prop}

theorem Host.Related.observed (H : Host.Related R) :
    Host.Related fun (h : Observed η) (k : Observed κ) =>
      R h.host k.host ∧ h.events = k.events where
  contents := fun ⟨related, _⟩ => H.contents related
  replace := by
    rintro h k ⟨related, events⟩ t
    obtain ⟨answer, h', k', hh, hk, after⟩ := (H.replace related t).split
    simp only [Host.replace, hh, hk, events]
    cases answer with
    | ok _ => exact ⟨rfl, after, rfl⟩
    | error f => exact ⟨rfl, after, rfl⟩
  prompt := by
    rintro h k ⟨related, events⟩ label
    obtain ⟨answer, h', k', hh, hk, after⟩ := (H.prompt related label).split
    simp only [Host.prompt, hh, hk, events]
    exact ⟨rfl, after, rfl⟩
  present := by
    rintro h k ⟨related, events⟩ name t
    exact ⟨H.present related name t, by simp only [Host.present, events]⟩
  say := by
    rintro h k ⟨related, events⟩ message
    exact ⟨H.say related message, by simp only [Host.say, events]⟩

namespace Session

variable {s : Session σ} {v : World η σ} {w : World κ σ}

theorem answer_related (H : Host.Related R) (hw : World.Related R Eq v w) (task : Task) :
    s.answer task v = s.answer task w := by
  have F : Filter.Related Eq s.filter s.filter := Filter.related_self s.filter
  cases task with
  | execute input => exact congrArg _ (execute_related H F rfl hw input).1
  | onRegion input a b => exact congrArg _ (executeOnRegion_related H F rfl hw input a b).1
  | named name => exact congrArg _ (runNamed_related H F rfl hw name).1

theorem account_related (H : Host.Related R) (hw : World.Related R Eq v w) (task : Task) :
    s.account task v = s.account task w := by
  have F : Filter.Related Eq s.observed.filter s.observed.filter :=
    Filter.related_self s.observed.filter
  have start : World.Related (fun (h : Observed η) (k : Observed κ) =>
      R h.host k.host ∧ h.events = k.events) Eq v.observed w.observed :=
    ⟨⟨hw.host, rfl⟩, by rw [World.observed, World.observed, hw.memory]⟩
  obtain ⟨⟨_, events⟩, memory⟩ := perform_related H.observed F rfl start task
  simp only [account, answer_related H hw task, events, memory]

/-- In worlds that cannot be told apart, all tasks have the same accounts. -/
theorem accounts_related (H : Host.Related R) (hw : World.Related R Eq v w) (tasks : List Task) :
    s.accounts tasks v = s.accounts tasks w := by
  induction tasks generalizing v w with
  | nil => rfl
  | cons task tasks ih =>
    have F : Filter.Related Eq s.filter s.filter := Filter.related_self s.filter
    have after := perform_related H F rfl hw task
    rw [accounts, accounts, account_related H hw task, ih after]

end Session

end Related

section Kept

variable [Host η] {T : η → List Event → η → Prop}

/-- What hosts keep of events: `T h events k` says that `k` has what `h` has and then the events. -/
structure Host.Keeping (T : η → List Event → η → Prop) : Prop where
  refl : ∀ h, T h [] h
  trans : ∀ {h k l first later}, T h first k → T k later l → T h (first ++ later) l
  replaced : ∀ {t h k}, replace t h = (.ok (), k) → T h [.replaced t] k
  refused : ∀ {t h f k}, replace t h = (.error f, k) → T h [.refused t] k
  prompted : ∀ label h, T h [.prompted label] (prompt label h).2
  presented : ∀ name t h, T h [.presented name t] (present name t h)
  said : ∀ message h, T h [.said message] (say message h)

theorem Host.Keeping.related (K : Host.Keeping T) (start : η) :
    Host.Related fun (h k : Observed η) => h = k ∧ T start h.events h.host where
  contents := fun ⟨same, _⟩ => by rw [same]
  replace := by
    rintro h _ ⟨rfl, kept⟩ t
    simp only [Host.replace]
    rcases done : Host.replace t h.host with ⟨f | _, k⟩
    · exact ⟨rfl, rfl, K.trans kept (K.refused done)⟩
    · exact ⟨rfl, rfl, K.trans kept (K.replaced done)⟩
  prompt := by
    rintro h _ ⟨rfl, kept⟩ label
    exact ⟨rfl, rfl, K.trans kept (K.prompted label h.host)⟩
  present := by
    rintro h _ ⟨rfl, kept⟩ name t
    exact ⟨rfl, K.trans kept (K.presented name t h.host)⟩
  say := by
    rintro h _ ⟨rfl, kept⟩ message
    exact ⟨rfl, K.trans kept (K.said message h.host)⟩

namespace Session

theorem account_kept (K : Host.Keeping T) (s : Session σ) (task : Task) (w : World η σ) :
    T w.host (s.account task w).events (s.perform task w).host := by
  have start : World.Related (fun (h k : Observed η) => h = k ∧ T w.host h.events h.host) Eq
      w.observed w.observed := ⟨⟨rfl, K.refl w.host⟩, rfl⟩
  have F : Filter.Related Eq s.observed.filter s.observed.filter :=
    Filter.related_self s.observed.filter
  obtain ⟨⟨_, kept⟩, _⟩ := perform_related (K.related w.host) F rfl start task
  have plain : (s.observed.perform task w.observed).erase = s.perform task w :=
    performAll_erase s [task] w.observed
  rw [← plain]
  exact kept

theorem accounts_kept (K : Host.Keeping T) (s : Session σ) (tasks : List Task) (w : World η σ) :
    T w.host (eventsOf (s.accounts tasks w)) (s.performAll tasks w).host := by
  induction tasks generalizing w with
  | nil => exact K.refl w.host
  | cons task tasks ih =>
    rw [accounts, eventsOf_cons]
    exact K.trans (account_kept K s task w) (ih _)

end Session

end Kept

end StructuralEdit
