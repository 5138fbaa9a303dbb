import StructuralEdit.Proofs.Evaluation.Calls
import StructuralEdit.Proofs.Session.Simulation
/-!
Sessions that are looked at. An observed host keeps a list of all that it is asked to do, and the
filters keep a list of their calls. Neither changes what the session does.
-/
namespace StructuralEdit

variable {η σ : Type}

/-- What a host has been asked to do. To replace the buffer may have been refused. -/
inductive Event where
  | replaced (t : Text)
  | refused (t : Text)
  | prompted (label : String)
  | presented (name : String) (t : Text)
  | said (message : String)
  deriving DecidableEq, Repr

structure Observed (η : Type) where
  host : η
  events : List Event := []
  deriving DecidableEq, Repr

instance [Host η] : Host (Observed η) where
  contents h := Host.contents h.host
  replace t h :=
    match Host.replace t h.host with
    | (.ok (), host) => (.ok (), ⟨host, h.events ++ [.replaced t]⟩)
    | (.error f, host) => (.error f, ⟨host, h.events ++ [.refused t]⟩)
  prompt label h :=
    let (answer, host) := Host.prompt label h.host
    (answer, ⟨host, h.events ++ [.prompted label]⟩)
  present name t h := ⟨Host.present name t h.host, h.events ++ [.presented name t]⟩
  say message h := ⟨Host.say message h.host, h.events ++ [.said message]⟩

def Session.observed (s : Session σ) : Session (Logged σ) := { s with filter := s.filter.logged }

def World.observed (w : World η σ) : World (Observed η) (Logged σ) := ⟨⟨w.host, []⟩, ⟨w.memory, []⟩⟩

def World.erase (w : World (Observed η) (Logged σ)) : World η σ := ⟨w.host.host, w.memory.state⟩

variable [Host η]

theorem Observed.related : Host.Related fun (h : Observed η) (k : η) => h.host = k where
  contents := by
    rintro h _ rfl
    rfl
  replace := by
    rintro h _ rfl t
    simp only [Host.replace]
    rcases Host.replace t h.host with ⟨_ | f, k⟩
    · exact ⟨rfl, rfl⟩
    · exact ⟨rfl, rfl⟩
  prompt := by
    rintro h _ rfl label
    exact ⟨rfl, rfl⟩
  present := by
    rintro h _ rfl name t
    rfl
  say := by
    rintro h _ rfl message
    rfl

theorem Filter.logged_related (filter : Filter σ) :
    Filter.Related (fun (m : Logged σ) (n : σ) => m.state = n) filter.logged filter := by
  rintro m _ rfl command input
  exact ⟨rfl, rfl⟩

/-- A session does the same when it is looked at. -/
theorem Session.performAll_erase (s : Session σ) (tasks : List Task)
    (w : World (Observed η) (Logged σ)) :
    (s.observed.performAll tasks w).erase = s.performAll tasks w.erase := by
  have F : Filter.Related (fun (m : Logged σ) (n : σ) => m.state = n) s.observed.filter s.filter :=
    Filter.logged_related s.filter
  have start : World.Related (fun (h : Observed η) (k : η) => h.host = k)
      (fun (m : Logged σ) (n : σ) => m.state = n) w w.erase := ⟨rfl, rfl⟩
  obtain ⟨host, memory⟩ := performAll_related Observed.related F rfl start tasks
  rw [World.erase, host, memory]

end StructuralEdit
