import StructuralEdit.Host.Recording
import StructuralEdit.Proofs.Host.Lines
import StructuralEdit.Proofs.Session.Observed
/-!
Hosts that store a text. What an observed host stores follows from what it has been asked to do:
the last text that was put into the buffer, or else the text from before.
-/
namespace StructuralEdit

/-- A host with a stored text, or none, and named buffers. It gives the stored text or has no
buffer; to replace the buffer stores the new text, or fails and stores nothing. Only to show a
named buffer changes the named buffers, and nothing else changes the stored text. -/
class Host.Storing (η : Type) [Host η] where
  stored : η → Option Text
  named : η → String → Option Text
  contents_cases : ∀ h : η, contents h = .error .noBuffer ∨
    ∃ t, stored h = some t ∧ contents h = .ok t
  replace_cases : ∀ (t : Text) (h : η),
    (∃ k, replace t h = (.ok (), k) ∧ stored k = some t ∧ named k = named h) ∨
      ∃ detail k, replace t h = (.error (.io detail), k) ∧ stored k = stored h ∧ named k = named h
  stored_prompt : ∀ (label : String) (h : η), stored (prompt label h).2 = stored h
  named_prompt : ∀ (label : String) (h : η), named (prompt label h).2 = named h
  stored_present : ∀ (name : String) (t : Text) (h : η), stored (present name t h) = stored h
  stored_say : ∀ (message : String) (h : η), stored (say message h) = stored h
  named_say : ∀ (message : String) (h : η), named (say message h) = named h

open Host.Storing (stored named)

instance : Host.Storing Recording where
  stored h := h.buffer
  named h name := h.shown.reverse.lookup name
  contents_cases h := by
    cases buffer : h.buffer with
    | none =>
      simp only [Host.contents, buffer]
      exact Or.inl rfl
    | some t =>
      simp only [Host.contents, buffer]
      exact Or.inr ⟨t, rfl, rfl⟩
  replace_cases t h := by
    simp only [Host.replace]
    split
    · exact Or.inr ⟨_, _, rfl, rfl, rfl⟩
    · exact Or.inl ⟨_, rfl, rfl, rfl⟩
  stored_prompt _ _ := rfl
  named_prompt _ _ := rfl
  stored_present _ _ _ := rfl
  stored_say _ _ := rfl
  named_say _ _ := rfl

theorem Terminal.readLine_keeps (label : String) (h : Terminal) :
    (h.readLine label).2.buffer = h.buffer ∧ (h.readLine label).2.output = h.output := by
  rw [readLine_snd]
  exact ⟨rfl, rfl⟩

theorem Terminal.prompt_eq (label : String) (h : Terminal) :
    (Host.prompt label h).2 = (h.readLine label).2 :=
  congrArg Prod.snd (h.prompt_eq_readLine label)

/-- On a terminal, the named buffers are all that is on the output stream. -/
instance : Host.Storing Terminal where
  stored h := some h.buffer
  named h _ := some h.output.toList
  contents_cases h := Or.inr ⟨h.buffer, rfl, rfl⟩
  replace_cases t h := by
    refine Or.inl ⟨_, rfl, ?_, ?_⟩
    · split
      · next same => rw [same]
      · rfl
    · split
      · rfl
      · rfl
  stored_prompt label h := by rw [Terminal.prompt_eq, (h.readLine_keeps label).1]
  named_prompt label h := by rw [Terminal.prompt_eq, (h.readLine_keeps label).2]
  stored_present _ _ _ := rfl
  stored_say _ _ := rfl
  named_say _ _ := rfl

instance [Host η] [Host.Storing η] : Host.Storing (Observed η) where
  stored h := stored h.host
  named h := named h.host
  contents_cases h := Host.Storing.contents_cases h.host
  replace_cases t h := by
    simp only [Host.replace]
    rcases Host.Storing.replace_cases t h.host with ⟨k, done, text, rest⟩ | ⟨detail, k, done, kept⟩
    · rw [done]
      exact Or.inl ⟨_, rfl, text, rest⟩
    · rw [done]
      exact Or.inr ⟨detail, _, rfl, kept⟩
  stored_prompt label h := Host.Storing.stored_prompt label h.host
  named_prompt label h := Host.Storing.named_prompt label h.host
  stored_present name t h := Host.Storing.stored_present name t h.host
  stored_say message h := Host.Storing.stored_say message h.host
  named_say message h := Host.Storing.named_say message h.host

def Event.replaced? : Event → Option Text
  | .replaced t => some t
  | _ => none

def Event.isPresented : Event → Bool
  | .presented _ _ => true
  | _ => false

def written (events : List Event) : List Text := events.filterMap Event.replaced?

@[simp] theorem written_append (a b : List Event) : written (a ++ b) = written a ++ written b :=
  List.filterMap_append

namespace Observed

variable {η : Type} [Host η] [Host.Storing η] {h k l : Observed η} {events later : List Event}

/-- The host `k` is what comes of the host `h` by the given events. -/
structure Extends (h k : Observed η) (events : List Event) : Prop where
  events_eq : k.events = h.events ++ events
  stored_eq : stored k = (written events).getLast?.or (stored h)
  named_eq : (∀ e ∈ events, e.isPresented = false) → named k = named h

theorem Extends.refl (h : Observed η) : Extends h h [] :=
  ⟨(List.append_nil _).symm, rfl, fun _ => rfl⟩

theorem Extends.trans (hk : Extends h k events) (kl : Extends k l later) :
    Extends h l (events ++ later) := by
  refine ⟨?_, ?_, fun quiet => ?_⟩
  · rw [kl.events_eq, hk.events_eq, List.append_assoc]
  · rw [kl.stored_eq, hk.stored_eq, written_append, List.getLast?_append, Option.or_assoc]
  · have first := hk.named_eq fun e he => quiet e (List.mem_append_left later he)
    have second := kl.named_eq fun e he => quiet e (List.mem_append_right events he)
    exact second.trans first

theorem extends_say (message : String) (h : Observed η) :
    Extends h (Host.say message h) [.said message] :=
  ⟨rfl, Host.Storing.stored_say message h, fun _ => Host.Storing.named_say message h⟩

theorem extends_prompt (label : String) (h : Observed η) :
    Extends h (Host.prompt label h).2 [.prompted label] :=
  ⟨rfl, Host.Storing.stored_prompt label h, fun _ => Host.Storing.named_prompt label h⟩

theorem extends_present (name : String) (t : Text) (h : Observed η) :
    Extends h (Host.present name t h) [.presented name t] := by
  refine ⟨rfl, Host.Storing.stored_present name t h, fun quiet => ?_⟩
  have shown := quiet (.presented name t) (by simp)
  cases shown

theorem replace_extends (t : Text) (h : Observed η) :
    (∃ k, Host.replace t h = (.ok (), k) ∧ Extends h k [.replaced t]) ∨
      ∃ detail k, Host.replace t h = (.error (.io detail), k) ∧ Extends h k [.refused t] := by
  simp only [Host.replace]
  rcases Host.Storing.replace_cases t h.host with ⟨k, done, text, rest⟩ | ⟨detail, k, done, kept⟩
  · rw [done]
    exact Or.inl ⟨_, rfl, rfl, text, fun _ => rest⟩
  · rw [done]
    exact Or.inr ⟨detail, _, rfl, rfl, kept.1, fun _ => kept.2⟩

theorem Extends.of_written_eq_nil (extended : Extends h k events) (none : written events = []) :
    stored k = stored h ∧ written k.events = written h.events := by
  refine ⟨?_, ?_⟩
  · rw [extended.stored_eq, none]
    rfl
  · rw [extended.events_eq, written_append, none, List.append_nil]

end Observed

def Quiet (events : List Event) : Prop :=
  ∀ e ∈ events, e.replaced? = none ∧ e.isPresented = false

theorem Quiet.nil : Quiet [] := fun _ he => absurd he List.not_mem_nil

theorem Quiet.single {e : Event} (kept : e.replaced? = none) (hidden : e.isPresented = false) :
    Quiet [e] := by
  intro f hf
  rw [List.mem_singleton.1 hf]
  exact ⟨kept, hidden⟩

theorem Quiet.written_eq {events : List Event} (quiet : Quiet events) : written events = [] :=
  List.filterMap_eq_nil_iff.2 fun e he => (quiet e he).1

theorem Observed.Extends.named_eq_of_quiet [Host η] [Host.Storing η] {h k : Observed η}
    {events : List Event} (extended : Extends h k events) (quiet : Quiet events) :
    named k = named h :=
  extended.named_eq fun e he => (quiet e he).2

end StructuralEdit
