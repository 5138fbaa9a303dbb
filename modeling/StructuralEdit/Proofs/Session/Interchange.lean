import StructuralEdit.Proofs.Host.Lines
import StructuralEdit.Proofs.Session.Accounts
/-!
A terminal in place of a recording host. If both have the same buffer, and what is typed at the
terminal are the answers that the other one has been given, a session does the same on both. The
terminal reads one line for each prompt and no more, so this holds after each task.
-/
namespace StructuralEdit

variable {σ : Type}

/-- An answer that can be typed as one line: it has no line feed in it, and no carriage return at
its end. -/
structure IsReply (t : Text) : Prop where
  line : '\n' ∉ t
  last : t.getLast? ≠ some '\r'

def typed (replies : List Text) : List UInt8 :=
  replies.flatMap fun t => Text.toBytes t ++ [Terminal.newline]

/-- A recording host and a terminal with the same buffer and the same answers to come. -/
structure Interchangeable (h : Recording) (k : Terminal) : Prop where
  buffer_eq : h.buffer = some k.buffer
  writable : h.readOnly = false
  replies : ∃ replies, (∀ t ∈ replies, IsReply t) ∧ h.answers = replies.map some ∧
    k.input = typed replies

theorem Terminal.prompt_of_readLine {h k : Terminal} {label : String} {line : Option Text}
    (read : h.readLine label = (.ok line, k)) : Host.prompt label h = (line, k) := by
  simp only [Host.prompt, read]

theorem interchangeable_related : Host.Related Interchangeable where
  contents := by
    intro h k related
    simp only [Host.contents, related.buffer_eq]
    rfl
  replace := by
    intro h k related t
    simp only [Host.replace, related.writable, Bool.false_eq_true, if_false]
    refine ⟨rfl, ?_, rfl, ?_⟩
    · by_cases same : k.buffer = t
      · simp [same]
      · simp [same]
    · by_cases same : k.buffer = t
      · simpa [same] using related.replies
      · simpa [same] using related.replies
  prompt := by
    rintro h k ⟨buffer, writable, replies, lines, answers, input⟩ label
    cases replies with
    | nil =>
      rw [Terminal.prompt_of_readLine (Terminal.readLine_end input)]
      simp only [Host.prompt, answers]
      exact ⟨rfl, buffer, writable, [], lines, rfl, input⟩
    | cons t replies =>
      obtain ⟨first, later⟩ := List.forall_mem_cons.mp lines
      -- What was typed for the answer is the first line of the input.
      have typing : k.input = Text.toBytes t ++ Terminal.newline :: typed replies := by
        rw [input, typed, List.flatMap_cons, List.append_assoc]
        rfl
      rw [Terminal.prompt_of_readLine (Terminal.readLine_line first.line typing)]
      simp only [Host.prompt, answers, Terminal.dropLineEnd_eq_self first.line first.last]
      exact ⟨rfl, buffer, writable, replies, later, rfl, rfl⟩
  present := by
    intro h k related name t
    exact ⟨related.buffer_eq, related.writable, related.replies⟩
  say := by
    intro h k related message
    exact ⟨related.buffer_eq, related.writable, related.replies⟩

namespace Event

def said? : Event → Option String
  | said message => some message
  | _ => none

def prompted? : Event → Option String
  | prompted label => some label
  | _ => none

def presented? : Event → Option (String × Text)
  | presented name t => some (name, t)
  | _ => none

def onStatus (styled : Bool) : Event → String
  | prompted label => label
  | said message => Terminal.messageLine styled message
  | _ => ""

def onOutput : Event → String
  | presented name t => Terminal.frame name t
  | _ => ""

def joined (text : Event → String) : List Event → String
  | [] => ""
  | e :: events => text e ++ joined text events

theorem joined_single (text : Event → String) (e : Event) : joined text [e] = text e :=
  String.append_empty

theorem joined_append (text : Event → String) (first later : List Event) :
    joined text (first ++ later) = joined text first ++ joined text later := by
  induction first with
  | nil => exact String.empty_append.symm
  | cons e first ih => rw [List.cons_append, joined, ih, joined, String.append_assoc]

end Event

structure Recording.Records (h : Recording) (events : List Event) (k : Recording) : Prop where
  messages_eq : k.messages = h.messages ++ events.filterMap Event.said?
  prompts_eq : k.prompts = h.prompts ++ events.filterMap Event.prompted?
  shown_eq : k.shown = h.shown ++ events.filterMap Event.presented?
  replaced_eq : k.replaced = h.replaced + (written events).length

theorem Recording.keeping : Host.Keeping Recording.Records where
  refl h := ⟨by simp, by simp, by simp, rfl⟩
  trans := by
    intro h k l first later kept more
    constructor
    · rw [more.messages_eq, kept.messages_eq, List.filterMap_append, List.append_assoc]
    · rw [more.prompts_eq, kept.prompts_eq, List.filterMap_append, List.append_assoc]
    · rw [more.shown_eq, kept.shown_eq, List.filterMap_append, List.append_assoc]
    · rw [more.replaced_eq, kept.replaced_eq, written_append, List.length_append, Nat.add_assoc]
  replaced := by
    intro t h k done
    simp only [Host.replace] at done
    split at done
    · cases done
    · cases done
      exact ⟨(List.append_nil _).symm, (List.append_nil _).symm, (List.append_nil _).symm, rfl⟩
  refused := by
    intro t h f k done
    simp only [Host.replace] at done
    split at done
    · cases done
      exact ⟨(List.append_nil _).symm, (List.append_nil _).symm, (List.append_nil _).symm, rfl⟩
    · cases done
  prompted label h := ⟨(List.append_nil _).symm, rfl, (List.append_nil _).symm, rfl⟩
  presented name t h := ⟨(List.append_nil _).symm, (List.append_nil _).symm, rfl, rfl⟩
  said message h := ⟨rfl, (List.append_nil _).symm, (List.append_nil _).symm, rfl⟩

structure Terminal.Writes (h : Terminal) (events : List Event) (k : Terminal) : Prop where
  status_eq : k.status = h.status ++ Event.joined (Event.onStatus h.styled) events
  output_eq : k.output = h.output ++ Event.joined Event.onOutput events
  styled_eq : k.styled = h.styled

theorem Terminal.keeping : Host.Keeping Terminal.Writes where
  refl h := ⟨String.append_empty.symm, String.append_empty.symm, rfl⟩
  trans := by
    intro h k l first later kept more
    refine ⟨?_, ?_, more.styled_eq.trans kept.styled_eq⟩
    · rw [more.status_eq, kept.status_eq, kept.styled_eq, Event.joined_append, String.append_assoc]
    · rw [more.output_eq, kept.output_eq, Event.joined_append, String.append_assoc]
  replaced := by
    intro t h k done
    simp only [Host.replace, Prod.mk.injEq, true_and] at done
    split at done
    · cases done
      exact ⟨String.append_empty.symm, String.append_empty.symm, rfl⟩
    · cases done
      exact ⟨String.append_empty.symm, String.append_empty.symm, rfl⟩
  refused := by
    intro t h f k done
    cases done
  prompted label h := by
    rw [Terminal.prompt_eq, Terminal.readLine_snd]
    refine ⟨?_, String.append_empty.symm, rfl⟩
    rw [Event.joined_single, Event.onStatus]
  presented name t h := by
    refine ⟨String.append_empty.symm, ?_, rfl⟩
    rw [Event.joined_single]
    rfl
  said message h := by
    refine ⟨?_, String.append_empty.symm, rfl⟩
    rw [Event.joined_single]
    rfl

namespace Session

/-- What a session does with tasks on a recording host and on a terminal. -/
structure Interchange (s : Session σ) (tasks : List Task) (v : World Recording σ)
    (w : World Terminal σ) : Prop where
  accounts_eq : s.accounts tasks v = s.accounts tasks w
  related : ∀ done, done <+: tasks →
    World.Related Interchangeable Eq (s.performAll done v) (s.performAll done w)
  recorded : v.host.Records (eventsOf (s.accounts tasks v)) (s.performAll tasks v).host
  written : w.host.Writes (eventsOf (s.accounts tasks v)) (s.performAll tasks w).host

/-- A session does the same on a recording host and on a terminal, for any filters. -/
theorem performAll_interchangeable (s : Session σ) (tasks : List Task) {v : World Recording σ}
    {w : World Terminal σ} (h : World.Related Interchangeable Eq v w) :
    s.Interchange tasks v w := by
  have F : Filter.Related Eq s.filter s.filter := Filter.related_self s.filter
  have same := accounts_related (s := s) interchangeable_related h tasks
  constructor
  case accounts_eq => exact same
  case related => exact fun done _ => performAll_related interchangeable_related F rfl h done
  case recorded => exact accounts_kept Recording.keeping s tasks v
  case written =>
    rw [same]
    exact accounts_kept Terminal.keeping s tasks w

def raising : Filter Unit := fun _ _ m => (.ok "up".toList, m)

theorem performAll_interchangeable_typed :
    let v : World Recording Unit :=
      ⟨{ buffer := some ['a', 'b'], answers := [some ['b'], some ['t', 'r']] }, ()⟩
    let w : World Terminal Unit :=
      ⟨{ buffer := ['a', 'b'], input := [98, 10, 116, 114, 10], styled := true }, ()⟩
    World.Related Interchangeable Eq v w ∧
      Interchange ⟨{}, raising⟩
        [.named "x", .onRegion ['d'] 1 0, .named "pipe", .named "edit"] v w := by
  intro v w
  have replies : ∀ t ∈ [['b'], ['t', 'r']], IsReply t := by
    intro t ht
    simp only [List.mem_cons, List.not_mem_nil, or_false] at ht
    rcases ht with rfl | rfl
    · exact ⟨by decide, by decide⟩
    · exact ⟨by decide, by decide⟩
  have related : World.Related Interchangeable Eq v w :=
    ⟨⟨rfl, rfl, [['b'], ['t', 'r']], replies, rfl, rfl⟩, rfl⟩
  exact ⟨related, performAll_interchangeable ⟨{}, raising⟩ _ related⟩

end Session

end StructuralEdit
