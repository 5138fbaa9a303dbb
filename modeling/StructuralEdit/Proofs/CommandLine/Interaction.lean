import StructuralEdit.CommandLine
import StructuralEdit.Proofs.Host.Lines
import StructuralEdit.Proofs.Session.Accounts
import StructuralEdit.Proofs.Session.Batch
/-!
Sessions with a user. The program asks for one line after the other until the user leaves, the input
is at its end, or a line cannot be read. Each line runs at most one command, and around it there are
nothing but questions and messages. A session ends because each question takes a line of the input.
In the end the mark of the buffer says whether a command has put another text into it, and only a
line that is no text can have cut the session short.
-/
namespace StructuralEdit

open Terminal (Keeps Tracks Consumes keeps_say keeps_present)

variable {σ : Type}

theorem Terminal.keeps_readLine (label : String) (h : Terminal) :
    Keeps h (h.readLine label).2 := by
  rw [readLine_snd]
  exact ⟨rfl, rfl⟩

theorem Terminal.consumes_keeping : Host.Keeping fun (h : Terminal) _ k => Consumes h k where
  refl _ := .of_input_eq rfl
  trans first later := first.trans later
  replaced := by
    rintro t h k done
    have after : (Host.replace t h).2 = k := congrArg Prod.snd done
    refine .of_input_eq ?_
    rw [← after]
    simp only [Host.replace]
    split
    · rfl
    · rfl
  refused := by
    rintro t h f k refused
    cases congrArg Prod.fst refused
  prompted label h := by
    rw [Terminal.prompt_eq]
    exact Terminal.readLine_consumes label h
  presented _ _ _ := .of_input_eq rfl
  said _ _ := .of_input_eq rfl

structure World.Rests (v w : World Terminal σ) : Prop where
  keeps : Keeps v.host w.host
  consumes : Consumes v.host w.host
  memory_eq : w.memory = v.memory

namespace World.Rests

variable {u v w : World Terminal σ}

theorem refl (w : World Terminal σ) : w.Rests w := ⟨.refl w.host, .of_input_eq rfl, rfl⟩

theorem trans (first : u.Rests v) (later : v.Rests w) : u.Rests w :=
  ⟨first.keeps.trans later.keeps, first.consumes.trans later.consumes,
    later.memory_eq.trans first.memory_eq⟩

theorem say (message : String) (w : World Terminal σ) :
    w.Rests { w with host := Host.say message w.host } :=
  ⟨keeps_say message w.host, .of_input_eq rfl, rfl⟩

theorem present (name : String) (t : Text) (w : World Terminal σ) :
    w.Rests { w with host := Host.present name t w.host } :=
  ⟨keeps_present name t w.host, .of_input_eq rfl, rfl⟩

theorem readLine (label : String) (w : World Terminal σ) :
    w.Rests { w with host := (w.host.readLine label).2 } :=
  ⟨Terminal.keeps_readLine label w.host, Terminal.readLine_consumes label w.host, rfl⟩

end World.Rests

/-- At most one command is run, and nothing else changes the buffer or calls a filter. -/
inductive Turn (v : World Terminal σ) : List (Execution Terminal σ) → World Terminal σ → Prop
  | idle {w : World Terminal σ} : v.Rests w → Turn v [] w
  | ran {x : Execution Terminal σ} {w : World Terminal σ} : v.Rests x.before →
      Tracks x.before.host x.after.host → Consumes x.before.host x.after.host → x.after.Rests w →
        Turn v [x] w

namespace Session

variable {s : Session σ} {input : Text} {w after : World Terminal σ} {result : Result}

theorem execute_consumes (s : Session σ) (input : Text) (w : World Terminal σ) :
    Consumes w.host (s.execute input w).2.host :=
  account_kept Terminal.consumes_keeping s (.execute input) w

theorem execute_turn {v u : World Terminal σ} (run : s.execute input w = (result, after))
    (before : v.Rests w) (later : after.Rests u) :
    Turn v [⟨input, Text.whole, w, result, after⟩] u := by
  have tracks := s.execute_tracks input w
  have consumes := s.execute_consumes input w
  rw [run] at tracks consumes
  exact .ran before tracks consumes later

theorem runNamed_turn (s : Session σ) (name : String) (w : World Terminal σ) :
    Turn w (s.execution? (.named name) w).toList (s.runNamed name w).2 := by
  simp only [execution?, runNamed]
  cases NamedCommand.named? name with
  | none => exact .idle (.say _ w)
  | some c =>
    simp only [Option.bind_some]
    rcases c.question? with _ | ⟨label, build⟩
    · exact .idle (.trans (.present _ _ w) (.say _ _))
    · have asked : w.Rests { w with host := (Host.prompt label w.host).2 } := by
        rw [Terminal.prompt_eq]
        exact .readLine label w
      dsimp only
      rcases prompted : Host.prompt label w.host with ⟨_ | answer, host⟩
      · rw [prompted] at asked
        exact .idle (asked.trans (.say "Cancelled" _))
      · rw [prompted] at asked
        dsimp only
        rcases run : s.execute (build answer) { w with host } with ⟨f | o, after⟩
        · exact execute_turn run asked (.say _ after)
        · exact execute_turn run asked (.refl after)

end Session

namespace Turn

variable {v w : World Terminal σ} {xs : List (Execution Terminal σ)}

theorem consumes (turn : Turn v xs w) : Consumes v.host w.host := by
  cases turn with
  | idle rests => exact rests.consumes
  | ran before _ consumes after => exact before.consumes.trans (consumes.trans after.consumes)

theorem modified_iff (turn : Turn v xs w) :
    w.host.modified = true ↔ v.host.modified = true ∨ ∃ x ∈ xs, x.Alters := by
  cases turn with
  | idle rests => simp [rests.keeps.modified_eq]
  | ran before tracks _ after =>
    rw [after.keeps.modified_eq, tracks.modified_iff, before.keeps.modified_eq]
    simp [Execution.Alters]

theorem buffer_eq (turn : Turn v xs w) (same : ∀ x ∈ xs, ¬x.Alters) :
    w.host.buffer = v.host.buffer := by
  cases turn with
  | idle rests => exact rests.keeps.buffer_eq
  | @ran x _ before _ _ after =>
    have kept : ¬x.Alters := same x (List.mem_singleton.mpr rfl)
    rw [after.keeps.buffer_eq, Decidable.byContradiction kept, before.keeps.buffer_eq]

end Turn

namespace CommandLine

variable {s : Session Files} {d e final : Desk} {line : Text} {ending : Ending}
  {xs : List (Execution Terminal Files)}

/-- What a line of input asks a session to do. A blank line, a line that ends the session and the
one that lists names do not ask for anything. -/
def taskOf? (line : Text) : Option Task :=
  match Text.trim line with
  | [] => none
  | ':' :: name =>
    match String.ofList (Text.trim name) with
    | "q" | "quit" | "?" => none
    | name => some (.named name)
  | command => some (.execute command)

def lineExecution (s : Session Files) (line : Text) (d : Desk) : List (Execution Terminal Files) :=
  ((taskOf? line).bind fun task => s.execution? task d).toList

theorem listNames_rests (d : Desk) : d.Rests (listNames d) := by
  unfold listNames
  generalize NamedCommand.all = names
  induction names generalizing d with
  | nil => exact .refl d
  | cons c names ih => exact .trans (.say _ d) (ih _)

theorem runCommand_turn (s : Session Files) (command : Text) (d : Desk) :
    Turn d (s.execution? (.execute command) d).toList (runCommand s command d).2 := by
  simp only [runCommand, Session.execution?]
  rcases run : s.execute command d with ⟨f | o, after⟩
  · exact Session.execute_turn run (.refl d) (.say _ after)
  · exact Session.execute_turn run (.refl d) (.refl after)

theorem runLine_turn (run : runLine s line d = some e) : Turn d (lineExecution s line d) e := by
  unfold runLine at run
  split at run
  · next blank =>
    cases run
    have asks : taskOf? line = none := by simp only [taskOf?, blank]
    rw [lineExecution, asks]
    exact .idle (.refl d)
  · next name colon =>
    split at run
    · cases run
    · cases run
    · next list =>
      cases run
      have asks : taskOf? line = none := by simp only [taskOf?, colon, list]
      rw [lineExecution, asks]
      exact .idle (listNames_rests d)
    · next leave quit list =>
      cases run
      have asks : taskOf? line = some (.named (String.ofList (Text.trim name))) := by
        simp only [taskOf?, colon]
      rw [lineExecution, asks]
      exact s.runNamed_turn _ d
  · next command blank colon =>
    cases run
    have asks : taskOf? line = some (.execute (Text.trim line)) := by simp only [taskOf?]
    rw [lineExecution, asks]
    exact runCommand_turn s _ d

inductive Ending where
  | left
  | exhausted
  | unreadable
  deriving DecidableEq, Repr

/-- A session with a user, line by line: from a desk, with the executions of its commands, to an
ending and the desk that is left. -/
inductive Interaction (s : Session Files) :
    Desk → List (Execution Terminal Files) → Ending → Desk → Prop
  | exhausted {d : Desk} {host : Terminal} :
      d.host.readLine commandPrompt = (.ok none, host) →
        Interaction s d [] .exhausted { d with host }
  | unreadable {d : Desk} {host : Terminal} {f : Failure} :
      d.host.readLine commandPrompt = (.error f, host) →
        Interaction s d [] .unreadable { d with host }
  | left {d : Desk} {host : Terminal} {line : Text} :
      d.host.readLine commandPrompt = (.ok (some line), host) →
        runLine s line { d with host } = none → Interaction s d [] .left { d with host }
  | next {d e final : Desk} {host : Terminal} {line : Text} {xs : List (Execution Terminal Files)}
      {ending : Ending} : d.host.readLine commandPrompt = (.ok (some line), host) →
        runLine s line { d with host } = some e → Interaction s e xs ending final →
          Interaction s d (lineExecution s line { d with host } ++ xs) ending final

theorem rests_of_readLine {answer : Except Failure (Option Text)} {host : Terminal}
    (read : d.host.readLine commandPrompt = (answer, host)) : d.Rests { d with host } := by
  have rests := World.Rests.readLine commandPrompt d
  rwa [read] at rests

theorem length_lt_of_runLine {host : Terminal}
    (read : d.host.readLine commandPrompt = (.ok (some line), host))
    (run : runLine s line { d with host } = some e) :
    e.host.input.length < d.host.input.length :=
  Nat.lt_of_le_of_lt (runLine_turn run).consumes.length_le (Terminal.readLine_length_lt read)

/-- Every session comes to an end, since each question takes a line of the input. -/
theorem exists_interaction (s : Session Files) (d : Desk) :
    ∃ xs ending final, Interaction s d xs ending final := by
  generalize size : d.host.input.length = n
  induction n using Nat.strongRecOn generalizing d with
  | ind n ih =>
    rcases read : d.host.readLine commandPrompt with ⟨f | _ | line, host⟩
    · exact ⟨_, _, _, .unreadable read⟩
    · exact ⟨_, _, _, .exhausted read⟩
    · cases run : runLine s line { d with host } with
      | none => exact ⟨_, _, _, .left read run⟩
      | some e =>
        have shorter := length_lt_of_runLine read run
        rw [size] at shorter
        obtain ⟨xs, ending, final, later⟩ := ih _ shorter e rfl
        exact ⟨_, _, _, .next read run later⟩

namespace Interaction

theorem runLines_eq {n : Nat} (session : Interaction s d xs ending final)
    (bound : d.host.input.length < n) :
    runLines s n d = (decide (ending ≠ .unreadable), final) := by
  induction session generalizing n with
  | exhausted read =>
    obtain ⟨m, rfl⟩ := Nat.exists_eq_add_of_lt bound
    simp only [runLines, read]
    rfl
  | unreadable read =>
    obtain ⟨m, rfl⟩ := Nat.exists_eq_add_of_lt bound
    simp only [runLines, read]
    rfl
  | left read run =>
    obtain ⟨m, rfl⟩ := Nat.exists_eq_add_of_lt bound
    simp only [runLines, read, run]
    rfl
  | next read run _ ih =>
    obtain ⟨m, rfl⟩ := Nat.exists_eq_add_of_lt bound
    have shorter := length_lt_of_runLine read run
    simp only [runLines, read, run]
    exact ih (by omega)

theorem modified_iff (session : Interaction s d xs ending final) :
    final.host.modified = true ↔ d.host.modified = true ∨ ∃ x ∈ xs, x.Alters := by
  induction session with
  | exhausted read => exact (Turn.idle (rests_of_readLine read)).modified_iff
  | unreadable read => exact (Turn.idle (rests_of_readLine read)).modified_iff
  | left read => exact (Turn.idle (rests_of_readLine read)).modified_iff
  | next read run _ ih =>
    rw [ih, (runLine_turn run).modified_iff, (rests_of_readLine read).keeps.modified_eq, or_assoc]
    simp only [List.mem_append, or_and_right, exists_or]

theorem marked_iff (session : Interaction s d xs ending final)
    (unmarked : d.host.modified = false) :
    final.host.modified = true ↔ ∃ x ∈ xs, x.Alters := by
  rw [session.modified_iff, unmarked]
  simp

theorem buffer_eq (session : Interaction s d xs ending final) (same : ∀ x ∈ xs, ¬x.Alters) :
    final.host.buffer = d.host.buffer := by
  induction session with
  | exhausted read => exact (rests_of_readLine read).keeps.buffer_eq
  | unreadable read => exact (rests_of_readLine read).keeps.buffer_eq
  | left read => exact (rests_of_readLine read).keeps.buffer_eq
  | next read run _ ih =>
    obtain ⟨first, later⟩ := List.forall_mem_append.mp same
    rw [ih later, (runLine_turn run).buffer_eq first]
    exact (rests_of_readLine read).keeps.buffer_eq

end Interaction

theorem interaction_runLines {n : Nat} (s : Session Files) (d : Desk)
    (bound : d.host.input.length < n) :
    ∃ xs ending, Interaction s d xs ending (runLines s n d).2 := by
  obtain ⟨xs, ending, final, session⟩ := exists_interaction s d
  refine ⟨xs, ending, ?_⟩
  rw [session.runLines_eq bound]
  exact session

end CommandLine

end StructuralEdit
