import StructuralEdit.CommandLine
import StructuralEdit.Proofs.Files.Writing
import StructuralEdit.Proofs.Session.Batch
import StructuralEdit.Proofs.Text.Utf8
/-!
What becomes of the file. A run with commands writes its file all or nothing: if no command fails,
the file has the text of the buffer in the end, and if one fails, or if the file is only to be read,
the file is left alone. A file that was missing is made if and only if some command has put another
text into the buffer.
-/
namespace StructuralEdit

/-- The path can be written: it does not lead to the null device, and to write the content
succeeds. -/
def Files.Accepts (f : Files) (path : Text) (content : Bytes) : Prop :=
  f.locate path ≠ .ok nullDevice ∧ ∃ g, f.write path content = .ok g

namespace CommandLine

variable {σ : Type} {filter : Filter Files} {a : Arguments} {path t : Text} {input : Bytes} {files : Files}

/-- The path has the text, or nothing is there and the text is empty. -/
def Opens (files : Files) (path t : Text) : Prop :=
  files.read path = .ok (Text.toBytes t) ∨ files.read path = .error .notFound ∧ t = []

theorem readFile_of_opens (opens : Opens files path t) : readFile path files = .ok t := by
  unfold readFile
  dsimp only
  rcases opens with found | ⟨missing, rfl⟩
  · rw [found]
    dsimp only
    rw [Text.ofBytes?_toBytes]
    rfl
  · rw [missing]

theorem open?_of_opens (named : a.file = some path) (opens : Opens files path t) :
    open? a input files = .ok (t, input) := by
  rw [open?, named]
  dsimp only
  rw [readFile_of_opens opens]
  rfl

theorem runAll_eq (s : Session Files) (commands : List Text)
    (w : World Terminal (Transcript Files)) :
    ((∀ x ∈ s.transcribed.batch commands w, x.result.isOk = true) →
      runAll s commands w.plain =
        (true, (Execution.final w (s.transcribed.batch commands w)).plain)) ∧
    ((∃ x ∈ s.transcribed.batch commands w, x.result.isOk = false) →
      ∃ message, runAll s commands w.plain =
        (false, say message (Execution.final w (s.transcribed.batch commands w)).plain)) := by
  induction commands generalizing w with
  | nil =>
    refine ⟨fun _ => rfl, ?_⟩
    rintro ⟨x, hx, -⟩
    cases hx
  | cons command commands ih =>
    rcases run : s.transcribed.execute command w with ⟨f | o, after⟩
    · have plain := Session.execute_plain run
      rw [Session.batch_of_error run]
      constructor
      · intro fine
        cases fine _ (List.mem_singleton.mpr rfl)
      · intro _
        refine ⟨failureMessage f, ?_⟩
        simp only [runAll, runCommand, plain, Execution.final]
    · have plain := Session.execute_plain run
      have first : runAll s (command :: commands) w.plain = runAll s commands after.plain := by
        simp only [runAll, runCommand, plain]
      rw [Session.batch_of_ok run, first, Execution.final]
      obtain ⟨success, failure⟩ := ih after
      constructor
      · intro fine
        exact success fun x hx => fine x (List.mem_cons_of_mem _ hx)
      · rintro ⟨x, hx, failed⟩
        rcases List.mem_cons.mp hx with rfl | later
        · cases failed
        · exact failure ⟨x, later, failed⟩

theorem close_saves {d : Desk} (named : a.file = some path) (marked : d.host.modified = true)
    (leave : a.readOnly = false)
    (accepts : d.memory.Accepts path (Text.toBytes d.host.buffer)) :
    (close a true d).status = 0 ∧
      (close a true d).files.read path = .ok (Text.toBytes d.host.buffer) := by
  obtain ⟨device, g, written⟩ := accepts
  simp only [close, named, marked, leave, written]
  exact ⟨rfl, Files.read_write device written⟩

theorem close_leaves {d : Desk} {succeeded : Bool} (named : a.file = some path)
    (h : ¬(succeeded = true ∧ d.host.modified = true ∧ a.readOnly = false)) :
    close a succeeded d = report (if succeeded then 0 else 1) d := by
  have closed : ¬(succeeded = true ∧ d.host.modified = true ∧ (!a.readOnly) = true) := by
    rwa [Bool.not_eq_true']
  simp only [close, named, if_neg closed]

theorem edit_eq_close (filter : Filter Files) (input : Bytes) (named : a.file = some path)
    (given : a.commands ≠ []) (opens : Opens files path t) :
    let s : Session Files := { config := a.config, filter }
    let start : World Terminal (Transcript Files) := ⟨{ buffer := t, input }, ⟨files, []⟩⟩
    let xs := s.transcribed.batch a.commands start
    let final := Execution.final start xs
    ∃ succeeded d, edit filter a input files = close a succeeded d ∧
      final.host.Keeps d.host ∧ d.memory = final.memory.state ∧
        (succeeded = true ↔ ∀ x ∈ xs, x.result.isOk = true) := by
  intro s start xs final
  have opened : open? a input files = .ok (t, input) := open?_of_opens named opens
  have run : edit filter a input files =
      close a (runAll s a.commands start.plain).1 (runAll s a.commands start.plain).2 := by
    have some : ¬a.commands.isEmpty = true := by simpa using given
    simp only [edit, opened, if_neg some]
    rfl
  obtain ⟨success, failure⟩ := runAll_eq s a.commands start
  by_cases fine : ∀ x ∈ xs, x.result.isOk = true
  · rw [success fine] at run
    exact ⟨true, final.plain, run, .refl _, rfl, by simpa using fine⟩
  · obtain ⟨x, hx, broken⟩ : ∃ x ∈ xs, x.result.isOk = false := by simpa using fine
    obtain ⟨message, ended⟩ := failure ⟨x, hx, broken⟩
    rw [ended] at run
    exact ⟨false, say message final.plain, run, Terminal.keeps_say _ _, rfl, by simpa using fine⟩

/-- The file is written: no command has failed, some command has put another text into the buffer,
and there is leave to write. -/
def Saves (a : Arguments) (xs : List (Execution Terminal σ)) : Prop :=
  (∀ x ∈ xs, x.result.isOk = true) ∧ (∃ x ∈ xs, x.Alters) ∧ a.readOnly = false

/-- What a run of the program with commands comes to, if `xs` are the executions of its commands
and `final` is the world after them. -/
structure AllOrNothing (a : Arguments) (path : Text) (files : Files)
    (xs : List (Execution Terminal (Transcript Files))) (final : World Terminal (Transcript Files))
    (r : Report) : Prop where
  ordered : xs.map (·.input) <+: a.commands
  succeeded : (∀ x ∈ xs, x.result.isOk = true) → xs.map (·.input) = a.commands ∧ r.status = 0
  failed : ∀ x ∈ xs, x.result.isOk = false → xs.getLast? = some x ∧ r.status = 1
  saved : Saves a xs → r.files.read path = .ok (Text.toBytes final.host.buffer)
  kept : ¬Saves a xs → r.files = final.memory.state ∧ r.files.read path = files.read path
  /-- A file that was there has the text of the buffer, also if there was no need to write it. -/
  current : (∀ x ∈ xs, x.result.isOk = true) → a.readOnly = false →
    (files.read path).isOk = true → r.files.read path = .ok (Text.toBytes final.host.buffer)

/-- A run of the program with commands on a file writes the file all or nothing, for all filters
that leave the file alone in the calls that are made, if the file can be written when it is. -/
theorem edit_all_or_nothing (filter : Filter Files) (input : Bytes)
    (named : a.file = some path) (given : a.commands ≠ []) (opens : Opens files path t) :
    let s : Session Files := { config := a.config, filter }
    let start : World Terminal (Transcript Files) := ⟨{ buffer := t, input }, ⟨files, []⟩⟩
    let xs := s.transcribed.batch a.commands start
    let final := Execution.final start xs
    (∀ k ∈ final.memory.calls, k.after.read path = k.before.read path) →
      (Saves a xs → final.memory.state.Accepts path (Text.toBytes final.host.buffer)) →
        AllOrNothing a path files xs final (edit filter a input files) := by
  intro s start xs final leave accepts
  have untouched : final.memory.state.read path = files.read path :=
    s.batch_keeps (P := fun f => f.read path = files.read path) a.commands start rfl
      fun k hk before => (leave k hk).trans before
  obtain ⟨marked, unaltered⟩ := s.transcribed.batch_modified a.commands start
  obtain ⟨succeeded, d, run, keeps, memory, fine⟩ := edit_eq_close filter input named given opens
  rw [← memory, ← keeps.buffer_eq] at accepts
  have modified : d.host.modified = true ↔ ∃ x ∈ xs, x.Alters := by
    rw [keeps.modified_eq, marked]
    simp [start, xs]
  -- The mark stands for the executions, so what the program tests is what is stated.
  have closes : (succeeded = true ∧ d.host.modified = true ∧ a.readOnly = false) ↔ Saves a xs := by
    rw [fine, modified]
    rfl
  have saved (saves : Saves a xs) : (close a succeeded d).status = 0 ∧
      (close a succeeded d).files.read path = .ok (Text.toBytes final.host.buffer) := by
    obtain ⟨done, marked, leave⟩ := closes.mpr saves
    rw [done, ← keeps.buffer_eq]
    exact close_saves named marked leave (accepts saves)
  have kept (none : ¬Saves a xs) :
      close a succeeded d = report (if succeeded then 0 else 1) d :=
    close_leaves named (mt closes.mp none)
  have status : (close a succeeded d).status = if succeeded then 0 else 1 := by
    by_cases saves : Saves a xs
    · rw [(saved saves).1, if_pos (closes.mpr saves).1]
    · rw [kept saves]
      rfl
  have files_eq (none : ¬Saves a xs) : (close a succeeded d).files = final.memory.state := by
    rw [kept none, ← memory]
    rfl
  rw [run]
  constructor
  case ordered => exact s.transcribed.batch_prefix a.commands start
  case succeeded =>
    intro ok
    rw [status, if_pos (fine.mpr ok)]
    exact ⟨Session.batch_complete ok, rfl⟩
  case failed =>
    intro x hx broken
    have stopped : succeeded ≠ true := fun done => by simp [fine.mp done x hx] at broken
    rw [status, if_neg stopped]
    exact ⟨Session.batch_stops hx broken, rfl⟩
  case saved => exact fun saves => (saved saves).2
  case kept =>
    intro none
    rw [files_eq none]
    exact ⟨rfl, untouched⟩
  case current =>
    intro ok leave there
    by_cases saves : Saves a xs
    · exact (saved saves).2
    -- What was not written had no other text at any time, so the file still has the text.
    · have same : final.host.buffer = t := unaltered fun x hx alters =>
        saves ⟨ok, ⟨x, hx, alters⟩, leave⟩
      rw [files_eq saves, untouched, same]
      rcases opens with found | ⟨missing, -⟩
      · exact found
      · rw [missing] at there
        cases there

def constant : Filter Files := fun _ _ files => (.ok ['b'], files)

theorem edit_saves_constant :
    let a : Arguments := { file := some ['f'], commands := [['|', 'b']] }
    let files := Files.within [(['f'], .file [97])]
    Opens files ['f'] ['a'] ∧ (edit constant a [] files).status = 0 ∧
      (edit constant a [] files).files.read ['f'] = .ok (Text.toBytes ['b']) := by
  intro a files
  let s : Session Files := { config := a.config, filter := constant }
  let start : World Terminal (Transcript Files) := ⟨{ buffer := ['a'] }, ⟨files, []⟩⟩
  let xs := s.transcribed.batch a.commands start
  have opens : Opens files ['f'] ['a'] := Or.inl rfl
  obtain ⟨calls, written, chain⟩ := s.batch_calls a.commands start
  have idle : ∀ k ∈ (Execution.final start xs).memory.calls, k.after = k.before := by
    intro k hk
    rw [written] at hk
    exact (congrArg Prod.snd (chain.answered k hk)).symm
  have same : (Execution.final start xs).memory.state = files :=
    s.batch_keeps (P := fun f => f = files) a.commands start rfl
      fun k hk before => (idle k hk).trans before
  have leave : ∀ k ∈ (Execution.final start xs).memory.calls,
      k.after.read ['f'] = k.before.read ['f'] := fun k hk => by rw [idle k hk]
  have accepts (content : Bytes) :
      (Execution.final start xs).memory.state.Accepts ['f'] content := by
    have place : files.locate ['f'] = .ok (Files.workNames ++ [['f']]) := rfl
    rw [same]
    refine ⟨?_, _, rfl⟩
    rw [place]
    simp [Files.workNames, Files.nullDevice]
  have fine : ∀ x ∈ xs, x.result.isOk = true := by decide +kernel
  have text : (Execution.final start xs).host.buffer = ['b'] := by decide +kernel
  have result := edit_all_or_nothing constant [] rfl (by decide) opens leave fun _ => accepts _
  have saved := result.current fine rfl rfl
  rw [text] at saved
  exact ⟨opens, (result.succeeded fine).2, saved⟩

end CommandLine

end StructuralEdit
