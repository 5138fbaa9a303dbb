import StructuralEdit.Proofs.CommandLine.Interaction
import StructuralEdit.Proofs.CommandLine.Saving
/-!
What becomes of the file after a session with a user. Without a command that puts another text into
the buffer, it is as the filters have left it. With one, it has the text of the buffer in the end,
whatever went wrong in between and whatever filters did, if all lines of commands could be read.
They can for each input that is a text. What was edited before a line that cannot be read is left
out here.
-/
namespace StructuralEdit

theorem Files.accepts_iff {f : Files} {path : Text} {content : Bytes} :
    f.Accepts path content ↔
      (f.locate path).toOption ≠ some nullDevice ∧ (f.write path content).isOk = true := by
  refine and_congr (not_congr ?_) ?_
  · cases f.locate path with
    | ok names => simp [Except.toOption]
    | error e => simp [Except.toOption]
  · cases f.write path content with
    | ok g => simp [Except.isOk, Except.toBool]
    | error e => simp [Except.isOk, Except.toBool]

instance (f : Files) (path : Text) (content : Bytes) : Decidable (f.Accepts path content) :=
  decidable_of_iff _ Files.accepts_iff.symm

namespace CommandLine

variable {a : Arguments} {path t : Text} {input : Bytes} {files : Files}

/-- The file has the text of the buffer if some command has put another text into it, and it is as
before if none has, given that it takes what is written. -/
def KeepsEdits (filter : Filter Files) (a : Arguments) (path t : Text) (input : Bytes)
    (files : Files) : Prop :=
  ∀ xs ending final,
    Interaction ⟨a.config, filter⟩ ⟨{ buffer := t, input }, files⟩ xs ending final →
      final.memory.Accepts path (Text.toBytes final.host.buffer) →
        ((∃ x ∈ xs, x.Alters) →
          (edit filter a input files).files.read path = .ok (Text.toBytes final.host.buffer)) ∧
        ((∀ x ∈ xs, ¬x.Alters) →
          (edit filter a input files).files.read path = files.read path)

theorem KeepsEdits.read_eq {filter : Filter Files}
    (keeps : KeepsEdits filter a path t input files) (last : Desk)
    (run : last = (runLines ⟨a.config, filter⟩ (input.length + 1) ⟨{ buffer := t, input }, files⟩).2)
    (accepts : last.memory.Accepts path (Text.toBytes last.host.buffer)) :
    (edit filter a input files).files.read path =
      if last.host.modified = true then .ok (Text.toBytes last.host.buffer)
      else files.read path := by
  obtain ⟨xs, ending, session⟩ := interaction_runLines ⟨a.config, filter⟩
    ⟨{ buffer := t, input }, files⟩ (Nat.lt_succ_self input.length)
  rw [← run] at session
  obtain ⟨altered, unaltered⟩ := keeps xs ending last session accepts
  have marked : last.host.modified = true ↔ ∃ x ∈ xs, x.Alters := session.marked_iff rfl
  by_cases modified : last.host.modified = true
  · rw [if_pos modified]
    exact altered (marked.mp modified)
  · rw [if_neg modified]
    exact unaltered fun x hx alters => modified (marked.mpr ⟨x, hx, alters⟩)

end CommandLine

end StructuralEdit
