import StructuralEdit.Failure
/-!
What an editor offers to commands: one current buffer, prompts, a line for messages, and named
buffers to show longer texts in.
-/
namespace StructuralEdit

/-- Editors with states of type `η`. Each operation gives the state after it. -/
class Host (η : Type) where
  /-- The text of the current buffer, or the failure that there is none. -/
  contents : η → Except Failure Text
  replace : Text → η → Except Failure Unit × η
  /-- Asks for one line of input; none if there is no answer. -/
  prompt : String → η → Option Text × η
  present : String → Text → η → η
  say : String → η → η

structure Config where
  shell : String := "sh"
  /-- How long a filter may run, in nanoseconds. -/
  timeout : Nat := 10000000000
  /-- Output of at most this many lines is shown as a message. -/
  shortOutputLines : Nat := 3
  summaryWidth : Nat := 80
  outputBuffer : String := "*sam-output*"
  helpBuffer : String := "*sam-help*"
  deriving DecidableEq, Repr

end StructuralEdit
