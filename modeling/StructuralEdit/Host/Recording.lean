import StructuralEdit.Host
/-!
A host that keeps what it is told, with the answers to its prompts given beforehand.
-/
namespace StructuralEdit

structure Recording where
  buffer : Option Text
  /-- Answers to come; none stands for a prompt without an answer. -/
  answers : List (Option Text) := []
  readOnly : Bool := false
  replaced : Nat := 0
  messages : List String := []
  prompts : List String := []
  shown : List (String × Text) := []
  deriving DecidableEq, Repr

instance : Host Recording where
  contents h := h.buffer.elim (.error .noBuffer) .ok
  replace t h :=
    if h.readOnly then (.error (.io "buffer is read-only".toList), h)
    else (.ok (), { h with buffer := some t, replaced := h.replaced + 1 })
  prompt label h :=
    (h.answers.head?.join, { h with answers := h.answers.tail, prompts := h.prompts ++ [label] })
  present name t h := { h with shown := h.shown ++ [(name, t)] }
  say m h := { h with messages := h.messages ++ [m] }

end StructuralEdit
