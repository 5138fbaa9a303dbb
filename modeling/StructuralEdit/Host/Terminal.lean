import StructuralEdit.Host
import StructuralEdit.Text.Utf8
/-!
A host on three byte streams: answers come from its input line by line, named buffers go to its
output, and prompts and messages to its status stream.
-/
namespace StructuralEdit

structure Terminal where
  buffer : Text
  /-- Whether some command has put a different text into the buffer. -/
  modified : Bool := false
  input : List UInt8 := []
  output : String := ""
  status : String := ""
  styled : Bool := false
  deriving DecidableEq, Repr

namespace Terminal

def newline : UInt8 := 10

def dropLineEnd (line : Text) : Text :=
  (line.reverse.dropWhile fun c => c = '\n' || c = '\r').reverse

def splitLine : List UInt8 → List UInt8 × List UInt8
  | [] => ([], [])
  | b :: bs =>
    if b = newline then ([b], bs)
    else
      let (line, rest) := splitLine bs
      (b :: line, rest)

/-- Asks for one line of input; none at the end of the input. A line that is no UTF-8 is a failure,
and is not read again. -/
def readLine (label : String) (h : Terminal) : Except Failure (Option Text) × Terminal :=
  let h := { h with status := h.status ++ label }
  let (line, rest) := splitLine h.input
  if line.isEmpty then (.ok none, h)
  else
    let h := { h with input := rest }
    match Text.ofBytes? line with
    | some t => (.ok (some (dropLineEnd t)), h)
    | none => (.error (.io Text.notUtf8.toList), h)

/-- A named buffer as shown: its name, then its text, ended by a line feed. -/
def frame (name : String) (t : Text) : String :=
  "--- " ++ name ++ " ---\n" ++ .ofList t ++
    if t.isEmpty ∨ t.getLast? = some '\n' then "" else "\n"

def messageLine (styled : Bool) (message : String) : String :=
  if styled ∧ "Error:".toList.isPrefixOf message.toList then
    "\x1b[38;5;9m" ++ message ++ "\x1b[0m\n"
  else message ++ "\n"

end Terminal

instance : Host Terminal where
  contents h := .ok h.buffer
  replace t h := (.ok (), if h.buffer = t then h else { h with buffer := t, modified := true })
  prompt label h :=
    match h.readLine label with
    | (.ok line, h) => (line, h)
    | (.error _, h) => (none, h)
  present name t h := { h with output := h.output ++ Terminal.frame name t }
  say m h := { h with status := h.status ++ Terminal.messageLine h.styled m }

end StructuralEdit
