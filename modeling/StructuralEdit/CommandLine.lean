import StructuralEdit.CommandLine.Arguments
import StructuralEdit.Host.Terminal
import StructuralEdit.NamedCommand
import StructuralEdit.Shell
/-!
The editor as a program: it reads a file or its input, runs commands, and writes the result back.
-/
namespace StructuralEdit

structure Report where
  status : Nat
  output : String := ""
  messages : String := ""
  files : Files

abbrev Desk := World Terminal Files

namespace CommandLine

def versionText : String := "samedit 0.1.0\n"

def usageText : String :=
  "error: arguments not understood

Usage: samedit [OPTIONS] [FILE]
"

def commandPrompt : String := "sam> "

def fatalMessage (what cause : String) : String :=
  "Error: " ++ what ++ "\n\nCaused by:\n    " ++ cause ++ "\n"

/-- The text of a file. A file that does not exist has none yet. -/
def readFile (path : Text) (files : Files) : Except String Text :=
  let failed (cause : String) : Except String Text :=
    .error (fatalMessage ("Failed to read " ++ .ofList path) cause)
  match files.read path with
  | .ok bytes => (Text.ofBytes? bytes).elim (failed Text.notUtf8) .ok
  | .error .notFound => .ok []
  | .error e => failed e.message

def open? (a : Arguments) (input : Bytes) (files : Files) : Except String (Text × Bytes) :=
  match a.file with
  | some path => (readFile path files).map fun t => (t, input)
  | none =>
    if a.commands.isEmpty then .ok ([], input)
    else match Text.ofBytes? input with
      | some t => .ok (t, [])
      | none => .error (fatalMessage "Failed to read stdin" Text.notUtf8)

def say (message : String) (d : Desk) : Desk := { d with host := Host.say message d.host }

def runCommand (s : Session Files) (command : Text) (d : Desk) : Bool × Desk :=
  match s.execute command d with
  | (.ok _, d) => (true, d)
  | (.error f, d) => (false, say (failureMessage f) d)

def runAll (s : Session Files) : List Text → Desk → Bool × Desk
  | [], d => (true, d)
  | command :: commands, d =>
    match runCommand s command d with
    | (true, d) => runAll s commands d
    | (false, d) => (false, d)

def listNames (d : Desk) : Desk :=
  NamedCommand.all.foldl (fun d c =>
    let padding := String.ofList (List.replicate (6 - c.name.length) ' ')
    say (":" ++ c.name ++ padding ++ " " ++ c.summary) d) d

/-- Runs a line of input. Without an answer the session is over. -/
def runLine (s : Session Files) (line : Text) (d : Desk) : Option Desk :=
  match Text.trim line with
  | [] => some d
  | ':' :: name =>
    match String.ofList (Text.trim name) with
    | "q" | "quit" => none
    | "?" => some (listNames d)
    | name => some (s.runNamed name d).2
  | command => some (runCommand s command d).2

/-- Runs one line after the other. The answer says whether all input could be read. The first
argument bounds the number of lines. -/
def runLines (s : Session Files) : Nat → Desk → Bool × Desk
  | 0, d => (true, d)
  | n + 1, d =>
    match d.host.readLine commandPrompt with
    | (.error _, host) => (false, { d with host })
    | (.ok none, host) => (true, { d with host })
    | (.ok (some line), host) =>
      let d : Desk := { d with host }
      match runLine s line d with
      | some d => runLines s n d
      | none => (true, d)

def report (status : Nat) (d : Desk) : Report :=
  { status, output := d.host.output, messages := d.host.status, files := d.memory }

/-- Writes the buffer where it belongs: to its file if a command has changed it and none has
failed, or else to the output. -/
def close (a : Arguments) (succeeded : Bool) (d : Desk) : Report :=
  let r := report (if succeeded then 0 else 1) d
  match a.file with
  | none => { r with output := r.output ++ .ofList d.host.buffer }
  | some path =>
    if succeeded ∧ d.host.modified ∧ !a.readOnly then
      match d.memory.write path (Text.toBytes d.host.buffer) with
      | .ok files => { r with files }
      | .error e =>
        let message := fatalMessage ("Failed to write " ++ .ofList path) e.message
        { r with status := 1, messages := r.messages ++ message }
    else r

def edit (filter : Filter Files) (a : Arguments) (input : Bytes) (files : Files) : Report :=
  match open? a input files with
  | .error message => { status := 1, messages := message, files }
  | .ok (buffer, input) =>
    let s : Session Files := { config := a.config, filter }
    let d : Desk := { host := { buffer, input }, memory := files }
    if a.commands.isEmpty then
      match runLines s (input.length + 1) d with
      | (true, d) => close a true d
      -- What has been edited is not written.
      | (false, d) => report 1 (say ("Error: " ++ Text.notUtf8) d)
    else
      let (succeeded, d) := runAll s a.commands d
      close a succeeded d

def run (args : List Text) (input : Bytes) (files : Files) : Report :=
  match Arguments.read args with
  | none => { status := 2, messages := usageText, files }
  | some .version => { status := 0, output := versionText, files }
  | some (.edit a) => edit (Shell.filter a.config.shell a.config.timeout) a input files

end CommandLine

end StructuralEdit
