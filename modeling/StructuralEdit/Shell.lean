import StructuralEdit.Duration
import StructuralEdit.Evaluation
import StructuralEdit.Shell.Run
/-!
Filters that a shell runs. A filter gets text as its input; what it writes is its output, unless it
cannot be started, runs too long or fails.
-/
namespace StructuralEdit.Shell

structure Process where
  output : Bytes
  errors : Bytes
  ending : Ending
  files : Files
  elapsed : Nat

def usualEnvironment : List (String × String) :=
  [("HOME", "/root"), ("LC_ALL", "C"),
    ("PATH", "/usr/local/sbin:/usr/local/bin:/usr/sbin:/usr/bin:/sbin:/bin")]

def startMachine (program : Text) (input : Bytes) (files : Files) : Machine :=
  let m : Machine :=
    { dialect := .dash, name := program, files
      bindings := usualEnvironment.map fun (name, value) =>
        (name.toList, { value := some (.text value.toList), isExported := true }) }
  ((m.open_ 0 (.source (.ofOctets input))).open_ 1 (.stream 1)).open_ 2 (.stream 2)

def startError? (program : Text) (command : Text) (files : Files) : Option String :=
  if program.contains '\x00' ∨ command.contains '\x00' then
    some "nul byte found in provided data"
  else if ((startMachine [] [] files).programPath? engine (encode program)).isSome then none
  else if !program.contains '/' then some FileError.notFound.message
  else match files.find program with
    | .ok _ => some FileError.permissionDenied.message
    | .error e => some e.message

/-- Runs a program with a command as its script. A program that is no shell gets both as
arguments. Where a process goes has no effect on the next one. -/
def runProcess (program command : Text) (input : Bytes) (files : Files) : Process :=
  let name := encode program
  let m := (startMachine name input files).process engine name [['-', 'c'], encode command]
  let (output, m) := m.drain 1
  let (errors, m) := m.drain 2
  { output := output.octets, errors := errors.octets, elapsed := m.clock
    files := { m.files with current := files.current }
    ending := match m.control with
      | .ended e => e
      | _ => .exited m.status }

def Ending.render : Ending → String
  | .exited n => "exit status: " ++ toString n
  | .killed n =>
    "signal: " ++ toString n ++ match Signal.name? n with
      | some name => " (SIG" ++ name ++ ")"
      | none => ""

def lookInterval : Nat := 10000000

/-- Whether a process is still running at the first look that is not before the end of its
time. Starting takes some time too. -/
def Process.isLate (p : Process) (timeout : Nat) : Bool :=
  (timeout + lookInterval - 1) / lookInterval * lookInterval ≤ p.elapsed

def Process.result (p : Process) (timeout : Nat) : Except String Text :=
  if p.isLate timeout then .error ("timed out after " ++ Duration.render timeout)
  else if p.ending = .exited 0 then .ok (Text.ofBytes p.output)
  else
    let errors := Text.trim (Text.ofBytes p.errors)
    .error (p.ending.render ++ if errors.isEmpty then "" else ": " ++ .ofList errors)

def filter (program : String) (timeout : Nat) : Filter Files := fun command input files =>
  let failed (why : String) : Except Failure Text := .error (.filter command why.toList)
  match startError? program.toList command files with
  | some why => (failed ("cannot start " ++ program ++ ": " ++ why), files)
  | none =>
    let p := runProcess program.toList command (Text.toBytes input) files
    (match p.result timeout with
      | .ok out => .ok out
      | .error why => failed why, p.files)

end StructuralEdit.Shell
