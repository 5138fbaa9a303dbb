import StructuralEdit.Duration
import StructuralEdit.Host
/-!
The arguments that an editor is started with.
-/
namespace StructuralEdit

structure Arguments where
  file : Option Text := none
  /-- Commands to run in turn; without any, commands are read from the input. -/
  commands : List Text := []
  readOnly : Bool := false
  shell : Option String := none
  /-- How long a filter may run, in nanoseconds. -/
  timeout : Option Nat := none
  outputLines : Option Nat := none
  verbosity : Nat := 0
  deriving DecidableEq, Repr

inductive Request where
  | edit (a : Arguments)
  | version
  deriving DecidableEq, Repr

namespace Arguments

def config (a : Arguments) : Config :=
  let usual : Config := {}
  { usual with
    shell := a.shell.getD usual.shell
    timeout := a.timeout.getD usual.timeout
    shortOutputLines := a.outputLines.getD usual.shortOutputLines }

inductive Setting where
  | command
  | shell
  | timeout
  | outputLines
  deriving DecidableEq, Repr

inductive Switch where
  | readOnly
  | verbose
  | version
  deriving DecidableEq, Repr

def Setting.ofLong? : String → Option Setting
  | "command" => some .command
  | "shell" => some .shell
  | "pipe-timeout" => some .timeout
  | "output-lines" => some .outputLines
  | _ => none

def Switch.ofLong? : String → Option Switch
  | "read-only" => some .readOnly
  | "verbose" => some .verbose
  | "version" => some .version
  | _ => none

def Switch.ofShort? : Char → Option Switch
  | 'r' => some .readOnly
  | 'v' => some .verbose
  | 'V' => some .version
  | _ => none

def readCount? (t : Text) : Option Nat :=
  (Text.toNat? (if t.head? = some '+' then t.tail else t)).filter (· < numberLimit)

/-- Gives an option its value. Only commands can be given more than once. -/
def Setting.set (s : Setting) (value : Text) (a : Arguments) : Option Arguments :=
  match s with
  | .command => some { a with commands := a.commands ++ [value] }
  | .shell => if a.shell.isSome then none else some { a with shell := some (.ofList value) }
  | .timeout =>
    if a.timeout.isSome then none
    else (Duration.ofText? value).map fun d => { a with timeout := some d }
  | .outputLines =>
    if a.outputLines.isSome then none
    else (readCount? value).map fun n => { a with outputLines := some n }

def setFile (path : Text) (a : Arguments) : Option Arguments :=
  if a.file.isSome ∨ path = [] then none else some { a with file := some path }

inductive Reading where
  | done (a : Arguments)
  | wants (s : Setting) (a : Arguments)
  | files (a : Arguments)
  | version
  | invalid

def Reading.ofOption (a? : Option Arguments) : Reading := a?.elim .invalid .done

def Switch.set (s : Switch) (a : Arguments) : Reading :=
  match s with
  | .readOnly => if a.readOnly then .invalid else .done { a with readOnly := true }
  | .verbose => .done { a with verbosity := a.verbosity + 1 }
  | .version => .version

def readShort : Text → Arguments → Reading
  | [], a => .done a
  | 'e' :: value, a =>
    match value with
    | [] => .wants .command a
    | '=' :: value => .ofOption (Setting.command.set value a)
    | value => .ofOption (Setting.command.set value a)
  | c :: t, a =>
    match Switch.ofShort? c with
    | none => .invalid
    | some s => match s.set a with
      | .done a => readShort t a
      | r => r

def readLong (t : Text) (a : Arguments) : Reading :=
  let name := t.takeWhile (· ≠ '=')
  match Setting.ofLong? (.ofList name), Switch.ofLong? (.ofList name), t.drop name.length with
  | some s, _, [] => .wants s a
  | some s, _, _ :: value => .ofOption (s.set value a)
  | none, some s, [] => s.set a
  | none, _, _ => .invalid

def readOne (t : Text) (a : Arguments) : Reading :=
  match t with
  | ['-', '-'] => .files a
  | '-' :: '-' :: t => readLong t a
  | '-' :: c :: t => readShort (c :: t) a
  | t => .ofOption (setFile t a)

/-- Reads arguments from the left, with the option that waits for its value. There is no answer
where the arguments cannot be understood. -/
def readFrom : Option Setting → List Text → Arguments → Option Request
  | none, [], a => some (.edit a)
  | some _, [], _ => none
  | some s, value :: rest, a =>
    if value.head? = some '-' ∧ value ≠ ['-'] then none
    else (s.set value a).bind (readFrom none rest)
  | none, t :: rest, a =>
    match readOne t a with
    | .done a => readFrom none rest a
    | .wants s a => readFrom (some s) rest a
    | .files a => (rest.foldlM (fun a path => setFile path a) a).map .edit
    | .version => some .version
    | .invalid => none

def read (args : List Text) : Option Request := readFrom none args {}

end Arguments

end StructuralEdit
