import StructuralEdit.Command.Read
import StructuralEdit.Evaluation
import StructuralEdit.Host
/-!
Running commands in an editor: a command is read, evaluated on the current buffer, and only then
has its effect, with messages that say what happened.
-/
namespace StructuralEdit

inductive Outcome where
  | changed (count : Nat)
  | printed (lines : Nat)
  /-- All filters failed, so many of them. -/
  | filtersFailed (count : Nat)
  | noMatches
  deriving DecidableEq, Repr

structure Session (σ : Type) where
  config : Config := {}
  filter : Filter σ

/-- An editor and what its filters remember. -/
structure World (η σ : Type) where
  host : η
  memory : σ

abbrev Result := Except Failure Outcome

variable {η σ : Type} [Host η]

/-- The first line of a text, cut to a width, with dots if there is more of the text. -/
def summary (t : Text) (width : Nat) : Text :=
  let first := t.rows.headD []
  -- A row has lost a carriage return at its end, of which the dots do not tell.
  first.take width ++
    if width < first.length ∨ 1 < t.rows.length then ['.', '.', '.'] else []

def failureMessage (f : Failure) : String := "Error: " ++ f.message

def reportFailures (fs : List Failure) (h : η) : η :=
  fs.foldl (fun h f => Host.say (failureMessage f) h) h

def readInput (input : Text) : Except Failure Command :=
  let input := Text.trim input
  if input.isEmpty then .error .emptyCommand
  -- Places of errors are those in the text without the blanks.
  else match Command.read input with
    | .ok c => .ok c
    | .error e => .error (.malformed e)

def commit (t : Text) (e : Evaluation) (h : η) : Result × η :=
  match e.apply t with
  | .error f => (.error f, h)
  | .ok u =>
    match Host.replace u h with
    | (.error f, h) => (.error f, h)
    | (.ok (), h) =>
      let count := e.changes.length
      (.ok (.changed count), Host.say (toString count ++ " change(s) applied") h)

def nothingHappened (e : Evaluation) (h : η) : Result × η :=
  if e.failures.isEmpty then (.ok .noMatches, Host.say "No matches" h)
  else (.ok (.filtersFailed e.failures.length), h)

def dropLastNewline (t : Text) : Text := if t.getLast? = some '\n' then t.dropLast else t

/-- Shows output: a few lines as a message, more of them in a buffer. -/
def presentOutput (config : Config) (e : Evaluation) (h : η) : η :=
  let lines := e.outputLines
  if lines ≤ config.shortOutputLines then Host.say (.ofList (dropLastNewline e.output)) h
  else
    Host.say (toString lines ++ " lines of output") (Host.present config.outputBuffer e.output h)

def conclude (config : Config) (t : Text) (e : Evaluation) (h : η) : Result × η :=
  let h := reportFailures e.failures h
  if e.hasChanges then commit t e h
  else if e.output.isEmpty then nothingHappened e h
  else (.ok (.printed e.outputLines), presentOutput config e h)

def sayIfAny (t : Text) (message : Text) (h : η) : η :=
  if t.isEmpty then h else Host.say (.ofList message) h

def concludeOnRegion (config : Config) (t : Text) (e : Evaluation) (h : η) : Result × η :=
  let h := reportFailures e.failures h
  let line := summary e.output config.summaryWidth
  if e.hasChanges then
    match commit t e h with
    | (.ok o, h) => (.ok o, sayIfAny e.output line h)
    | (.error f, h) => (.error f, h)
  else if e.output.isEmpty then nothingHappened e h
  else (.ok (.printed e.outputLines), sayIfAny e.output line h)

namespace Session

/-- Runs a command on the region that `region` picks from the buffer, and gives the evaluation to
`finish`. -/
def runOn (s : Session σ) (input : Text) (region : Text → Region)
    (finish : Text → Evaluation → η → Result × η) (w : World η σ) : Result × World η σ :=
  match readInput input with
  | .error f => (.error f, w)
  | .ok c =>
    match Host.contents w.host with
    | .error f => (.error f, w)
    | .ok t =>
      match c.evaluate s.filter t (region t) w.memory with
      -- What the evaluation has collected so far is dropped, failures of filters included.
      | (.error f, memory) => (.error f, { w with memory })
      | (.ok e, memory) =>
        let (r, host) := finish t e w.host
        (r, { host, memory })

def execute (s : Session σ) (input : Text) : World η σ → Result × World η σ :=
  s.runOn input Text.whole (conclude s.config)

def executeOnRegion (s : Session σ) (input : Text) (a b : Nat) :
    World η σ → Result × World η σ :=
  s.runOn input (fun t => t.clampRegion a b) (concludeOnRegion s.config)

end Session

end StructuralEdit
