import StructuralEdit.Files
import StructuralEdit.Shell.Glob
import StructuralEdit.Shell.Script
/-!
The state of a shell and of the system around it: parameters, files, open descriptors, and what
has been written so far.
-/
namespace StructuralEdit.Shell

def forever : Nat := 1000000000000000000000000000000

inductive Ending where
  | exited (status : Nat)
  | killed (signal : Nat)
  deriving DecidableEq, Repr

/-- What a shell is about to do: go on, or leave what it is in. -/
inductive Control where
  | running
  | leaving (loops : Nat)
  | continuing (loops : Nat)
  | returning
  | ended (e : Ending)
  deriving DecidableEq, Repr

inductive Channel where
  | source (rest : Text)
  | stream (n : Nat)
  | file (names : List Text) (place : Nat) (appends : Bool)
  | null
  | zero
  | full

inductive Value where
  | text (t : Text)
  | indexed (items : List (Int × Text))
  | associative (items : List (Text × Text))

/-- A variable. It may have properties before it has a value. -/
structure Binding where
  value : Option Value := none
  isExported : Bool := false
  isReadOnly : Bool := false
  isInteger : Bool := false
  letters : Option LetterCase := none
  isReference : Bool := false

def Binding.shape (b : Binding) (t : Text) : Text :=
  match b.letters with
  | some k => k.change t
  | none => t

structure Writing where
  stream : Nat
  time : Nat
  text : Text

structure Job where
  number : Nat
  finish : Nat
  status : Nat

structure Machine where
  dialect : Dialect
  name : Text
  arguments : List Text := []
  bindings : List (Text × Binding) := []
  /-- What the variables of each function hide, the innermost function first. -/
  hidden : List (List (Text × Option Binding)) := []
  functions : List (Text × Script) := []
  aliases : List (Text × Text) := []
  settings : List String := []
  traps : List (String × Text) := []
  line : Nat := 1
  status : Nat := 0
  control : Control := .running
  isTested : Bool := false
  loops : Nat := 0
  isSubshell : Bool := false
  substituted : Option Nat := none
  files : Files
  descriptors : List (Nat × Nat) := []
  channels : List (Nat × Channel) := []
  next : Nat := 3
  written : List Writing := []
  /-- The time that has passed, in nanoseconds. -/
  clock : Nat := 0
  jobs : List Job := []
  /-- The place of the next option in the argument that is looked at, and the bits that new files
  do not get. -/
  optionPlace : Nat := 0
  mask : Nat := 18
  /-- Files that scripts read once the command that writes them is over. -/
  sinks : List (Text × Text × Nat) := []

abbrev Runner := Script → Machine → Machine

namespace Machine

def processId : Nat := 4242

def parentId : Nat := 4241

def isRunning (m : Machine) : Bool := m.control = .running

def has (m : Machine) (setting : String) : Bool := m.settings.contains setting

def set (on : Bool) (setting : String) (m : Machine) : Machine :=
  let others := m.settings.filter (· ≠ setting)
  { m with settings := if on then others ++ [setting] else others }

def usualFeatures : List String :=
  ["checkwinsize", "cmdhist", "complete_fullquote", "extquote", "force_fignore", "globasciiranges",
    "globskipdots", "hostcomplete", "interactive_comments", "patsub_replacement", "progcomp",
    "promptvars", "sourcepath"]

/-- Whether the shell has a feature that can be turned on and off. The settings tell only what is
unusual. -/
def hasFeature (m : Machine) (feature : String) : Bool :=
  if usualFeatures.contains feature then !m.has ("no " ++ feature) else m.has feature

def setFeature (on : Bool) (feature : String) (m : Machine) : Machine :=
  if usualFeatures.contains feature then m.set (!on) ("no " ++ feature) else m.set on feature

def finish (status : Nat) (m : Machine) : Machine :=
  { m with status, control := .ended (.exited status) }

/-- The machine as it is once a process of its own has ended. A signal does not reach it. -/
def endingStatus (m : Machine) : Nat :=
  match m.control with
  | .ended (.exited n) => n
  | .ended (.killed n) => 128 + n
  | _ => m.status

/-! ### Descriptors -/

def channel? (m : Machine) (descriptor : Nat) : Option Channel :=
  (m.descriptors.lookup descriptor).bind fun id => m.channels.lookup id

def bind (descriptor id : Nat) (m : Machine) : Machine :=
  { m with descriptors :=
      (descriptor, id) :: m.descriptors.filter fun d => d.1 ≠ descriptor }

def close (descriptor : Nat) (m : Machine) : Machine :=
  { m with descriptors := m.descriptors.filter fun d => d.1 ≠ descriptor }

def open_ (descriptor : Nat) (c : Channel) (m : Machine) : Machine :=
  bind descriptor m.next { m with channels := (m.next, c) :: m.channels, next := m.next + 1 }

def setChannel (id : Nat) (c : Channel) (m : Machine) : Machine :=
  { m with channels := m.channels.map fun (i, old) => (i, if i = id then c else old) }

def contentOf (m : Machine) : Channel → Text
  | .source rest => rest
  | .file names place _ => Text.ofOctets ((m.files.content names).drop place)
  | .zero => List.replicate 200000 '\x00'
  | _ => []

def inputAt (m : Machine) (descriptor : Nat) : Text :=
  (m.channel? descriptor).elim [] m.contentOf

def input (m : Machine) : Text := m.inputAt 0

def inputIsFile (m : Machine) : Bool :=
  match m.channel? 0 with
  | some (.file ..) => true
  | _ => false

def leaveAt (descriptor : Nat) (rest : Text) (m : Machine) : Machine :=
  match m.descriptors.lookup descriptor with
  | none => m
  | some id =>
    match m.channels.lookup id with
    | some (.source _) => m.setChannel id (.source rest)
    | some (.file names place appends) =>
      let taken := (m.files.content names).length - place - rest.length
      m.setChannel id (.file names (place + taken) appends)
    | _ => m

inductive WriteError where
  | badDescriptor
  | noSpace
  deriving DecidableEq

def WriteError.reason : WriteError → String
  | .badDescriptor => "Bad file descriptor"
  | .noSpace => "No space left on device"

def writeError? (m : Machine) (descriptor : Nat) : Option WriteError :=
  match m.channel? descriptor with
  | none | some (.source _) => some .badDescriptor
  | some .full => some .noSpace
  | _ => none

def overwrite (content : Bytes) (place : Nat) (t : Text) : Bytes :=
  let before := content.take place
  before ++ List.replicate (place - before.length) 0 ++ t.octets ++
    content.drop (place + t.length)

def write (descriptor : Nat) (t : Text) (m : Machine) : Machine :=
  match m.descriptors.lookup descriptor with
  | none => m
  | some id =>
    match m.channels.lookup id with
    | some (.stream n) =>
      { m with written := { stream := n, time := m.clock, text := t } :: m.written }
    | some (.file names place appends) =>
      let content := m.files.content names
      let place := if appends then content.length else place
      setChannel id (.file names (place + t.length) appends)
        { m with files := m.files.setContent names (overwrite content place t) }
    | _ => m

def drain (n : Nat) (m : Machine) : Text × Machine :=
  let (own, others) := m.written.partition fun w => w.stream = n
  let sorted := own.reverse.mergeSort fun a b => a.time ≤ b.time
  (sorted.flatMap (·.text), { m with written := others })

/-! ### Complaints -/

def complain (message : Text) (status : Nat) (m : Machine) : Machine :=
  let place := match m.dialect with
    | .dash => ": "
    | .bash => ": line "
  { m.write 2 (m.name ++ place.toList ++ shown m.line ++ ": ".toList ++ message ++ ['\n']) with
    status }

def fail (message : Text) (status : Nat) (m : Machine) : Machine :=
  (m.complain message status).finish status

def complainOf (command : Text) (message : String) (status : Nat) (m : Machine) : Machine :=
  m.complain (command ++ (": " ++ message).toList) status

/-! ### Variables -/

def binding? (m : Machine) (name : Text) : Option Binding := m.bindings.lookup name

def setBinding (name : Text) (b : Binding) (m : Machine) : Machine :=
  if m.bindings.any fun x => x.1 = name then
    { m with bindings := m.bindings.map fun x => if x.1 = name then (name, b) else x }
  else { m with bindings := m.bindings ++ [(name, b)] }

def removeBinding (name : Text) (m : Machine) : Machine :=
  { m with bindings := m.bindings.filter fun x => x.1 ≠ name }

/-- The text of a value. Of an array it is the first item. -/
def textOf? : Value → Option Text
  | .text t => some t
  | .indexed items => items.lookup 0
  | .associative items => items.lookup ['0']

def target (m : Machine) : Nat → Text → Text
  | 0, name => name
  | n + 1, name =>
    match m.binding? name with
    | some b =>
      if b.isReference then
        match b.value.bind textOf? with
        | some next => target m n next
        | none => name
      else name
    | none => name

def bucket (key : Text) : Nat :=
  (key.foldl (fun (h : UInt32) c =>
    let code := c.toNat
    h * 16777619 ^^^ (if code < 128 then code else code + 4294967040).toUInt32)
    2166136261).toNat % 1024

def listed (items : List (Text × Text)) : List (Text × Text) :=
  items.reverse.mergeSort fun a b => bucket a.1 ≤ bucket b.1

def optionLetters : List (Char × String) :=
  [('a', "allexport"), ('b', "notify"), ('C', "noclobber"), ('e', "errexit"), ('f', "noglob"),
    ('I', "ignoreeof"), ('i', "interactive"), ('m', "monitor"), ('n', "noexec"), ('s', "stdin"),
    ('u', "nounset"), ('v', "verbose"), ('x', "xtrace")]

def flagText (m : Machine) : Text :=
  let on := (optionLetters.filter fun o => m.has o.2).map (·.1)
  match m.dialect with
  | .bash => on.filter (· ≠ 'x') ++ "hBc".toList ++ on.filter (· = 'x')
  | .dash => on.reverse

def parameter? (m : Machine) (name : Text) : Option Text :=
  match name with
  | ['?'] => some (shown m.status)
  | ['$'] => some (shown processId)
  | ['#'] => some (shown m.arguments.length)
  | ['0'] => some m.name
  | ['-'] => some m.flagText
  | ['!'] => m.jobs.head?.map fun j => shown j.number
  | _ =>
    if name.all Char.isDigit then m.arguments[ofDigits 10 name - 1]?
    else
      let name := m.target 10 name
      match m.binding? name with
      | some b => b.value.bind textOf?
      | none =>
        match String.ofList name with
        | "LINENO" => if m.dialect = .bash then some (shown m.line) else none
        | "PPID" => some (shown parentId)
        | "SECONDS" => if m.dialect = .bash then some (shown (m.clock / 1000000000)) else none
        | "RANDOM" =>
          if m.dialect = .bash then some (shown ((m.next * 7919 + m.clock) % 32768)) else none
        | "SHELLOPTS" =>
          if m.dialect = .bash then
            some (joinWith [':'] ((m.settings.filter fun s => !s.contains ' ').map String.toList
              |>.mergeSort Text.precedes))
          else none
        | "EPOCHSECONDS" => if m.dialect = .bash then some "1700000000".toList else none
        | "BASHPID" => if m.dialect = .bash then some (shown processId) else none
        | "BASH_SUBSHELL" =>
          if m.dialect = .bash then some (if m.isSubshell then ['1'] else ['0']) else none
        | _ => none

def parameter (m : Machine) (name : Text) : Text := (m.parameter? name).getD []

def separators (m : Machine) : Text :=
  match m.binding? "IFS".toList with
  | some b => (b.value.bind textOf?).getD [' ', '\t', '\n']
  | none => [' ', '\t', '\n']

def store (name : Text) (v : Value) (m : Machine) : Machine :=
  let b := (m.binding? name).getD {}
  m.setBinding name
    { b with value := some v, isExported := b.isExported || m.has "allexport" }

def setItem (items : List (Int × Text)) (i : Int) (t : Text) : List (Int × Text) :=
  items.filter (·.1 < i) ++ (i, t) :: items.filter (i < ·.1)

def assign (name t : Text) (m : Machine) : Machine :=
  let name := m.target 10 name
  let b := (m.binding? name).getD {}
  let t := b.shape t
  m.store name (match b.value with
    | some (.indexed items) => .indexed (setItem items 0 t)
    | some (.associative items) =>
      .associative (items.filter (·.1 ≠ ['0']) ++ [(['0'], t)])
    | _ => .text t)

def isReadOnly (m : Machine) (name : Text) : Bool :=
  (m.binding? (m.target 10 name)).any (·.isReadOnly)

def readOnlyMessage (m : Machine) (name : Text) : Text :=
  name ++ match m.dialect with
    | .dash => ": is read only".toList
    | .bash => ": readonly variable".toList

/-- Gives a text to a variable, which ends the shell if the variable must not be changed. -/
def assignOrFail (name t : Text) (m : Machine) : Machine :=
  if m.isReadOnly name then
    match m.dialect with
    | .dash => m.fail (m.readOnlyMessage name) 2
    | .bash => m.fail (m.readOnlyMessage name) 1
  else m.assign name t

def environment (m : Machine) : List (Text × Text) :=
  m.bindings.filterMap fun (name, b) =>
    match b.isExported, b.value with
    | true, some v => (textOf? v).map fun t => (name, t)
    | _, _ => none

def hide (name : Text) (m : Machine) : Machine :=
  match m.hidden with
  | scope :: scopes =>
    if scope.any fun h => h.1 = name then m
    else { m with hidden := ((name, m.binding? name) :: scope) :: scopes }
  | [] => m

def reveal (m : Machine) : Machine :=
  match m.hidden with
  | scope :: scopes =>
    scope.foldl (fun m (name, b) =>
      match b with
      | some b => m.setBinding name b
      | none => m.removeBinding name) { m with hidden := scopes }
  | [] => m

/-! ### Processes -/

def absorbSystem (r : Machine) (m : Machine) : Machine :=
  { m with
    files := { r.files with current := m.files.current }
    channels := r.channels, next := r.next, written := r.written, clock := r.clock }

/-- Runs a part of a script whose variables, redirections and end do not reach the rest. A signal
for the shell's own process reaches it from everywhere. -/
def inSubshell (f : Machine → Machine) (m : Machine) : Machine :=
  let r := f { m with isSubshell := true, loops := 0 }
  { absorbSystem r m with
    status := r.endingStatus
    control := match r.control with
      | .ended (.killed s) => .ended (.killed s)
      | _ => m.control }

def capture (f : Machine → Machine) (m : Machine) : Text × Machine :=
  let n := m.next
  let go (inner : Machine) : Machine := f (inner.open_ 1 (.stream n))
  drain n (inSubshell go { m with next := n + 1 })

end Machine

end StructuralEdit.Shell
