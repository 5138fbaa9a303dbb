import Std.Data.HashMap
import StructuralEdit.Shell.Launching
import StructuralEdit.Shell.Records.Print
import StructuralEdit.Shell.Records.Separation
import StructuralEdit.Shell.Redirection
/-!
The state of a script that processes records: its variables, the record with its fields, and what
is open for reading and writing.
-/
namespace StructuralEdit.Shell.Records

inductive Control where
  | running
  | breaking
  | continuing
  | nextRecord
  | nextFile
  | returning (v : Value)
  | exiting
  | failed
  | exhausted

inductive Cell where
  | value (v : Value)
  | array (id : Nat)
  /-- Nothing so far. If it comes to hold an array, so does the one that it was passed from. -/
  | unused (origin : Option Nat)

/-- The key of an item, and the number that it is if it was given as one. -/
structure Key where
  text : Text
  number : Option Int := none

structure Item where
  value : Value
  time : Nat
  number : Option Int

structure Table where
  items : Std.HashMap Text Item := {}
  time : Nat := 0
  isNumbered : Bool := true

namespace Table

def size (t : Table) : Nat := t.items.size

def placesFor (size : Nat) : Nat :=
  (List.range 20).foldl (fun places _ => if 12 * places < size then 2 * places else places) 64

def hash (places : Nat) (key : Text) : Nat :=
  (key.foldl (fun (h : UInt32) c => (h ^^^ c.toNat.toUInt32) * 16777619) 2166136261).toNat % places

/-- The keys by their places. Of texts at one place the last one used comes first, of numbers the
greater one as far as places can tell. -/
def keys (t : Table) : List Text :=
  let places := placesFor t.size
  let rank (key : Text) (x : Item) : Nat × Nat × Nat :=
    match t.isNumbered, x.number with
    | true, some n => (hash places key, places - (n % places).toNat, x.time)
    | _, _ => (hash places key, 0, t.time - x.time)
  let all := t.items.toList.map fun (key, x) => (rank key x, key)
  let before (a b : Nat × Nat × Nat) : Bool :=
    a.1 < b.1 || (a.1 = b.1 && (a.2.1 < b.2.1 || (a.2.1 = b.2.1 && a.2.2 ≤ b.2.2)))
  (all.mergeSort fun a b => before a.1 b.1).map (·.2)

/-- The array once it is known by texts. The order of its keys stays. -/
def named (t : Table) : Table :=
  if !t.isNumbered then t
  else
    let items := t.keys.reverse.foldl (fun (items, time) key =>
      match t.items.get? key with
      | some x => (items.insert key { x with time }, time + 1)
      | none => (items, time)) (t.items, t.time)
    { items := items.1, time := items.2, isNumbered := false }

def reached (t : Table) (key : Key) : Table := if key.number.isSome then t else t.named

def has (t : Table) (key : Key) : Bool := t.items.contains key.text

def set (t : Table) (key : Key) (v : Value) : Table :=
  let t := t.reached key
  { t with items := t.items.insert key.text ⟨v, t.time, key.number⟩, time := t.time + 1 }

def get (t : Table) (key : Key) : Value := ((t.items.get? key.text).map (·.value)).getD .unset

def erase (t : Table) (key : Key) : Table := { t with items := t.items.erase key.text }

def ofList (items : List (Text × Value)) : Table :=
  items.foldl (fun t (key, v) => t.set { text := key } v) {}

def ofParts (parts : List Text) : Table :=
  parts.zipIdx.foldl (fun t (x, n) =>
    t.set { text := shown (n + 1), number := some ((n : Int) + 1) } (.input x)) {}

end Table

/-- Something that is open for writing. A command runs once it is closed. -/
structure Target where
  name : Text
  sink : Sink
  text : List Text := []
  descriptor : Nat := 0

structure Source where
  name : Text
  isCommand : Bool
  rest : Text
  status : Nat := 0

structure Input where
  next : Nat := 1
  rest : Option Text := none
  hasOpened : Bool := false
  size : Option Nat := none

structure State where
  machine : Machine
  name : Text
  control : Control := .running
  line : Nat := 0
  status : Nat := 0
  /-- How many more steps are taken before the script is taken to go on forever. -/
  patience : Nat
  globals : Std.HashMap Text Nat := {}
  cells : Std.HashMap Nat Cell := {}
  tables : Std.HashMap Nat Table := {}
  next : Nat := 0
  locals : List (Text × Nat) := []
  record : Value := .unset
  isLoose : Bool := false
  fields : Array Value := #[]
  isWhole : Bool := true
  separator : Text × Separator := ([' '], .blanks)
  terminator : Text × Terminator := (['\n'], .char '\n')
  ranges : List Nat := []
  out : List Text := []
  targets : List Target := []
  sources : List Source := []
  input : Input := {}
  seed : Value := .number .zero

namespace State

def isRunning (s : State) : Bool := s.control matches .running

def spend (s : State) : State :=
  if !s.isRunning then s
  else if s.patience = 0 then { s with control := .exhausted }
  else { s with patience := s.patience - 1 }

def fail (message : Text) (s : State) : State :=
  { s with
    machine := s.machine.write 2 (s.name ++ ": ".toList ++ message ++ ['\n'])
    control := .failed, status := 2 }

def failPattern (reason : String) (t : Text) (s : State) : State :=
  s.fail (Complaint.text ⟨s.line, .badPattern reason t⟩)

/-! ### Variables -/

def cellOf (name : Text) (s : State) : Nat × State :=
  match s.locals.lookup name with
  | some id => (id, s)
  | none =>
    match s.globals.get? name with
    | some id => (id, s)
    | none =>
      (s.next, { s with
        globals := s.globals.insert name s.next
        cells := s.cells.insert s.next (.unused none), next := s.next + 1 })

/-- Takes the cells out of a state, so that nothing else holds them while they change. -/
@[noinline] def takeCells (s : State) : Std.HashMap Nat Cell × State :=
  (s.cells, { s with cells := {} })

/-- Takes the arrays out of a state, so that nothing else holds them while they change. -/
@[noinline] def takeTables (s : State) : Std.HashMap Nat Table × State :=
  (s.tables, { s with tables := {} })

def setCell (id : Nat) (c : Cell) (s : State) : State :=
  let (cells, s) := s.takeCells
  { s with cells := cells.insert id c }

def plain (name : Text) (s : State) : Value :=
  let id? := match s.locals.lookup name with
    | some id => some id
    | none => s.globals.get? name
  match id?.bind fun id => s.cells.get? id with
  | some (.value v) => v
  | _ => .unset

def setPlain (name : Text) (v : Value) (s : State) : State :=
  let (id, s) := s.cellOf name
  s.setCell id (.value v)

def setting (name : String) (s : State) : Text := (s.plain name.toList).toText "%.6g".toList

def conversion (s : State) : Text := s.setting "CONVFMT"

def textOf (v : Value) (s : State) : Text :=
  match v with
  | .number r =>
    match Value.whole? r with
    | some n => shownInt n
    | none => Value.render s.conversion r
  | .text t | .input t => t
  | .unset => []

def printed (v : Value) (s : State) : Text :=
  match v with
  | .number r =>
    match Value.whole? r with
    | some n => shownInt n
    | none => Value.render (s.setting "OFMT") r
  | v => s.textOf v

/-- The array that a cell holds. One that was not used so far holds a new one, and so does the one
it was passed from. The first argument bounds how often a cell was passed on. -/
def arrayAt : Nat → Nat → State → Nat × State
  | 0, _, s => (0, s)
  | n + 1, id, s =>
    match s.cells.get? id with
    | some (.array table) => (table, s)
    | some (.unused (some origin)) =>
      let (table, s) := arrayAt n origin s
      (table, s.setCell id (.array table))
    | some (.value _) => (0, s)
    | _ =>
      let table := s.next
      let s := { s with tables := s.tables.insert table {}, next := s.next + 1 }
      (table, s.setCell id (.array table))

def arrayOf (name : Text) (s : State) : Nat × State :=
  let (id, s) := s.cellOf name
  s.arrayAt (s.next + 1) id

def table (id : Nat) (s : State) : Table := (s.tables.get? id).getD {}

def setTable (id : Nat) (t : Table) (s : State) : State :=
  let (tables, s) := s.takeTables
  { s with tables := tables.insert id t }

def modifyTable (id : Nat) (f : Table → Table) (s : State) : State :=
  let (tables, s) := s.takeTables
  { s with tables := tables.modify id f }

/-! ### Fields -/

/-- The separator that a text means, or the end of a script for which it means none. -/
def separatorOf (t : Text) (s : State) : Separator × State :=
  if t = s.separator.1 then (s.separator.2, s)
  else match Separator.ofText t with
    | .ok sep => (sep, { s with separator := (t, sep) })
    | .error reason => (.blanks, s.failPattern reason t)

def split (s : State) : State :=
  if !s.isWhole then s
  else
    let t := s.textOf s.record
    let (sep, s) := s.separatorOf (s.setting "FS")
    { s with fields := ((sep.parts t).map Value.input).toArray, isWhole := false }

def gather (s : State) : State :=
  if !s.isLoose then s
  else
    let t := joinWith (s.setting "OFS") (s.fields.toList.map fun v => s.textOf v)
    { s with record := .text t, isLoose := false }

def setRecord (v : Value) (s : State) : State :=
  { s with record := v, isLoose := false, isWhole := true }

/-- The record with the separator in use now, which a later change does not reach. -/
def fieldCount (s : State) : Nat × State :=
  let s := s.split
  (s.fields.size, s)

def fieldLimit : Nat := 1000000

def resize (n : Nat) (s : State) : State :=
  let s := s.split
  let fields := if n ≤ s.fields.size then s.fields.extract 0 n
    else s.fields ++ Array.replicate (min n fieldLimit - s.fields.size) (.text [])
  { s with fields, isLoose := true }

def position (s : State) : Text :=
  "\n\tFILENAME=\"".toList ++ s.textOf (s.plain "FILENAME".toList) ++ "\" FNR=".toList ++
    s.textOf (s.plain "FNR".toList) ++ " NR=".toList ++ s.textOf (s.plain "NR".toList)

def runtimeError (message : Text) (s : State) : State :=
  s.fail ("run time error: ".toList ++ message ++ s.position)

/-- The number of a field, or the end of a script that asks for one that cannot be. -/
def fieldNumber (v : Value) (s : State) : Nat × State :=
  let n := decimalOf v.toNumber
  if n < 0 then (0, s.runtimeError ("negative field index $".toList ++ shownInt n))
  else (n.toNat, s)

def field (n : Nat) (s : State) : Value × State :=
  if n = 0 then
    let s := s.gather
    (s.record, s)
  else
    let s := s.split
    ((s.fields[n - 1]?).getD .unset, s)

def setField (n : Nat) (v : Value) (s : State) : State :=
  if n = 0 then s.setRecord v
  else
    let s := s.split
    let s := if s.fields.size < n then s.resize n else s
    { s with fields := s.fields.setIfInBounds (n - 1) v, isLoose := true }

def valueOf (name : Text) (s : State) : Value × State :=
  if name = ['N', 'F'] then
    let (n, s) := s.fieldCount
    (.ofNat n, s)
  else (s.plain name, s)

def setVariable (name : Text) (v : Value) (s : State) : State :=
  if name = ['N', 'F'] then
    let n := decimalOf v.toNumber
    if n < 0 then s.runtimeError "negative value assigned to NF".toList else s.resize n.toNat
  else
    let s := if name = ['F', 'S'] then s.split else s
    let s := if name = "OFS".toList then s.gather else s
    s.setPlain name v

/-! ### Output -/

def flush (s : State) : State :=
  if s.out.isEmpty then s
  else { s with machine := s.machine.write 1 s.out.reverse.flatten, out := [] }

/-- Runs a command with its input as it is. The status is that of the command, or a number above
all statuses if a signal has ended it. -/
def command (e : Engine) (script : Text) (s : State) : State :=
  let (ending, m) := s.machine.ownProcess fun m =>
    e.program ["/bin/sh".toList, ['-', 'c'], script] { m with dialect := .dash }
  let status := match ending with
    | .exited n => n
    | .killed n => 256 + n
  { s with machine := { m with status } }

def flushTarget (t : Target) (s : State) : Target × State :=
  match t.sink with
  | .file _ =>
    ({ t with text := [] },
      { s with machine := s.machine.write t.descriptor t.text.reverse.flatten })
  | .command => (t, s)

def flushAll (s : State) : State :=
  let s := s.flush
  let (ts, s) := s.targets.foldl (fun (ts, s) t =>
    let (t, s) := s.flushTarget t
    (t :: ts, s)) (([] : List Target), s)
  { s with targets := ts.reverse }

def closeTarget (e : Engine) (t : Target) (s : State) : Nat × State :=
  match t.sink with
  | .file _ =>
    let (_, s) := s.flushTarget t
    (0, { s with machine := s.machine.close t.descriptor })
  | .command =>
    let before := s.machine.descriptors
    let m := s.machine.open_ 0 (.source t.text.reverse.flatten)
    let s := command e t.name { s with machine := m }
    let status := s.machine.status
    (status, { s with machine := { s.machine with descriptors := before } })

def standardOutput? (path : Text) : Option Nat :=
  match String.ofList path with
  | "-" | "/dev/stdout" => some 1
  | "/dev/stderr" => some 2
  | _ => none

def openTarget (sink : Sink) (name : Text) (s : State) : Except FileError (Target × State) :=
  match sink with
  | .command =>
    let s := s.flushAll
    .ok ({ name, sink }, s)
  | .file appends =>
    let descriptor := 100 + s.machine.next
    let how : Machine.Opening := if appends then .appending else .writing
    (s.machine.openPath descriptor name how).map fun machine =>
      ({ name, sink, descriptor }, { s with machine })

def emit (t : Text) (sink : Option (Sink × Text)) (s : State) : State :=
  match sink with
  | none => { s with out := t :: s.out }
  | some (sink, name) =>
    let isFile : Bool := sink matches .file _
    match if isFile then standardOutput? name else none with
    | some 1 => { s with out := t :: s.out }
    | some n => { s with machine := s.machine.write n t }
    | none =>
      let isSame (x : Target) : Bool :=
        x.name = name && (x.sink matches .file _) == isFile
      let add (x : Target) (s : State) : State :=
        { s with targets :=
            { x with text := t :: x.text } :: s.targets.filter fun y => !isSame y }
      match s.targets.find? isSame with
      | some x => add x s
      | none =>
        match s.openTarget sink name with
        | .ok (x, s) => add x s
        | .error e =>
          s.fail ("cannot open \"".toList ++ name ++ ("\" for output (" ++ e.reason ++ ")").toList)

/-! ### Input -/

def takeInput (s : State) : Text × State :=
  (s.machine.input, { s with machine := s.machine.leaveAt 0 [] })

def readPath (path : Text) (s : State) : Except FileError (Text × State) :=
  if path = ['-'] ∨ path = "/dev/stdin".toList then .ok s.takeInput
  else match Machine.device? path with
    | some c => .ok (s.machine.contentOf c, s)
    | none => (s.machine.files.read (decode path)).map fun bs => (Text.ofOctets bs, s)

def currentTerminator (s : State) : Terminator × State :=
  let t := s.setting "RS"
  if t = s.terminator.1 then (s.terminator.2, s)
  else match Terminator.ofText t with
    | .ok e => (e, { s with terminator := (t, e) })
    | .error reason => (.char '\n', s.failPattern reason t)

/-- The name and the value of an argument that gives a value to a variable. -/
def assignment? (t : Text) : Option (Text × Text) :=
  let name := t.takeWhile isNameChar
  match t.drop name.length with
  | '=' :: value =>
    if (name.head?).any isNameStart then
      some (name, Scan.unescape (value.length + 1) value)
    else none
  | _ => none

def addTo (name : String) (n : Nat) (s : State) : State :=
  let v := s.plain name.toList
  s.setPlain name.toList (.number (Real.add Real.double v.toNumber (.ofNat n)))

/-- Opens the next file that the arguments name. Without any the input is read. The first argument
bounds their number. -/
def openNext : Nat → State → State
  | 0, s => s
  | n + 1, s =>
    let count := (decimalOf (s.plain "ARGC".toList).toNumber).toNat
    let useInput (s : State) : State :=
      let (t, s) := s.takeInput
      let s := s.setPlain "FILENAME".toList (.text ['-'])
      { s with input := { s.input with rest := some t, hasOpened := true, size := some t.length } }
    if count ≤ s.input.next then
      if s.input.hasOpened then s else useInput s
    else
      let (id, s) := s.arrayOf "ARGV".toList
      let key := shown s.input.next
      let argument := match (s.table id).items.get? key with
        | some x => s.textOf x.value
        | none => []
      let s := { s with input := { s.input with next := s.input.next + 1 } }
      if argument.isEmpty then openNext n s
      else match assignment? argument with
        | some (name, value) => openNext n (s.setVariable name (.input value))
        | none =>
          match s.readPath argument with
          | .ok (t, s) =>
            let s := s.setPlain "FILENAME".toList (.input argument)
            let s := s.setPlain "FNR".toList (.number .zero)
            let isInput : Bool := argument = ['-']
            { s with input := { s.input with
                rest := some t, hasOpened := true
                size := if isInput then some t.length else none } }
          | .error .isDirectory =>
            s.fail "read error (Is a directory)".toList
          | .error e =>
            s.fail ("cannot open \"".toList ++ argument ++ ("\" (" ++ e.reason ++ ")").toList)

def readRecord : Nat → State → Option Text × State
  | 0, s => (none, s)
  | n + 1, s =>
    match s.input.rest with
    | some t =>
      let (e, s) := s.currentTerminator
      match e.next? t with
      | some (r, rest) =>
        (some r, { s with input := { s.input with rest := some rest } })
      | none => readRecord n { s with input := { s.input with rest := none } }
    | none =>
      let s := openNext (s.input.next + 1000) s
      if s.isRunning ∧ s.input.rest.isSome then readRecord n s else (none, s)

def nextRecord (s : State) : Option Text × State :=
  let (r, s) := readRecord 1000 s
  match r with
  | some t => (some t, (s.addTo "NR" 1).addTo "FNR" 1)
  | none => (none, s)

def leaveFile (s : State) : State := { s with input := { s.input with rest := none } }

def close (e : Engine) (name : Text) (s : State) : Value × State :=
  match s.targets.find? fun t => t.name = name with
  | some t =>
    let s := { s with targets := s.targets.filter fun t => t.name ≠ name }
    let (status, s) := s.closeTarget e t
    (.ofNat status, s)
  | none =>
    match s.sources.find? fun x => x.name = name with
    | some x =>
      (.ofNat x.status, { s with sources := s.sources.filter fun x => x.name ≠ name })
    | none => (.number (.ofInt (-1)), s)

/-- Gives back what was not read of the input. It is read in blocks. -/
def giveBack (s : State) : State :=
  match s.input.rest, s.input.size with
  | some rest, some size =>
    let taken := size - rest.length
    let block := 4096
    let more := (taken + block - 1) / block * block - taken
    { s with machine := s.machine.leaveAt 0 (rest.drop more) }
  | _, _ => s

def finish (e : Engine) (s : State) : State :=
  let ts := s.targets
  let s := ts.foldl (fun s t => (s.closeTarget e t).2) { s with targets := [] }
  s.giveBack.flush

end State

end StructuralEdit.Shell.Records
