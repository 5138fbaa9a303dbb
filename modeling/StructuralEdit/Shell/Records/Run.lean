import StructuralEdit.Shell.Records.Calculation
import StructuralEdit.Shell.Records.Rules
import StructuralEdit.Shell.Records.State
/-!
Running scripts that process records.
-/
namespace StructuralEdit.Shell.Records

/-- How expressions are evaluated and actions are taken, one level further inside. -/
structure Inner where
  engine : Engine
  script : Script
  value : Expr → State → Value × State
  act : Action → State → State

namespace Inner

def values (i : Inner) (es : List Expr) (s : State) : List Value × State :=
  let (vs, s) := es.foldl (fun (vs, s) e =>
    let (v, s) := i.value e s
    (v :: vs, s)) (([] : List Value), s)
  (vs.reverse, s)

def text (i : Inner) (e : Expr) (s : State) : Text × State :=
  let (v, s) := i.value e s
  (s.textOf v, s)

def key (i : Inner) (subscripts : List Expr) (s : State) : Key × State :=
  match subscripts with
  | [e] =>
    let (v, s) := i.value e s
    let number := match v with
      | .number r => Value.whole? r
      | _ => none
    ({ text := s.textOf v, number }, s)
  | es =>
    let (vs, s) := i.values es s
    ({ text := joinWith (s.setting "SUBSEP") (vs.map s.textOf) }, s)

/-! ### Targets -/

/-- A place that a value can be put in. -/
inductive Place where
  | variable (name : Text)
  | item (table : Nat) (key : Key)
  | field (n : Nat)
  | nowhere

def place (i : Inner) (target : Expr) (s : State) : Place × State :=
  match target with
  | .variable name => (.variable name, s)
  | .element name subscripts =>
    let (k, s) := i.key subscripts s
    let (id, s) := s.arrayOf name
    (.item id k, s)
  | .field e =>
    let (v, s) := i.value e s
    let (n, s) := s.fieldNumber v
    (.field n, s)
  | _ => (.nowhere, s)

/-- The value at a place. An item is there from then on. -/
def read (p : Place) (s : State) : Value × State :=
  match p with
  | .variable name => s.valueOf name
  | .item id k =>
    let v := (s.table id).get k
    (v, s.modifyTable id fun t => t.set k v)
  | .field n => s.field n
  | .nowhere => (.unset, s)

def write (p : Place) (v : Value) (s : State) : State :=
  if !s.isRunning then s
  else match p with
    | .variable name => s.setVariable name v
    | .item id k => s.modifyTable id fun t => t.set k v
    | .field n => s.setField n v
    | .nowhere => s

/-! ### Patterns -/

/-- The expression that is searched for, or the end of a script that gives none. -/
def posix (i : Inner) (e : Expr) (s : State) : Option Posix × State :=
  match e with
  | .pattern p => (some p, s)
  | e =>
    let (t, s) := i.text e s
    match pattern? t with
    | .ok p => (some p, s)
    | .error reason => (none, s.failPattern reason t)

/-! ### Functions -/

def noteMatch (first : Nat) (size : Int) (s : State) : State :=
  (s.setPlain "RSTART".toList (.ofNat first)).setPlain "RLENGTH".toList (.number (.ofInt size))

/-- The part of a text from a place on. What is in front of the text counts, but is not there. -/
def part (t : Text) (first : Real) (size : Option Real) : Text :=
  let limit : Int := 2147483647
  let bounded (r : Real) : Int :=
    match r with
    | .infinite negative => if negative then -limit else limit
    | r => max (-limit) (min limit (r.truncate?.getD 0))
  let first := bounded first
  let rest := t.drop (first - 1).toNat
  match size.map bounded with
  | none => rest
  | some size =>
    let size := if first < 0 then size - first else size
    if limit < size then [] else rest.take size.toNat

def position (needle hay : Text) : Nat → Nat
  | 0 => 0
  | n + 1 =>
    let i := hay.length - n
    if needle.isPrefixOf (hay.drop i) then i + 1 else position needle hay n

def substitute (i : Inner) (all : Bool) (es : List Expr) (s : State) : Value × State :=
  match es with
  | p :: r :: rest =>
    let (p?, s) := i.posix p s
    let (replacement, s) := i.text r s
    let (place, s) := i.place (rest.headD (.field (.number .zero))) s
    let (v, s) := read place s
    match p?, s.isRunning with
    | some p, true =>
      let (t, count) := replaced p replacement all (s.textOf v)
      (.ofNat count, if count = 0 then s else write place (.text t) s)
    | _, _ => (.unset, s)
  | _ => (.unset, s)

def splitInto (i : Inner) (es : List Expr) (s : State) : Value × State :=
  match es with
  | e :: .variable name :: rest =>
    let (t, s) := i.text e s
    let (sep, s) : Separator × State := match rest with
      | .pattern p :: _ => (.pattern p, s)
      | e :: _ =>
        let (t, s) := i.text e s
        s.separatorOf t
      | [] => s.separatorOf (s.setting "FS")
    let (id, s) := s.arrayOf name
    let parts := sep.parts t
    (.ofNat parts.length, s.setTable id (.ofParts parts))
  | _ => (.unset, s)

def apply (i : Inner) (b : Builtin) (vs : List Value) (s : State) : Value × State :=
  let v := vs.headD .unset
  let x := v.toNumber
  let number (r : Real) : Value × State := (.number r, s)
  match b with
  | .length => (.ofNat (s.textOf v).length, s)
  | .index =>
    let hay := s.textOf v
    let needle := s.textOf (vs.tail.headD .unset)
    (.ofNat (position needle hay (hay.length + 1)), s)
  | .substr =>
    let size := (vs.drop 2).head?.map (·.toNumber)
    (.text (part (s.textOf v) (vs.tail.headD .unset).toNumber size), s)
  | .sprintf =>
    let format := s.textOf v
    let (t, mistake) := formatted s.conversion format vs.tail
    match mistake with
    | none => (.text t, s)
    | some m => (.unset, s.runtimeError (m.message "sprintf" format))
  | .sin => number (analytic Float.sin x)
  | .cos => number (analytic Float.cos x)
  | .atan2 => number (analytic₂ Float.atan2 x (vs.tail.headD .unset).toNumber)
  | .exp => number (analytic Float.exp x)
  | .log => number (analytic Float.log x)
  | .sqrt => number (analytic Float.sqrt x)
  | .int => number x.truncated
  | .rand => number (analytic (fun x => x / 1048576.0) (.ofNat ((s.next * 7919 + 12345) % 1048576)))
  | .srand =>
    (s.seed, { s with seed := if vs.isEmpty then .ofNat (s.machine.clock / 1000000000) else v })
  | .toupper => (.text ((s.textOf v).map Char.toUpper), s)
  | .tolower => (.text ((s.textOf v).map Char.toLower), s)
  | .system =>
    let s := s.flushAll.command i.engine (s.textOf v)
    (.ofNat s.machine.status, s)
  | .close => s.close i.engine (s.textOf v)
  | .fflush => (.ofNat 0, s.flushAll)
  | .systime => (.ofNat (s.machine.clock / 1000000000), s)
  | _ => (.unset, s)

def lengthOf (i : Inner) (es : List Expr) (s : State) : Value × State :=
  let measure (v : Value) (s : State) : Value × State := (.ofNat (s.textOf v).length, s)
  match es with
  | [] =>
    let (v, s) := s.field 0
    measure v s
  | [.variable name] =>
    let id? := match s.locals.lookup name with
      | some id => some id
      | none => s.globals.get? name
    match id?.bind fun id => s.cells.get? id with
    | some (.array id) => (.ofNat (s.table id).size, s)
    | _ =>
      let (v, s) := s.valueOf name
      measure v s
  | e :: _ =>
    let (v, s) := i.value e s
    measure v s

def callBuiltin (i : Inner) (b : Builtin) (es : List Expr) (s : State) : Value × State :=
  match b with
  | .length => i.lengthOf es s
  | .sub => i.substitute false es s
  | .gsub => i.substitute true es s
  | .split => i.splitInto es s
  | .match_ =>
    let (t, s) := i.text (es.headD (.text [])) s
    let (p?, s) := i.posix (es.tail.headD (.text [])) s
    match p?.bind fun p => p.find? t.toArray 0 with
    | some m => (.ofNat (m.first + 1), noteMatch (m.first + 1) (m.last - m.first : Nat) s)
    | none => (.ofNat 0, noteMatch 0 (-1) s)
  | b =>
    let (vs, s) := i.values es s
    if s.isRunning then i.apply b vs s else (.unset, s)

/-- The cell for an argument. Arrays are shared, and all else is copied. -/
def argument (i : Inner) (e : Expr) (s : State) : Cell × State :=
  match e with
  | .variable name =>
    if name = ['N', 'F'] then
      let (v, s) := s.valueOf name
      (.value v, s)
    else
      let (id, s) := s.cellOf name
      match s.cells.get? id with
      | some (.unused _) => (.unused (some id), s)
      | some c => (c, s)
      | none => (.unused none, s)
  | e =>
    let (v, s) := i.value e s
    (.value v, s)

def call (i : Inner) (name : Text) (es : List Expr) (s : State) : Value × State :=
  match i.script.functions.find? fun f => f.name = name with
  | none => (.unset, s)
  | some f =>
    let (cells, s) := es.foldl (fun (cells, s) e =>
      let (c, s) := i.argument e s
      (c :: cells, s)) (([] : List Cell), s)
    if !s.isRunning then (.unset, s)
    else
      let count := f.parameters.length
      let first := s.next
      let all := cells.reverse ++ List.replicate (count - cells.length) (Cell.unused none)
      let s := { s with next := first + count }
      let s := all.zipIdx.foldl (fun s (c, n) => s.setCell (first + n) c) s
      let outer := s.locals
      let locals := f.parameters.zipIdx.map fun (x, n) => (x, first + n)
      let s := i.act f.body { s with locals }
      let s := { s with
        locals := outer
        cells := (List.range count).foldl (fun cells (n : Nat) => cells.erase (first + n)) s.cells }
      match s.control with
      | .returning v => (v, { s with control := .running })
      | _ => (.unset, s)

/-! ### Reading -/

def takeFrom (isCommand : Bool) (name : Text) (s : State) : Option Text × State :=
  let isSame (x : Source) : Bool := x.name = name && x.isCommand == isCommand
  match s.sources.find? isSame with
  | none => (none, s)
  | some x =>
    let (e, s) := s.currentTerminator
    match e.next? x.rest with
    | some (r, rest) =>
      (some r, { s with sources := { x with rest } :: s.sources.filter fun y => !isSame y })
    | none =>
      (none, { s with sources := { x with rest := [] } :: s.sources.filter fun y => !isSame y })

def isOpen (isCommand : Bool) (name : Text) (s : State) : Bool :=
  s.sources.any fun x => x.name = name && x.isCommand == isCommand

def failure : Value := .number (.ofInt (-1))

def deliver (target : Option Place) (r : Option Text) (s : State) : Value × State :=
  match r with
  | none => (.ofNat 0, s)
  | some t =>
    let s := match target with
      | some p => write p (.input t) s
      | none => s.setRecord (.input t)
    (.ofNat 1, s)

def getline (i : Inner) (origin : Origin Expr) (target : Option Expr) (s : State) :
    Value × State :=
  let spot (s : State) : Option Place × State :=
    match target with
    | some t =>
      let (p, s) := i.place t s
      (some p, s)
    | none => (none, s)
  match origin with
  | .input =>
    let (p, s) := spot s
    let (r, s) := s.nextRecord
    deliver p r s
  | .file e =>
    let (p, s) := spot s
    let (name, s) := i.text e s
    if isOpen false name s then
      let (r, s) := takeFrom false name s
      deliver p r s
    else match s.readPath name with
      | .ok (rest, s) =>
        let (r, s) := takeFrom false name
          { s with sources := { name, isCommand := false, rest } :: s.sources }
        deliver p r s
      | .error .isDirectory => (failure, s.fail "read error (Is a directory)".toList)
      | .error _ => (failure, s)
  | .command e =>
    let (name, s) := i.text e s
    let (p, s) := spot s
    let s :=
      if isOpen true name s then s
      else
        let s := s.flushAll
        let n := s.machine.next
        let before := s.machine.descriptors
        let m := { s.machine with next := n + 1 }.open_ 1 (.stream n)
        let s := { s with machine := m }.command i.engine name
        let status := s.machine.status
        let (rest, m) := s.machine.drain n
        { s with
          machine := { m with descriptors := before }
          sources := { name, isCommand := true, rest, status } :: s.sources }
    let (r, s) := takeFrom true name s
    deliver p r s

/-! ### Expressions -/

def compare (r : Relation) (a b : Value) (s : State) : Bool :=
  let o := match a.number?, b.number? with
    | some x, some y => (x.compare? y).getD .eq
    | _, _ => Ord.compare (s.textOf a) (s.textOf b)
  r.holds o

def evaluate (i : Inner) (e : Expr) (s : State) : Value × State :=
  if !s.isRunning then (.unset, s)
  else match e with
    | .number r => (.number r, s)
    | .text t => (.text t, s)
    | .pattern p =>
      let (v, s) := s.field 0
      (.ofBool (p.isIn (s.textOf v)), s)
    | .variable name => s.valueOf name
    | .element .. | .field _ =>
      let (p, s) := i.place e s
      if s.isRunning then read p s else (.unset, s)
    | .assign none target e =>
      let (p, s) := i.place target s
      let (v, s) := i.value e s
      (v, write p v s)
    | .assign (some op) target e =>
      let (p, s) := i.place target s
      let (v, s) := i.value e s
      let (old, s) := read p s
      let new := Value.number (op.apply old.toNumber v.toNumber)
      (new, write p new s)
    | .step adds before target =>
      let (p, s) := i.place target s
      let (old, s) := read p s
      let x := old.toNumber
      let new := Value.number ((if adds then Arithmetic.add else .sub).apply x (.ofNat 1))
      (if before then new else .number x, write p new s)
    | .arithmetic op a b =>
      let (x, s) := i.value a s
      let (y, s) := i.value b s
      (.number (op.apply x.toNumber y.toNumber), s)
    | .negate a =>
      let (v, s) := i.value a s
      (.number v.toNumber.neg, s)
    | .plus a =>
      let (v, s) := i.value a s
      (.number v.toNumber, s)
    | .not a =>
      let (v, s) := i.value a s
      (.ofBool (!v.holds), s)
    | .join a b =>
      let (x, s) := i.text a s
      let (y, s) := i.text b s
      (.text (x ++ y), { s with patience := s.patience - x.length / 256 })
    | .compare r a b =>
      let (x, s) := i.value a s
      let (y, s) := i.value b s
      (.ofBool (compare r x y s), s)
    | .search wanted a b =>
      let (t, s) := i.text a s
      match i.posix b s with
      | (some p, s) => (.ofBool (p.isIn t == wanted), s)
      | (none, s) => (.unset, s)
    | .both a b =>
      let (x, s) := i.value a s
      if x.holds then
        let (y, s) := i.value b s
        (.ofBool y.holds, s)
      else (.ofBool false, s)
    | .either a b =>
      let (x, s) := i.value a s
      if x.holds then (.ofBool true, s)
      else
        let (y, s) := i.value b s
        (.ofBool y.holds, s)
    | .choice test yes no =>
      let (x, s) := i.value test s
      if x.holds then i.value yes s else i.value no s
    | .member subscripts array =>
      let (k, s) := i.key subscripts s
      let (id, s) := s.arrayOf array
      (.ofBool ((s.table id).has k), s)
    | .call name es => i.call name es s
    | .builtin b es => i.callBuiltin b es s
    | .getline origin target => i.getline origin target s

/-! ### Actions -/

def sinkOf (i : Inner) (sink : Option (Sink × Expr)) (s : State) :
    Option (Sink × Text) × State :=
  match sink with
  | some (sink, e) =>
    let (t, s) := i.text e s
    (some (sink, t), s)
  | none => (none, s)

def afterRound (s : State) : Bool × State :=
  match s.control with
  | .running => (true, s)
  | .continuing => (true, { s with control := .running })
  | .breaking => (false, { s with control := .running })
  | _ => (false, s)

def rounds (test : State → Bool × State) (body : State → State) : Nat → State → State
  | 0, s => { s with control := .exhausted }
  | n + 1, s =>
    let (goes, s) := test s.spend
    if goes ∧ s.isRunning then
      let (goes, s) := afterRound (body s)
      if goes then rounds test body n s else s
    else s

def tested (i : Inner) (e : Expr) (s : State) : Bool × State :=
  let (v, s) := i.value e s
  (v.holds && s.isRunning, s)

def optionally (i : Inner) (e : Option Expr) (s : State) : State :=
  match e with
  | some e => (i.value e s).2
  | none => s

def perform (i : Inner) (a : Action) (s : State) : State :=
  let s := s.spend
  if !s.isRunning then s
  else match a with
    | .nothing => s
    | .sequence a b => i.act b (i.act a s)
    | .evaluate e => (i.value e s).2
    | .print items sink =>
      let (t, s) : Text × State := match items with
        | [] =>
          let (v, s) := s.field 0
          (s.printed v, s)
        | es =>
          let (vs, s) := i.values es s
          (joinWith (s.setting "OFS") (vs.map s.printed), s)
      let (sink, s) := i.sinkOf sink s
      if s.isRunning then s.emit (t ++ s.setting "ORS") sink else s
    | .printf items sink =>
      let (vs, s) := i.values items s
      let (sink, s) := i.sinkOf sink s
      if !s.isRunning then s
      else
        let format := s.textOf (vs.headD .unset)
        let (t, mistake) := formatted s.conversion format vs.tail
        let s := s.emit t sink
        match mistake with
        | none => s
        | some m => s.runtimeError (m.message "printf" format)
    | .conditional test yes no =>
      let (b, s) := i.tested test s
      if !s.isRunning then s else if b then i.act yes s else i.act no s
    | .loop test body => rounds (i.tested test) (i.act body) (s.patience + 1) s
    | .repeat body test =>
      let (goes, s) := afterRound (i.act body s)
      if goes then rounds (i.tested test) (i.act body) (s.patience + 1) s else s
    | .counting first test next body =>
      let s := i.optionally first s
      let test (s : State) : Bool × State := match test with
        | some e => i.tested e s
        | none => (true, s)
      let round (s : State) : State :=
        let (goes, r) := afterRound (i.act body s)
        if goes then i.optionally next r
        else if r.isRunning then { r with control := .breaking }
        else r
      rounds test round (s.patience + 1) s
    | .each name array body =>
      let (id, s) := s.arrayOf array
      ((s.table id).keys.foldl (fun (goes, s) k =>
        if !goes then (false, s)
        else afterRound (i.act body (s.setVariable name (.text k)))) (true, s)).2
    | .next => { s with control := .nextRecord }
    | .nextFile => { s with control := .nextFile }
    | .exit e =>
      match e with
      | some e =>
        let (v, s) := i.value e s
        { s with status := (decimalOf v.toNumber % 256).toNat, control := .exiting }
      | none => { s with control := .exiting }
    | .return e =>
      match e with
      | some e =>
        let (v, s) := i.value e s
        if s.isRunning then { s with control := .returning v } else s
      | none => { s with control := .returning .unset }
    | .break => { s with control := .breaking }
    | .continue => { s with control := .continuing }
    | .delete array subscripts =>
      let (k, s) := i.key subscripts s
      let (id, s) := s.arrayOf array
      s.modifyTable id fun t => t.erase k
    | .clear array =>
      let (id, s) := s.arrayOf array
      s.setTable id {}

end Inner

def nesting : Nat := 6000

def overflow (s : State) : State :=
  { s with control := .failed, status := 139 }

mutual

def value (e : Engine) (script : Script) : Nat → Expr → State → Value × State
  | 0, _, s => (.unset, overflow s)
  | n + 1, x, s =>
    Inner.evaluate { engine := e, script, value := value e script n, act := act e script n } x s

def act (e : Engine) (script : Script) : Nat → Action → State → State
  | 0, _, s => overflow s
  | n + 1, a, s =>
    Inner.perform { engine := e, script, value := value e script n, act := act e script n } a s

end

/-! ### Scripts -/

namespace Script

def applies (e : Engine) (script : Script) (p : Pattern) (s : State) : Bool × State :=
  let holds (x : Expr) (s : State) : Bool × State :=
    let (v, s) := value e script nesting x s
    (v.holds && s.isRunning, s)
  match p with
  | .always => (true, s)
  | .holds x => holds x s
  | .range n first last =>
    let (starts, s) := if s.ranges.contains n then (true, s) else holds first s
    if !starts then (false, s)
    else
      let (ends, s) := holds last s
      (s.isRunning, { s with
        ranges := if ends then s.ranges.filter (· ≠ n) else n :: s.ranges.filter (· ≠ n) })
  | _ => (false, s)

def applyRules (e : Engine) (script : Script) (s : State) : State :=
  script.rules.foldl (fun s r =>
    if !s.isRunning then s
    else
      let (b, s) := script.applies e r.pattern s
      if b then act e script nesting r.action s else s) s

def records (e : Engine) (script : Script) : Nat → State → State
  | 0, s => { s with control := .exhausted }
  | n + 1, s =>
    let (r, s) := s.nextRecord
    match r, s.isRunning with
    | some t, true =>
      let s := script.applyRules e (s.setRecord (.input t))
      match s.control with
      | .running | .nextRecord => records e script n { s with control := .running }
      | .nextFile => records e script n { s.leaveFile with control := .running }
      | _ => s
    | _, _ => s

def runAll (e : Engine) (script : Script) (wanted : Pattern → Bool) (s : State) : State :=
  script.rules.foldl (fun s r =>
    if wanted r.pattern then act e script nesting r.action s else s) s

def run (e : Engine) (script : Script) (s : State) : State :=
  let s := { s with line := script.lines }
  let s := script.runAll e (fun p => p matches .atStart) s
  let isMain (p : Pattern) : Bool := !(p matches .atStart) && !(p matches .atEnd)
  let hasMain : Bool := script.rules.any fun r => isMain r.pattern
  let hasEnd : Bool := script.rules.any fun r => r.pattern matches .atEnd
  let s := if s.isRunning ∧ (hasMain ∨ hasEnd) then
      script.records e 10000000 s
    else s
  let goesOn : Bool := match s.control with
    | .running | .exiting => true
    | _ => false
  if goesOn then script.runAll e (fun p => p matches .atEnd) { s with control := .running } else s

end Script

end StructuralEdit.Shell.Records
