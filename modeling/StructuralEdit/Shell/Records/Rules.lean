import StructuralEdit.Shell.Records.Reader
/-!
Reading the actions, rules and functions of scripts that process records.
-/
namespace StructuralEdit.Shell.Records.Reader

/-! ### Actions -/

def endsStatement : Token → Bool
  | .newline | .implied | .sign ";" => true
  | _ => false

def separator : Reader Unit := do
  if endsStatement (← token) then advance else fail

def skipNewline : Reader Unit := do
  if (← token) = .newline then advance

/-- Passes over tokens up to the end of a statement, or to the end of the block if that counts. The
second argument bounds their number. -/
def recover (orBlock : Bool) : Nat → Reader Unit
  | 0 => throw .over
  | n + 1 => do
    let l ← peek
    if l.token = .finish then throw .over
    else if orBlock ∧ l.token = .sign "\x7d" then return
    else
      advance
      if endsStatement l.token then modify fun s => { s with settled := l.depth }
      else recover orBlock n

/-- Reads a statement. Behind a mistake reading goes on at its end. -/
def recovering (orBlock : Bool) (n : Nat) (r : Reader Action) : Reader Action := do
  let loops := (← get).loops
  let blocks := (← get).blocks
  tryCatch r fun stop => do
    match stop with
    | .over => throw .over
    | .mistake =>
      recover orBlock n
      modify fun s => { s with loops, blocks }
      return .nothing

def parenthesized (r : Reader α) : Reader α := do
  expect "("
  let a ← r
  expect ")"
  skipNewline
  return a

def endsPrint (t : Token) : Bool :=
  endsStatement t || t = .sign ">" || t = .sign ">>" || t = .sign "|"

def items : Nat → Reader (List Expr)
  | 0 => fail
  | n + 1 => do
    let e ← value n true
    if ← accept "," then return e :: (← items n) else return [e]

def printItems (n : Nat) : Reader (List Expr) := do
  if endsPrint (← token) then return []
  else if ← isNext "(" then
    let before ← get
    advance
    let es ← if ← isNext ")" then pure [] else listOf n
    expect ")"
    if endsPrint (← token) then return es
    else
      set before
      items n
  else items n

def printSink (n : Nat) : Reader (Option (Sink × Expr)) := do
  let sink? : Option Sink := match ← token with
    | .sign ">" => some (.file false)
    | .sign ">>" => some (.file true)
    | .sign "|" => some .command
    | _ => none
  match sink? with
  | some sink =>
    advance
    return some (sink, ← value n false)
  | none => return none

def optionalValue (n : Nat) (isEnd : Token → Bool) : Reader (Option Expr) := do
  if isEnd (← token) then return none else return some (← value n false)

def inLoop (r : Reader α) : Reader α := do
  modify fun s => { s with loops := s.loops + 1 }
  let a ← r
  modify fun s => { s with loops := s.loops - 1 }
  return a

mutual

def statement : Nat → Reader Action
  | 0 => fail
  | n + 1 => do
    let l ← peek
    match l.token with
    | .sign "\x7b" => block n
    | .newline | .implied | .sign ";" => advance; return .nothing
    | .sign "if" =>
      advance
      let test ← parenthesized (value n false)
      let yes ← body n
      if ← accept "else" then return .conditional test yes (← body n)
      else return .conditional test yes .nothing
    | .sign "while" =>
      advance
      let test ← parenthesized (value n false)
      return .loop test (← inLoop (body n))
    | .sign "do" =>
      advance
      let body ← inLoop (body n)
      expect "while"
      expect "("
      let test ← value n false
      expect ")"
      separator
      return .repeat body test
    | .sign "for" =>
      advance
      expect "("
      forLoop n
    | .sign "break" =>
      advance
      if (← get).loops = 0 then complain (.misplaced "break statement outside of loop")
      separator
      return .break
    | .sign "continue" =>
      advance
      if (← get).loops = 0 then complain (.misplaced "continue statement outside of loop")
      separator
      return .continue
    | .sign "next" =>
      advance
      if !(← get).inAction then complain (.misplaced "improper use of next")
      separator
      return .next
    | .sign "nextfile" =>
      advance
      if !(← get).inAction then complain (.misplaced "improper use of nextfile")
      separator
      return .nextFile
    | .sign "exit" =>
      advance
      let e ← optionalValue n endsStatement
      separator
      return .exit e
    | .sign "return" =>
      advance
      if (← get).scope.isNone then complain (.misplaced "return outside function body")
      let e ← optionalValue n endsStatement
      separator
      return .return e
    | .sign "delete" =>
      advance
      let name ← arrayName
      if ← accept "[" then
        let subscripts ← listOf n
        expect "]"
        separator
        return .delete name subscripts
      else
        separator
        return .clear name
    | .sign "print" =>
      advance
      let es ← printItems n
      let sink ← printSink n
      separator
      return .print es sink
    | .sign "printf" =>
      advance
      let es ← printItems n
      let sink ← printSink n
      if es.isEmpty then complain .noFormat
      separator
      return .printf es sink
    | _ =>
      let e ← value n false
      separator
      return .evaluate e

/-- Reads what is behind the parenthesis of a loop that counts or goes through an array. -/
def forLoop : Nat → Reader Action
  | 0 => fail
  | n + 1 => do
    let tokens : List Token := ((← get).rest.take 3).map (·.token)
    match tokens with
    | [.name x, .sign "in", .name array] =>
      advance
      note x false
      advance
      advance
      note array true
      expect ")"
      skipNewline
      return .each x array (← inLoop (body n))
    | _ =>
      let isSemicolon (t : Token) : Bool := t = .sign ";"
      let first ← optionalValue n isSemicolon
      expect ";"
      let test ← optionalValue n isSemicolon
      expect ";"
      let next ← optionalValue n (· = .sign ")")
      expect ")"
      skipNewline
      return .counting first test next (← inLoop (body n))

def body : Nat → Reader Action
  | 0 => fail
  | n + 1 => recovering false n (statement n)

def block : Nat → Reader Action
  | 0 => fail
  | n + 1 => do
    expect "\x7b"
    modify fun s => { s with blocks := s.blocks + 1 }
    let a ← statements n true
    expect "\x7d"
    modify fun s => { s with blocks := s.blocks - 1 }
    return a

/-- Reads statements up to a brace. Behind a mistake reading goes on with the next one. -/
def statements : Nat → Bool → Reader Action
  | 0, _ => fail
  | n + 1, isFirst => do
    if ← isNext "\x7d" then return .nothing
    let a ← recovering isFirst (n + 1) (statement n)
    return .sequence a (← statements n false)

end

/-! ### Rules -/

def parameters : Nat → List Text → Reader (List Text)
  | 0, _ => fail
  | n + 1, before => do
    match ← token with
    | .name t =>
      advance
      if before.contains t then complain (.duplicated t)
      if ← accept "," then return t :: (← parameters n (t :: before))
      else
        expect ")"
        return [t]
    | .sign ")" => if before.isEmpty then advance; return [] else fail
    | _ => fail

def function (n : Nat) : Reader Unit := do
  match ← token with
  | .function name =>
    advance
    expect "("
    let ps ← parameters n []
    skipNewline
    if (← get).script.functions.any fun f => f.name = name then complain (.redefined name)
    modify fun s => { s with scope := some { parameters := ps } }
    let body ← block n
    modify fun s => { s with
      scope := none
      script := { s.script with
        functions := { name, parameters := ps, body } :: s.script.functions } }
  | _ => fail

def addRule (pattern : Pattern) (action : Action) : Reader Unit :=
  modify fun s => { s with
    script := { s.script with rules := { pattern, action } :: s.script.rules } }

def action (n : Nat) : Reader Action := do
  modify fun s => { s with inAction := true }
  let a ← block n
  modify fun s => { s with inAction := false }
  return a

/-- Reads the action of a rule that has a pattern. Without one the record is printed. -/
def optionalAction (n : Nat) : Reader Action := do
  if ← isNext "\x7b" then action n
  else
    separator
    return .print [] none

def rule (n : Nat) : Reader Unit := do
  match ← token with
  | .sign "BEGIN" =>
    advance
    addRule .atStart (← block n)
  | .sign "END" =>
    advance
    addRule .atEnd (← block n)
  | .sign "function" =>
    advance
    function n
  | .sign "\x7b" => addRule .always (← action n)
  | _ =>
    let e ← value n false
    if ← accept "," then
      skipNewline
      let last ← value n false
      let number := (← get).ranges
      modify fun s => { s with ranges := number + 1 }
      addRule (.range number e last) (← optionalAction n)
    else addRule (.holds e) (← optionalAction n)

def recoverRule : Nat → Reader Unit
  | 0 => throw .over
  | n + 1 => do
    match ← token with
    | .finish => throw .over
    | .sign "\x7b" => return
    | _ =>
      advance
      recoverRule n

def rules (depth : Nat) : Nat → Reader Unit
  | 0 => throw .over
  | n + 1 => do
    if (← token) = .finish then return
    tryCatch (rule depth) fun stop => do
      match stop with
      | .over => throw .over
      | .mistake =>
        modify fun s => { s with scope := none, blocks := 0, loops := 0, inAction := false }
        recoverRule (depth + 1)
    rules depth n

def usualKinds : List (Text × Bool) :=
  (["NF", "NR", "FNR", "FS", "OFS", "ORS", "RS", "FILENAME", "SUBSEP", "RSTART", "RLENGTH",
    "CONVFMT", "OFMT", "ARGC"].map fun name => (name.toList, false)) ++
  [("ARGV".toList, true), ("ENVIRON".toList, true)]

end Reader

def callComplaints (script : Script) (last : Nat) (calls : List (Text × Nat × Nat)) :
    List Complaint :=
  let unknown := (calls.filter fun c => !script.functions.any fun f => f.name = c.1).map (·.1)
  let missing := (unknown.reverse.eraseDups.reverse).map fun name =>
    { line := last, mistake := .undefined name }
  let excessive := calls.reverse.filterMap fun (name, count, line) =>
    match script.functions.find? fun f => f.name = name with
    | some f =>
      if f.parameters.length < count then some { line, mistake := .tooManyArguments name }
      else none
    | none => none
  missing ++ excessive

def Script.read (t : Text) : Except (List Complaint) Script :=
  let ls := Scan.lexemes t
  let size := ls.length
  let last := (ls.getLast?.map (·.line)).getD 1
  let (_, s) := (Reader.rules (20 * size + 100) (size + 1)).run.run
    { rest := ls, kinds := Reader.usualKinds }
  let script := {
    rules := s.script.rules.reverse, functions := s.script.functions, lines := last - 1 }
  match s.complaints.reverse with
  | [] =>
    match callComplaints script last s.calls with
    | [] => .ok script
    | complaints => .error complaints
  | complaints => .error complaints

end StructuralEdit.Shell.Records
