import StructuralEdit.Shell.Assigning
import StructuralEdit.Shell.Builtin.Extended
import StructuralEdit.Shell.Builtin.Options
import StructuralEdit.Shell.Builtin.Process
import StructuralEdit.Shell.Builtin.Variables
import StructuralEdit.Shell.Conditions
import StructuralEdit.Shell.Programs
import StructuralEdit.Shell.Redirection
/-!
Running scripts: simple commands, and everything that is made of them.
-/
namespace StructuralEdit.Shell

def nesting : Nat := 1000

namespace Machine

/-! ### Processes -/

def atExit (run : Runner) (m : Machine) : Machine :=
  match m.traps.lookup "EXIT", m.control with
  | _, .ended (.killed _) => m
  | some action, _ =>
    let status := m.endingStatus
    let m := { m with
      status, control := .running
      traps := m.traps.filter fun t => t.1 ≠ "EXIT" }
    let r := runText run .eval m.line action m
    match r.control with
    | .ended _ => r
    | _ => r.finish status
  | none, .ended _ => m
  | none, _ => m.finish m.status

/-- The traps that are left in a process that a shell starts as a copy of itself. -/
def withoutTraps (m : Machine) : Machine :=
  { m with traps := m.traps.filter fun t => t.2.isEmpty }

def subshell (run : Runner) (f : Machine → Machine) (m : Machine) : Machine :=
  m.inSubshell fun m => (f m.withoutTraps).atExit run

/-! ### Shells as programs -/

structure Invocation where
  settings : List (Bool × String) := []
  command : Bool := false
  fromInput : Bool := false
  operands : List Text := []

def invocation (d : Dialect) : Nat → List Text → Invocation → Except Text Invocation
  | 0, _, i => .ok i
  | _ + 1, [], i => .ok i
  | n + 1, a :: args, i =>
    match a with
    | ['-', '-'] | ['-'] => .ok { i with operands := args }
    | '-' :: '-' :: _ => if d = .bash then invocation d n args i else .error a
    | sign :: letters =>
      if (sign ≠ '-' ∧ sign ≠ '+') ∨ letters.isEmpty then .ok { i with operands := a :: args }
      else
        let on : Bool := sign = '-'
        let (args, names) : List Text × List (Bool × String) :=
          if letters.contains 'o' then
            (args.tail, [(on, String.ofList (args.headD []))])
          else (args, [])
        let known := letters.filterMap fun c => (optionLetters.lookup c).map fun s => (on, s)
        let unknown := letters.find? fun c =>
          (optionLetters.lookup c).isNone && !"colhBErpOD".toList.contains c
        match unknown with
        | some c => .error [sign, c]
        | none =>
          invocation d n args { i with
            settings := i.settings ++ known ++ names
            command := i.command || letters.contains 'c'
            fromInput := i.fromInput || letters.contains 's' }
    | [] => .ok { i with operands := a :: args }

def ownBindings (m : Machine) : List (Text × Binding) :=
  let text (name value : String) : Text × Binding :=
    (name.toList, { value := some (.text value.toList) })
  let fixed (name value : String) : Text × Binding :=
    (name.toList, { value := some (.text value.toList), isReadOnly := true, isInteger := true })
  let version := ["5", "2", "15", "1", "release", "x86_64-pc-linux-gnu"].zipIdx.map fun (t, i) =>
    ((i : Int), t.toList)
  let level := ofDigits 10 ((m.parameter "SHLVL".toList).takeWhile Char.isDigit)
  let known := [text "BASH" "/usr/bin/bash", text "BASH_VERSION" "5.2.15(1)-release",
    ("BASH_VERSINFO".toList, { value := some (.indexed version), isReadOnly := true }),
    fixed "EUID" "0", fixed "UID" "0", text "HOSTTYPE" "x86_64",
    text "MACHTYPE" "x86_64-pc-linux-gnu", text "OSTYPE" "linux-gnu", text "OPTERR" "1"]
  let usual := [text "SHELL" "/bin/bash", text "TERM" "dumb"]
  known ++ (usual.filter fun b => (m.binding? b.1).isNone) ++
    [("SHLVL".toList, { value := some (.text (shown (level + 1))), isExported := true })] ++
    (if (m.binding? "OLDPWD".toList).isNone then
      [("OLDPWD".toList, { value := none, isExported := true })] else [])

def fresh (d : Dialect) (name : Text) (m : Machine) : Machine :=
  let bindings := (m.bindings.filter fun b => b.2.isExported).filter fun b =>
    match b.2.value with
    | some (.text _) => true
    | _ => false
  let bindings := match d with
    | .dash => bindings
    | .bash =>
      let own := m.ownBindings
      (bindings.filter fun b => !own.any fun o => o.1 = b.1) ++ own
  let m : Machine :=
    { dialect := d, name, bindings, files := m.files, descriptors := m.descriptors
      settings := match d with
        | .dash => []
        | .bash => ["braceexpand", "hashall", "interactive-comments"]
      channels := m.channels, next := m.next, written := m.written, clock := m.clock
      mask := m.mask }
  let m := m.assign "OPTIND".toList ['1']
  let m := (m.assign "IFS".toList [' ', '\t', '\n']).assign "PS4".toList ['+', ' ']
  let m := m.assign "PWD".toList m.workingDirectory
  m.modifyBinding "PWD".toList fun b => { b with isExported := true }

def shell (run : Runner) (d : Dialect) (name : Text) (args : List Text) (m : Machine) : Machine :=
  let m := fresh d name m
  let place := match d with
    | .dash => ": 0: "
    | .bash => ": "
  let complain (t : Text) (status : Nat) : Machine :=
    (m.write 2 (name ++ place.toList ++ t ++ ['\n'])).finish status
  match invocation d (args.length + 1) args {} with
  | .error a =>
    match d with
    | .dash => complain ("Illegal option ".toList ++ a) 2
    | .bash => complain (a ++ ": invalid option".toList) 2
  | .ok i =>
    let m := i.settings.foldl (fun m s => m.set s.1 s.2) m
    if i.command then
      match i.operands with
      | [] =>
        match d with
        | .dash => complain "-c requires an argument".toList 2
        | .bash => complain "-c: option requires an argument".toList 2
      | text :: rest =>
        let m := { m with name := rest.headD name, arguments := rest.tail }
        (m.runText run .command 1 text).atExit run
    else match i.fromInput, i.operands with
      | false, path :: rest =>
        match m.files.read (decode path) with
        | .ok content =>
          let m := { m with name := path, arguments := rest }
          (m.runText run (.file path) 1 (Text.ofOctets content)).atExit run
        | .error e =>
          match d with
          | .dash =>
            complain ("cannot open ".toList ++ path ++
              (if e = .notFound then ": No such file".toList else (": " ++ e.reason).toList)) 2
          | .bash =>
            let status := if e = .notFound then 127 else 126
            (m.write 2 (name ++ ": ".toList ++ path ++ (": " ++ e.reason ++ "\n").toList)).finish
              status
      | _, operands =>
        let text := m.input
        let m := m.leaveAt 0 []
        let m := { m with arguments := operands }
        (m.runText run .substitution 1 text).atExit run

def notFound (name : Text) (m : Machine) : Machine :=
  let isPath : Bool := name.contains '/'
  let found := m.files.find (decode name)
  match m.dialect with
  | .dash =>
    match isPath, found with
    | true, .ok _ => m.complain (name ++ ": Permission denied".toList) 126
    | true, .error .permissionDenied => m.complain (name ++ ": Permission denied".toList) 126
    | _, _ =>
      if name.isEmpty then m.complain ": Permission denied".toList 127
      else m.complain (name ++ ": not found".toList) 127
  | .bash =>
    match isPath, found with
    | true, .ok (.directory _) => m.complain (name ++ ": Is a directory".toList) 126
    | true, .ok _ => m.complain (name ++ ": Permission denied".toList) 126
    | true, .error e => m.complain (name ++ (": " ++ e.reason).toList) 127
    | false, _ =>
      if (m.parameter? "PATH".toList).isNone then
        m.complain (name ++ ": No such file or directory".toList) 127
      else m.complain (name ++ ": command not found".toList) 127

def process (e : Engine) (name : Text) (args : List Text) (m : Machine) : Machine :=
  let base := String.ofList ((name.reverse.takeWhile (· ≠ '/')).reverse)
  match shellDialect? base with
  | some d => shell e.run d name args m
  | none =>
    match launchers.lookup base with
    | some l => l e name args m
    | none =>
      match utilities.lookup base with
      | some u =>
        m.absorb name (u (m.call name args))
      | none => m.notFound name

def processOf (e : Engine) (words : List Text) (m : Machine) : Machine :=
  match words with
  | [] => { m with status := 0 }
  | name :: args => m.process e name args

def runProgram (e : Engine) (words : List Text) (m : Machine) : Machine :=
  match words with
  | [] => { m with status := 0 }
  | name :: _ =>
    if (m.programPath? e name).isSome then m.inProcess (e.program words)
    else m.notFound name

/-! ### Commands -/

def restoreBindings (names : List Text) (before m : Machine) : Machine :=
  names.foldl (fun m name =>
    match before.binding? name with
    | some b => m.setBinding name b
    | none => m.removeBinding name) m

def callFunction (run : Runner) (name : Text) (body : Script) (args : List Text) (m : Machine) :
    Machine :=
  let inner := { m with arguments := args, hidden := [] :: m.hidden, loops := 0 }
  let callers := "FUNCNAME".toList
  let r : Machine := match m.dialect with
    | .dash => (run body inner).reveal
    | .bash =>
      let names := name :: (m.itemsOf callers).map fun (x : Text × Text) => x.2
      let calls := names.zipIdx.map fun (t, i) => ((i : Int), t)
      restoreBindings [callers] m (run body (inner.store callers (.indexed calls))).reveal
  { r with
    arguments := m.arguments, loops := m.loops
    control := if r.control = .returning then .running else r.control }

def source (e : Engine) (command : String) (args : List Text) (m : Machine) : Machine :=
  match args.dropWhile fun a => m.dialect = .bash && a = "--".toList with
  | [] =>
    match m.dialect with
    | .dash => { m with status := 0 }
    | .bash =>
      (m.complain (command ++ ": filename argument required").toList 2).sayUsage command
        (command ++ " filename [arguments]")
  | path :: rest =>
    let missing (e : FileError) : Machine :=
      match m.dialect with
      | .dash =>
        if path.contains '/' then
          m.fail (".: cannot open ".toList ++ path ++ (if e = .notFound then ": No such file"
            else ": " ++ e.reason).toList) 2
        else m.fail (".: ".toList ++ path ++ ": not found".toList) 2
      | .bash => m.complain (path ++ (": " ++ e.reason).toList) 1
    let needsSlash : Bool := m.dialect = .dash && !path.contains '/'
    match needsSlash, m.files.read (decode path) with
    | true, _ => missing .notFound
    | _, .error e => missing e
    | _, .ok content =>
      let arguments := if rest.isEmpty ∨ m.dialect = .dash then m.arguments else rest
      let r := runText e.run (.file path) 1 (Text.ofOctets content)
        { m with arguments, status := 0 }
      { r with
        arguments := m.arguments
        control := if r.control = .returning then .running else r.control }

def builtin? (e : Engine) (name : Text) (args : List Text) (m : Machine) : Option Machine :=
  let s := String.ofList name
  if !(commandsOf m.dialect).contains s ∨ m.has ("off " ++ s) then none
  else match if m.dialect = .bash then m.refuseOptions? s args else none with
  | some r => some r
  | none => some (match s with
    | ":" | "true" => { m with status := 0 }
    | "false" => { m with status := 1 }
    | "." | "source" => m.source e s args
    | "alias" => m.alias_ args
    | "break" => m.leave "break" .leaving args
    | "cd" => m.changeDirectory args
    | "command" =>
      let flags := args.takeWhile fun a => a.head? = some '-' && a ≠ "--".toList
      let rest := (args.drop flags.length).dropWhile fun a => a = "--".toList
      if flags.any fun f => f.contains 'v' || f.contains 'V' then
        m.commandNames e (flags.any fun f => f.contains 'V') rest
      else match rest with
        | [] => { m with status := 0 }
        | _ => e.command ("command".toList :: rest) m
    | "continue" => m.leave "continue" .continuing args
    | "echo" => m.echo args
    | "eval" =>
      let args := if args.head? = some "--".toList then args.tail else args
      runText e.run .eval m.line (joinWith [' '] args) { m with status := 0 }
    | "exec" =>
      match args.dropWhile fun a => a = "--".toList with
      | [] => m
      | program :: rest =>
        if (m.programPath? e program).isSome then
          if m.isSubshell then
            let r := m.inProcess (e.program (program :: rest))
            if r.isRunning then r.finish r.status else r
          else
            let (ending, r) := m.ownProcess (e.program (program :: rest))
            { r with control := .ended ending, traps := [] }
        else
          let r := match m.dialect with
            | .dash => notFound ("exec: ".toList ++ program) m
            | .bash =>
              if program.contains '/' then
                let path := if program.head? = some '/' then program
                  else if "./".toList.isPrefixOf program then
                    m.workingDirectory ++ program.drop 1
                  else m.workingDirectory ++ '/' :: program
                let r := notFound path m
                match m.files.find (decode path) with
                | .ok (.directory _) => r.complain ("exec: ".toList ++ program ++
                    ": cannot execute: Is a directory".toList) 126
                | _ => r
              else m.complain ("exec: ".toList ++ program ++ ": not found".toList) 127
          r.finish r.status
    | "exit" => m.exit args
    | "export" => m.exportCommand args
    | "getopts" => m.getOption args
    | "hash" => m.hash e args
    | "kill" => m.kill e args
    | "local" => m.localCommand args
    | "printf" => m.printf args
    | "pwd" => m.pwd
    | "read" => m.read args
    | "readonly" => m.readOnlyCommand args
    | "return" => m.return_ args
    | "set" => m.setCommand args
    | "shift" => m.shift args
    | "test" | "[" => m.test name args
    | "times" => m.times
    | "trap" => m.trap args
    | "type" => m.type e args
    | "ulimit" => m.limits args
    | "umask" => m.umask args
    | "unalias" => m.unalias args
    | "unset" => m.unset args
    | "wait" => m.wait args
    | s => m.extendedCommand e s args)

/-- Runs words as a command. Behind the word that asks for it functions are passed over. -/
def runWords (e : Engine) (words : List Text) (m : Machine) : Machine :=
  match words with
  | [] => { m with status := 0 }
  | name :: args =>
    let isCommand : Bool := name = "command".toList &&
      !(args.head?.any fun a => a.head? = some '-')
    if isCommand ∧ args ≠ [] then
      match m.builtin? e (args.headD []) args.tail with
      | some r =>
        /- What would end the shell only fails here. -/
        if r.control = .ended (.exited 2) ∧ args.head? ≠ some "exit".toList ∧ m.dialect = .dash then
          { r with control := .running } else r
      | none => m.runProgram e args
    else
      let special : Bool := m.dialect = .dash && specialCommands.contains (String.ofList name)
      match if special then none else m.functions.lookup name with
      | some body => m.callFunction e.run name body args
      | none =>
        match m.builtin? e name args with
        | some r => r
        | none => m.runProgram e words

/-! ### Simple commands -/

/-- The fields of the words of a command. Arguments that are assignments are not split where the
command takes assignments. -/
def commandFields (run : Runner) (words : List Word) (m : Machine) : List Text × Machine :=
  let declares : Bool := match words.head?.bind Word.plain? with
    | some name => declaringCommands.contains (String.ofList name)
    | none => false
  if !declares then m.expandFields run words
  else
    let (fields, m) := words.foldl (fun (fields, m) w =>
      if !m.isRunning then (fields, m)
      else match w.assignment? m.dialect with
        | some { name, subscript := none, appends, value := .word value } =>
          let (t, m) := m.expandValue run value
          ((name ++ (if appends then ['+', '='] else ['=']) ++ t) :: fields, m)
        | _ =>
          let (more, m) := m.expandFields run [w]
          (more.reverse ++ fields, m)) (([] : List Text), m)
    (fields.reverse, m)

def traced (d : Dialect) (t : Text) : Text :=
  match d with
  | .dash => t
  | .bash => Quoted.ifNeeded t

def trace (words : List Text) (m : Machine) : Machine :=
  if m.has "xtrace" then
    m.write 2 ("+ ".toList ++ joinWith [' '] (words.map (traced m.dialect)) ++ ['\n'])
  else m

def makeAssignments (run : Runner) (as : List Assignment) (m : Machine) : Machine :=
  as.foldl (fun m a =>
    let m := m.makeAssignment run a
    if m.has "xtrace" ∧ m.isRunning then
      m.write 2 ("+ ".toList ++ a.name ++ '=' :: traced m.dialect (m.parameter a.name) ++ ['\n'])
    else m) m

def makeTemporary (run : Runner) (as : List Assignment) (m : Machine) : Machine :=
  as.foldl (fun m a =>
    let m := m.makeAssignment run a
    if m.isRunning then m.modifyBinding a.name fun b => { b with isExported := true } else m) m

def fillSinks (run : Runner) (m : Machine) : Machine :=
  m.sinks.reverse.foldl (fun m (path, script, line) =>
    let place := decode path
    let content := match m.files.read place with
      | .ok bytes => Text.ofOctets bytes
      | .error _ => []
    let go (inner : Machine) : Machine :=
      runText run .substitution line script (inner.open_ 0 (.source content))
    let r := subshell run go m
    { r with descriptors := m.descriptors, status := m.status }) { m with sinks := [] }

def keepLastWord (fields : List Text) (m : Machine) : Machine :=
  match m.dialect with
  | .dash => m
  | .bash => m.store ['_'] (.text (fields.getLastD []))

def runSimple (e : Engine) (line : Nat) (assignments late : List Assignment) (words : List Word)
    (redirects : List Redirect) (m : Machine) : Machine :=
  let m := { m with line, substituted := none }
  let (fields, m) := m.commandFields e.run words
  if !m.isRunning then m
  else match fields with
    | [] =>
      let body (m : Machine) : Machine :=
        let m := m.makeAssignments e.run assignments
        if m.isRunning then { m with status := m.substituted.getD 0 } else m
      (m.redirected e.run redirects body id).keepLastWord []
    | name :: args =>
      let m := m.trace fields
      let special : Bool := m.dialect = .dash && specialCommands.contains (String.ofList name)
      if name = "exec".toList ∧ args.isEmpty then
        match m.redirectAll e.run redirects with
        | .ok m =>
          let m := m.makeAssignments e.run assignments
          if m.isRunning then { m with status := 0 } else m
        | .error m => if m.dialect = .dash ∧ m.isRunning then m.finish m.status else m
      else
        let names := assignments.map (·.name)
        let body (m : Machine) : Machine :=
          let r :=
            if special then runWords e fields (m.makeAssignments e.run assignments)
            else
              let inner := m.makeTemporary e.run assignments
              if inner.isRunning then restoreBindings names m (runWords e fields inner) else inner
          if r.isRunning then late.foldl (fun m a => m.makeAssignment e.run a) r else r
        let failed (m : Machine) : Machine :=
          if special ∧ m.isRunning then m.finish m.status else m
        ((m.redirected e.run redirects body failed).fillSinks e.run).keepLastWord fields

/-! ### Everything else -/

def keepStatuses (statuses : List Nat) (m : Machine) : Machine :=
  match m.dialect with
  | .dash => m
  | .bash =>
    m.store "PIPESTATUS".toList
      (.indexed (statuses.zipIdx.map fun (n, i) => ((i : Int), shown n)))

/-- Runs the trap that comes before every command. Functions do not have it. -/
def beforeCommand (e : Engine) (m : Machine) : Machine :=
  match m.traps.lookup "DEBUG" with
  | none => m
  | some action =>
    if (!m.hidden.isEmpty && !m.has "functrace") ∨ !m.isRunning then m
    else
      let others := m.traps.filter fun t => t.1 ≠ "DEBUG"
      let r := runText e.run .eval m.line action { m with traps := others }
      if r.isRunning then { r with status := m.status, traps := m.traps } else r

def checkFailure (e : Engine) (m : Machine) : Machine :=
  if m.isRunning ∧ m.status ≠ 0 ∧ !m.isTested then
    let isHidden : Bool := !m.hidden.isEmpty && !m.has "errtrace"
    let m := match if isHidden then none else m.traps.lookup "ERR" with
      | some action =>
        let r := runText e.run .eval m.line action m
        if r.isRunning then { r with status := m.status } else r
      | none => m
    if m.has "errexit" ∧ m.isRunning then m.finish m.status else m
  else m

def tested (f : Machine → Machine) (m : Machine) : Machine :=
  { f { m with isTested := true } with isTested := m.isTested }

def stages : Script → List Script
  | .pipe a b => a :: stages b
  | s => [s]

/-- Runs the stages of a pipeline side by side from some time on, each one on what the one before
it writes. What the stages before have taken in time comes with it. A stage that writes forever is
over when its text is not taken. The answer also has the statuses. -/
def pipeStages (run : Runner) (start : Nat) :
    List Script → Option Text → Nat → Machine → Machine × List Nat
  | [], _, _, m => (m, [])
  | s :: rest, input, feedTime, m =>
    let source := m.next
    let prepare (m : Machine) : Machine :=
      match input with
      | some t => m.open_ 0 (.source t)
      | none => m
    let staysHere : Bool := rest.isEmpty && m.dialect = .bash && m.hasFeature "lastpipe"
    let go (inner : Machine) : Machine :=
      if staysHere then run s (prepare inner) else subshell run (run s) (prepare inner)
    let outer := { m with clock := start }
    let left (r : Machine) : Bool :=
      match input, r.channels.lookup source with
      | some t, some (.source rest) => !t.isEmpty && !rest.isEmpty
      | some t, none => !t.isEmpty
      | _, _ => false
    let timeOf (r : Machine) : Nat :=
      if left r ∧ start + forever ≤ feedTime then r.clock else max feedTime r.clock
    if rest.isEmpty then
      let r := go outer
      ({ r with
        descriptors := m.descriptors, clock := timeOf r
        channels := r.channels.filter fun c => c.1 < source }, [r.status])
    else
      let n := outer.next
      let opened := (prepare { outer with next := n }).open_ 1 (.stream (n + 2))
      let r := subshell run (run s) { opened with next := opened.next + 3 }
      let (out, after) := r.drain (n + 2)
      let time := timeOf r
      let after := { after with
        descriptors := m.descriptors
        channels := after.channels.filter fun c => c.1 < source }
      if !after.isRunning then (after, [])
      else
        let (final, statuses) := pipeStages run start rest (some out) time after
        (final, r.status :: statuses)

def pipeline (run : Runner) (s : Script) (m : Machine) : Machine :=
  let (r, statuses) := pipeStages run m.clock (stages s) none m.clock m
  let r := r.keepStatuses statuses
  match statuses.reverse.find? (· ≠ 0) with
  | some n => if r.has "pipefail" ∧ r.isRunning then { r with status := n } else r
  | none => r

def afterRound (m : Machine) : Bool × Machine :=
  match m.control with
  | .leaving (n + 2) => (false, { m with control := .leaving (n + 1) })
  | .leaving _ => (false, { m with control := .running })
  | .continuing (n + 2) => (false, { m with control := .continuing (n + 1) })
  | .continuing _ => (true, { m with control := .running })
  | .running => (true, m)
  | _ => (false, m)

/-- Runs the body while the test gives the wanted success. The answer has the status of the last
run of the body. The first argument bounds the runs; what reaches it is taken to go on forever. -/
def iterate (wanted : Bool) (test body : Machine → Machine) : Nat → Nat → Machine → Machine
  | 0, _, m => { m with clock := m.clock + forever, control := .ended (.exited 0) }
  | n + 1, status, m =>
    let m := tested test m
    let (goes, m) := if m.isRunning then (true, m) else afterRound m
    if !goes then m
    else if (m.status == 0) == wanted then
      let (goes, m) := afterRound (body m)
      if goes then iterate wanted test body n m.status m else m
    else { m with status }

def roundLimit (m : Machine) : Nat := 50000 + m.input.length

def inLoop (f : Machine → Machine) (m : Machine) : Machine :=
  { f { m with loops := m.loops + 1 } with loops := m.loops }

/-- Where the items of a menu stand: how many rows there are, the width of an item and the width
of a number. -/
structure Menu where
  rows : Nat
  width : Nat
  digits : Nat

def Menu.ofItems (items : List Text) : Menu :=
  let count := items.length
  let digits := (shown count).length
  let longest := (items.map List.length).foldl max 0
  let width := longest + digits + 2 + 2
  let columns := max 1 (min count (80 / width))
  let rows := (count + columns - 1) / columns
  let columns := (count + rows - 1) / rows
  { rows := if rows = 1 then columns else rows, width, digits }

def Menu.text (menu : Menu) (items : List Text) : Text :=
  let numbered := items.zipIdx.map fun (t, i) =>
    padLeft menu.digits (shown (i + 1)) ' ' ++ ") ".toList ++ t
  (List.range menu.rows).flatMap fun (r : Nat) =>
    let row := (numbered.zipIdx.filter fun x => x.2 % menu.rows = r).map (·.1)
    (row.dropLast.flatMap fun (t : Text) => padRight menu.width t ' ') ++ row.getLastD [] ++ ['\n']

/-- Lets items be chosen by their numbers, line by line, and runs the body for each choice. An empty
line shows the menu again. The first argument bounds the lines. -/
def choose (e : Engine) (name : Text) (items : List Text) (body : Script) :
    Nat → Bool → Machine → Machine
  | 0, _, m => m
  | n + 1, shows, m =>
    let prompt := (m.parameter? "PS3".toList).getD "#? ".toList
    let menu := if shows then (Menu.ofItems items).text items else []
    let m := m.write 2 (menu ++ prompt)
    let r := m.read []
    let line := r.parameter "REPLY".toList
    if r.status ≠ 0 then { r.write 1 ['\n'] with status := 1 }
    else if line.isEmpty then choose e name items body n true r
    else
      let chosen := if line.all Char.isDigit then items[ofDigits 10 line - 1]?.getD [] else []
      let chosen := if ofDigits 10 line = 0 then [] else chosen
      let r := r.assignOrFail name chosen
      if !r.isRunning then r
      else
        let (goes, r) := afterRound (e.run body r)
        if goes then choose e name items body n (r.parameter "REPLY".toList).isEmpty r else r

def background (run : Runner) (s : Script) (m : Machine) : Machine :=
  let number := processId + m.next
  let start := { m with next := m.next + 1, clock := m.clock + 1 }
  let r := subshell run (run s) (start.open_ 0 .null)
  let r := { r with descriptors := m.descriptors }
  let job : Job := { number, finish := r.clock, status := r.status }
  { r with clock := m.clock, status := 0, jobs := job :: m.jobs }

/-- Runs the first case whose patterns stand for the subject. A body that falls through is followed
by the next one. -/
def runCases (run : Runner) (subject : Text) : Script → Bool → Machine → Machine
  | .case patterns body fallsThrough tests rest, falls, m =>
    let (found, m) : Bool × Machine :=
      if falls then (true, m)
      else patterns.foldl (fun (found, m) p =>
        if found ∨ !m.isRunning then (found, m)
        else
          let (g, m) := m.expandGlob run m.textStyle p
          (g.accepts subject, m)) (false, m)
    if !m.isRunning then m
    else if found then
      let m := run body m
      if fallsThrough then runCases run subject rest true m
      else if tests then runCases run subject rest false m
      else m
    else runCases run subject rest false m
  | _, _, m => m

def commands : Script → List Script
  | .sequence a b => commands a ++ commands b
  | s => [s]

def chooseFrom (e : Engine) (line : Nat) (name : Text) (words : Option (List Word)) (body : Script)
    (m : Machine) : Machine :=
  let (items, m) := match words with
    | some ws => ({ m with line }).expandFields e.run ws
    | none => (m.arguments, m)
  if !m.isRunning then m
  else if !isName name then
    ({ m with line }.complain
      ('\x60' :: name ++ "': not a valid identifier".toList) 1).checkFailure e
  else if items.isEmpty then { m with status := 0 }
  else inLoop (choose e name items body (m.input.length + 2) true) m

def step (e : Engine) (s : Script) (m : Machine) : Machine :=
  if !m.isRunning ∨ m.has "noexec" then m
  else match s with
    | .nothing => m
    | .simple line assignments late words redirects =>
      let m := ({ m with line }).beforeCommand e
      if m.isRunning then single (m.runSimple e line assignments late words redirects) else m
    | .pipe _ _ => (m.pipeline e.run s).checkFailure e
    | .not s =>
      let r := tested (e.run s) m
      if r.isRunning then { r with status := if r.status = 0 then 1 else 0 } else r
    | .both a b =>
      let m := tested (e.run a) m
      if m.isRunning ∧ m.status = 0 then e.run b m else m
    | .either a b =>
      let m := tested (e.run a) m
      if m.isRunning ∧ m.status ≠ 0 then e.run b m else m
    | .sequence _ _ => (commands s).foldl (fun m s => if m.isRunning then e.run s m else m) m
    | .background s => m.background e.run s
    | .subshell s => single (m.subshell e.run (e.run s))
    | .redirected line s redirects =>
      ({ m with line }).redirected e.run redirects (e.run s) fun m => m.checkFailure e
    | .conditional test yes no =>
      let m := tested (e.run test) m
      if !m.isRunning then m
      else if m.status = 0 then e.run yes m
      else e.run no { m with status := 0 }
    | .each line name words body =>
      let (fields, m) := match words with
        | some ws => ({ m with line }).expandFields e.run ws
        | none => (m.arguments, m)
      if !m.isRunning then m
      else if !isName name then
        ({ m with line }.complain
          ('\x60' :: name ++ "': not a valid identifier".toList) 1).checkFailure e
      else inLoop (fun m =>
        (fields.foldl (fun (goes, m) value =>
          if !goes then (false, m)
          else
            let m := m.beforeCommand e
            let m := m.assignOrFail name value
            if m.isRunning then afterRound (e.run body m) else (false, m)) (true, m)).2)
        { m with status := 0 }
    | .menu line name words body => m.chooseFrom e line name words body
    | .loop wanted test body =>
      inLoop (fun m => iterate wanted (e.run test) (e.run body) m.roundLimit 0 m) m
    | .choice line subject cases =>
      let (t, m) := (({ m with line }).beforeCommand e).expandText e.run subject
      if m.isRunning then runCases e.run t cases false { m with status := 0 } else m
    | .case .. => m
    | .function name body =>
      { m with
        functions := (name, body) :: m.functions.filter fun f => f.1 ≠ name, status := 0 }
    | .arithmetic line w =>
      let m := ({ m with line }).beforeCommand e
      let (n, m) := numberBy (pieces e.run false depth) w m
      if m.isRunning then single { m with status := if n = 0 then 1 else 0 }
      else { m with control := .running, status := 1 }
    | .counting line first test next body =>
      let value (w : Word) (m : Machine) : Int × Machine :=
        numberBy (pieces e.run false depth) w (({ m with line }).beforeCommand e)
      let isEmpty := (Word.splitPlain isSpace test).2.isEmpty
      let test (m : Machine) : Machine :=
        let (n, m) := if isEmpty then (1, m) else value test m
        if m.isRunning then { m with status := if n = 0 then 1 else 0 } else m
      let round (m : Machine) : Machine :=
        let (goes, r) := afterRound (e.run body m)
        if goes then
          let (_, after) := value next r
          if after.isRunning then { after with status := r.status } else after
        else if r.isRunning then { r with control := .leaving 1 } else r
      let (_, m) := value first m
      if m.isRunning then inLoop (fun m => iterate true test round m.roundLimit 0 m) m else m
    | .condition line c =>
      let (b, m) := holds e.run c (({ m with line }).beforeCommand e)
      if m.isRunning then single { m with status := if b then 0 else 1 } else m
where
  single (m : Machine) : Machine := (m.keepStatuses [m.status]).checkFailure e

end Machine

/-- What can be asked of the system: to run a script, to be a program, or to run a command. -/
inductive Task where
  | script (s : Script)
  | program (words : List Text)
  | command (words : List Text)

def Engine.ofTasks (perform : Task → Machine → Machine) : Engine where
  run s := perform (.script s)
  program words := perform (.program words)
  command words := perform (.command words)
  programs := programNames

def Task.perform : Nat → Task → Machine → Machine
  | 0, _, m => { m with control := .ended (.killed 11) }
  | n + 1, task, m =>
    let e := Engine.ofTasks (perform n)
    match task with
    | .script s => m.step e s
    | .program words => m.processOf e words
    | .command words => m.runWords e words

def engine : Engine := .ofTasks (Task.perform nesting)

end StructuralEdit.Shell
