import StructuralEdit.Shell.Assigning
import StructuralEdit.Shell.Signal
import StructuralEdit.Shell.Utility.Printf
/-!
Commands of the shell about directories, signals, jobs, names of commands and its own end.
-/
namespace StructuralEdit.Shell

/-- How scripts, programs and commands are run, and which programs there are. -/
structure Engine where
  run : Runner
  program : List Text → Machine → Machine
  command : List Text → Machine → Machine
  programs : List String

namespace Machine

/-! ### Directories -/

def workingDirectory (m : Machine) : Text := encode (Files.absolute m.files.current)

def pwd (m : Machine) : Machine := { m.write 1 (m.workingDirectory ++ ['\n']) with status := 0 }

def changeDirectory (args : List Text) (m : Machine) : Machine :=
  let isOption (a : Text) : Bool := ["-L", "-P", "-e", "--"].contains (String.ofList a)
  let operands := args.dropWhile isOption
  let failed (target : Text) (e : FileError) : Machine :=
    match m.dialect with
    | .dash => m.complain ("cd: can't cd to ".toList ++ target) 2
    | .bash => m.complain ("cd: ".toList ++ target ++ (": " ++ e.reason).toList) 1
  let go (target : Text) (shows : Bool) : Machine :=
    match m.files.find (decode target), m.files.locate (decode target) with
    | .ok (.directory _), .ok names =>
      let old := m.workingDirectory
      let m := { m with files := { m.files with current := names }, status := 0 }
      let m := (m.assign "OLDPWD".toList old).assign "PWD".toList m.workingDirectory
      if shows then m.write 1 (m.workingDirectory ++ ['\n']) else m
    | .ok _, _ => failed target .notDirectory
    | .error e, _ => failed target e
  match operands with
  | [] =>
    match m.parameter? "HOME".toList with
    | some home => go home false
    | none => match m.dialect with
      | .dash => { m with status := 0 }
      | .bash => m.complain "cd: HOME not set".toList 1
  | ['-'] :: _ =>
    match m.parameter? "OLDPWD".toList with
    | some old => go old true
    | none => match m.dialect with
      | .dash => go m.workingDirectory true
      | .bash => m.complain "cd: OLDPWD not set".toList 1
  | [] :: _ => { m with status := 0 }
  | [target] => go target false
  | target :: _ =>
    match m.dialect with
    | .dash => go target false
    | .bash => m.complain "cd: too many arguments".toList 1

/-! ### The end -/

def statusArgument (command : String) (args : List Text) (m : Machine) : Except Machine Nat :=
  match args with
  | [] => .ok m.status
  | t :: _ =>
    match m.dialect with
    | .dash =>
      if t ≠ [] ∧ t.all Char.isDigit then .ok (ofDigits 10 t % 256)
      else .error (m.fail ((command ++ ": Illegal number: ").toList ++ t) 2)
    | .bash =>
      match Brace.integer? t with
      | some n => .ok (n.emod 256).toNat
      | none =>
        let m := m.complain ((command ++ ": ").toList ++ t ++
          ": numeric argument required".toList) 2
        .error (m.finish 2)

def exit (args : List Text) (m : Machine) : Machine :=
  match m.statusArgument "exit" args with
  | .error m => m
  | .ok status =>
    if m.dialect = .bash ∧ 1 < args.length then m.complain "exit: too many arguments".toList 1
    else m.finish status

def return_ (args : List Text) (m : Machine) : Machine :=
  if m.hidden.isEmpty ∧ m.dialect = .bash then
    m.complain "return: can only \x60return' from a function or sourced script".toList 2
  else match m.statusArgument "return" args with
    | .error m => m
    | .ok status => { m with status, control := .returning }

def leave (command : String) (make : Nat → Control) (args : List Text) (m : Machine) : Machine :=
  if m.loops = 0 then
    match m.dialect with
    | .dash => { m with status := 0 }
    | .bash => m.complain ((command ++
        ": only meaningful in a \x60for', \x60while', or \x60until' loop").toList) 0
  else match args with
    | [] => { m with control := make 1, status := 0 }
    | t :: _ =>
      if t ≠ [] ∧ t.all Char.isDigit ∧ t ≠ ['0'] then
        { m with control := make (min (ofDigits 10 t) m.loops), status := 0 }
      else match m.dialect with
        | .dash => m.fail ((command ++ ": Illegal number: ").toList ++ t) 2
        | .bash => m.fail ((command ++ ": ").toList ++ t ++
            ": numeric argument required".toList) 128

/-! ### Signals -/

def receive (e : Engine) (signal : Nat) (m : Machine) : Machine :=
  match Signal.name? signal with
  | none => { m with status := 0 }
  | some name =>
    match m.traps.lookup name with
    | some action =>
      if signal = 9 ∨ signal = 19 then { m with control := .ended (.killed signal) }
      else if action.isEmpty then { m with status := 0 }
      else
        let r := runText e.run .eval m.line action { m with status := 0 }
        if r.isRunning then { r with status := 0 } else r
    | none =>
      if Signal.harmless.contains signal then { m with status := 0 }
      else if Signal.stopping.contains signal then
        { m with status := 0, clock := m.clock + forever }
      else { m with control := .ended (.killed signal) }

def listSignals (args : List Text) (m : Machine) : Machine :=
  match args with
  | [] =>
    match m.dialect with
    | .dash =>
      let all := "EXIT" :: Signal.names
      { m.write 1 (all.flatMap fun n => n.toList ++ ['\n']) with status := 0 }
    | .bash => { m.write 1 Signal.table with status := 0 }
  | [t] => one t { m with status := 0 }
  | t :: rest =>
    match m.dialect with
    | .dash => one t { m with status := 0 }
    | .bash => (t :: rest).foldl (fun m t => one t m) { m with status := 0 }
where
  one (t : Text) (m : Machine) : Machine :=
    match Signal.ofText? t with
    | some n =>
      let n := if 128 < n then n - 128 else n
      let isNumber : Bool := t.all Char.isDigit
      let noSignal := if m.dialect = .bash then "EXIT" else "0"
      let line := if isNumber then ((Signal.name? n).getD noSignal).toList else shown n
      { m.write 1 (line ++ ['\n']) with status := m.status }
    | none =>
      let n := ofDigits 10 t - 128
      match t.all Char.isDigit, Signal.name? n with
      | true, some name => m.write 1 (name.toList ++ ['\n'])
      | _, _ => match m.dialect with
        | .dash => m.complain ("kill: invalid signal number or name: ".toList ++ t) 2
        | .bash => m.complain ("kill: ".toList ++ t ++ ": invalid signal specification".toList) 1

def signalTo (e : Engine) (signal : Nat) (target : Text) (m : Machine) : Machine :=
  let isJob : Bool := m.jobs.any fun j => shown j.number = target
  if target = shown processId ∨ target = ['0'] then m.receive e signal
  else if isJob ∨ target.head? = some '%' then
    let jobs := m.jobs.map fun j =>
      if shown j.number = target ∧ m.clock < j.finish ∧ signal ≠ 0 then
        { j with finish := m.clock, status := 128 + signal }
      else j
    { m with status := 0, jobs }
  else match m.dialect with
    | .dash =>
      let digits : Bool := (target.dropWhile (· = '-')).all Char.isDigit && !target.isEmpty
      if digits then m.complain "kill: No such process\n".toList 1
      else m.complain ("kill: Illegal number: ".toList ++ target) 2
    | .bash =>
      let digits : Bool := (target.dropWhile (· = '-')).all Char.isDigit && !target.isEmpty
      if digits then m.complain ("kill: (".toList ++ target ++ ") - No such process".toList) 1
      else m.complain ("kill: ".toList ++ target ++
        ": arguments must be process or job IDs".toList) 1

def kill (e : Engine) (args : List Text) (m : Machine) : Machine :=
  let usage : Machine :=
    match m.dialect with
    | .dash =>
      m.complain ("kill: Usage: kill [-s sigspec | -signum | -sigspec] [pid | job]... or" ++
        "\nkill -l [exitstatus]").toList 2
    | .bash =>
      { m.write 2 ("kill: usage: kill [-s sigspec | -n signum | -sigspec] pid | jobspec " ++
        "... or kill -l [sigspec]\n").toList with status := 2 }
  let bad (t : Text) : Machine :=
    match m.dialect with
    | .dash => m.complain ("kill: invalid signal number or name: ".toList ++ t) 2
    | .bash => m.complain ("kill: ".toList ++ t ++ ": invalid signal specification".toList) 1
  let send (t : Text) (targets : List Text) : Machine :=
    match Signal.ofText? t with
    | none => bad t
    | some signal =>
      let targets := targets.dropWhile fun x => x = "--".toList
      if targets.isEmpty then usage
      else targets.foldl (fun m target => if m.isRunning then m.signalTo e signal target else m) m
  match args with
  | [] => usage
  | a :: rest =>
    if a = "-l".toList ∨ a = "-L".toList then m.listSignals rest
    else if a = "-s".toList ∨ a = "-n".toList then
      match rest with
      | s :: targets => send s targets
      | [] => usage
    else match a with
      | '-' :: s =>
        if a = "--".toList then send "TERM".toList rest
        else match m.dialect, Signal.ofText? s with
          | .dash, none => m.complain ("kill: Illegal option -".toList ++ s.take 1) 2
          | _, _ => send s rest
      | _ => send "TERM".toList args

def trapName? (t : Text) : Option String :=
  match Signal.ofText? t with
  | some 0 => some "EXIT"
  | some n => Signal.name? n
  | none =>
    let upper := String.ofList (t.map Char.toUpper)
    if ["ERR", "DEBUG", "RETURN"].contains upper then some upper else none

def trap (args : List Text) (m : Machine) : Machine :=
  let args := args.dropWhile fun a => a = "--".toList
  let order := "EXIT" :: Signal.names
  let sortKey (n : String) : Nat := (order.findIdx? (· = n)).getD 100
  let listed (p : String → Bool) : Machine :=
    let sorted := (m.traps.filter fun t => p t.1).mergeSort fun a b =>
      decide (sortKey a.1 ≤ sortKey b.1)
    let lines := sorted.flatMap fun (name, action) =>
      let isSignal : Bool := Signal.names.contains name
      let name := if m.dialect = .bash ∧ isSignal then "SIG" ++ name else name
      "trap -- ".toList ++ (match m.dialect with
        | .dash => Quoted.single action
        | .bash => Quoted.escapedSingle action) ++ (" " ++ name ++ "\n").toList
    { m.write 1 lines with status := 0 }
  let set (action : Option Text) (names : List Text) : Machine :=
    names.foldl (fun m t =>
      match trapName? t with
      | none =>
        match m.dialect with
        | .dash => { m.write 2 ("trap: ".toList ++ t ++ ": bad trap\n".toList) with status := 1 }
        | .bash => m.complain ("trap: ".toList ++ t ++ ": invalid signal specification".toList) 1
      | some name =>
        let others := m.traps.filter fun x => x.1 ≠ name
        { m with traps := match action with
          | some a => others ++ [(name, a)]
          | none => others }) { m with status := 0 }
  match args with
  | [] => listed fun _ => true
  | a :: names =>
    if a = "-p".toList then
      listed fun name => names.isEmpty || names.any fun t => trapName? t = some name
    else if a = "-l".toList ∧ m.dialect = .bash then { m.write 1 Signal.table with status := 0 }
    else if names.isEmpty ∨ (a ≠ [] ∧ a.all Char.isDigit) then set none args
    else if a = ['-'] then set none names
    else set (some a) names

/-! ### Jobs -/

def wait (args : List Text) (m : Machine) : Machine :=
  let isNext : Bool := m.dialect = .bash && args.head? = some "-n".toList
  let args := args.filter fun a => a ≠ "-n".toList
  let job? (t : Text) : Option Job :=
    match t with
    | '%' :: n => match m.jobs.reverse[ofDigits 10 n - 1]? with
      | some j => some j
      | none => none
    | t => m.jobs.find? fun j => shown j.number = t
  match args with
  | [] =>
    let finish := m.jobs.foldl (fun t j => max t j.finish) m.clock
    if isNext then
      match m.jobs.mergeSort fun a b => a.finish ≤ b.finish with
      | j :: _ => { m with clock := max m.clock j.finish, status := j.status }
      | [] => { m with status := 127 }
    else { m with clock := finish, status := 0 }
  | args =>
    args.foldl (fun m t =>
      let isNumber : Bool := t ≠ [] && t.all Char.isDigit
      match job? t with
      | some j => { m with clock := max m.clock j.finish, status := j.status }
      | none =>
        match m.dialect with
        | .dash =>
          if t.head? = some '%' then m.complain ("wait: No such job: ".toList ++ t) 2
          else if isNumber then { m with status := 127 }
          else m.complain ("wait: Illegal number: ".toList ++ t) 2
        | .bash =>
          if t.head? = some '%' then m.complain ("wait: ".toList ++ t ++ ": no such job".toList) 127
          else if isNumber then
            m.complain ("wait: pid ".toList ++ t ++ " is not a child of this shell".toList) 127
          else m.complain ("wait: \x60".toList ++ t ++ "': not a pid or valid job spec".toList) 1) m

def jobCommand (command : String) (args : List Text) (m : Machine) : Machine :=
  let name := command.toList
  let operands := args.filter fun a => a.head? ≠ some '-'
  let complainOfEach (status : Nat) (message : Text → Text) : Machine :=
    operands.foldl (fun m t => m.complain (name ++ ": ".toList ++ message t) status)
      { m with status := 0 }
  match m.dialect with
  | .dash =>
    match operands with
    | [] =>
      if command = "jobs" then { m with status := 0 }
      else m.complain (name ++ ": No current job".toList) 2
    | t :: _ => m.complain (name ++ ": No such job: ".toList ++ t) 2
  | .bash =>
    let isMissing (t : Text) : Text := t ++ ": no such job".toList
    match command with
    | "jobs" => complainOfEach 1 isMissing
    | "disown" =>
      if args.isEmpty ∧ m.jobs.isEmpty then m.complain "disown: current: no such job".toList 1
      else complainOfEach 1 isMissing
    | "suspend" => m.complain "suspend: cannot suspend: no job control".toList 1
    | _ => m.complain (name ++ ": no job control".toList) 1

/-! ### Limits and times -/

def maskLetters (mask : Nat) : Text :=
  let triple (who : Char) (shift : Nat) : Text :=
    let bits := (511 - mask) >>> shift % 8
    who :: '=' :: (if bits / 4 % 2 = 1 then ['r'] else []) ++
      (if bits / 2 % 2 = 1 then ['w'] else []) ++ (if bits % 2 = 1 then ['x'] else [])
  joinWith [','] [triple 'u' 6, triple 'g' 3, triple 'o' 0]

def umask (args : List Text) (m : Machine) : Machine :=
  match args with
  | [] => { m.write 1 (padLeft 4 (digitsIn 8 m.mask) '0' ++ ['\n']) with status := 0 }
  | t :: _ =>
    if t = "-S".toList then { m.write 1 (maskLetters m.mask ++ ['\n']) with status := 0 }
    else if t.all isOctalDigit ∧ t ≠ [] then { m with mask := ofDigits 8 t % 512, status := 0 }
    else if t.head?.any Char.isDigit then
      match m.dialect with
      | .dash => m.complain ("umask: Illegal number: ".toList ++ t) 2
      | .bash => m.complain ("umask: ".toList ++ t ++ ": octal number out of range".toList) 1
    else { m with status := 0 }

def limits (args : List Text) (m : Machine) : Machine :=
  match args with
  | [] | [['-', 'f']] => { m.write 1 "unlimited\n".toList with status := 0 }
  | t :: rest =>
    match t with
    | '-' :: c :: _ =>
      if "HSabcdefiklmnpqrstuvxPRTw".toList.contains c then
        if rest.isEmpty then { m.write 1 "unlimited\n".toList with status := 0 }
        else { m with status := 0 }
      else match m.dialect with
        | .dash => m.complain ("ulimit: Illegal option -".toList ++ [c]) 2
        | .bash =>
          let m := m.complain ("ulimit: -".toList ++ [c] ++ ": invalid option".toList) 2
          m.write 2 "ulimit: usage: ulimit [-SHabcdefiklmnpqrstuvxPRT] [limit]\n".toList
    | _ => { m with status := 0 }

def times (m : Machine) : Machine :=
  let line := match m.dialect with
    | .dash => "0m0.000000s 0m0.000000s\n"
    | .bash => "0m0.000s 0m0.000s\n"
  { m.write 1 (line ++ line).toList with status := 0 }

/-! ### Names of commands -/

def programDirectories : List String := ["/usr/bin", "/bin"]

def searchPath (m : Machine) : List Text :=
  match m.parameter? "PATH".toList with
  | some path => path.splitOn ':'
  | none => match m.dialect with
    | .dash => []
    | .bash => []

def programPath? (e : Engine) (name : Text) (m : Machine) : Option Text :=
  if name.contains '/' then
    let base := (name.reverse.takeWhile (· ≠ '/')).reverse
    let directory := name.take (name.length - base.length - 1)
    if programDirectories.contains (String.ofList directory) ∧
        e.programs.contains (String.ofList base) then some name else none
  else if e.programs.contains (String.ofList name) then
    (m.searchPath.find? fun d =>
      programDirectories.contains (String.ofList d) || programDirectories.contains
        (String.ofList d.dropLast)).map fun d => d ++ '/' :: name
  else none

def commandsOf : Dialect → List String
  | .dash => [".", ":", "[", "alias", "bg", "break", "cd", "command", "continue", "echo", "eval",
      "exec", "exit", "export", "false", "fc", "fg", "getopts", "hash", "jobs", "kill", "local",
      "printf", "pwd", "read", "readonly", "return", "set", "shift", "test", "times", "trap",
      "true", "type", "ulimit", "umask", "unalias", "unset", "wait"]
  | .bash => [".", ":", "[", "alias", "bg", "bind", "break", "builtin", "caller", "cd", "command",
      "compgen", "complete", "compopt", "continue", "declare", "dirs", "disown", "echo", "enable",
      "eval", "exec", "exit", "export", "false", "fc", "fg", "getopts", "hash", "help", "history",
      "jobs", "kill", "let", "local", "logout", "mapfile", "popd", "printf", "pushd", "pwd", "read",
      "readarray", "readonly", "return", "set", "shift", "shopt", "source", "suspend", "test",
      "times", "trap", "true", "type", "typeset", "ulimit", "umask", "unalias", "unset", "wait"]

def keywordsOf : Dialect → List String
  | .dash => Token.reserved
  | .bash => Token.reserved ++ ["[[", "]]", "function", "select", "time", "coproc"]

inductive Meaning where
  | keyword
  | alias (value : Text)
  | function
  | builtin (special : Bool)
  | program (path : Text)

def meaning? (e : Engine) (name : Text) (m : Machine) : Option Meaning :=
  let s := String.ofList name
  if (keywordsOf m.dialect).contains s then some .keyword
  else match m.aliases.lookup name with
    | some value => some (.alias value)
    | none =>
      if m.functions.any fun f => f.1 = name then some .function
      else if (commandsOf m.dialect).contains s ∧ !m.has ("off " ++ s) then
        some (.builtin (m.dialect = .dash && specialCommands.contains s))
      else (m.programPath? e name).map .program

def describe (m : Machine) (name : Text) (meaning : Meaning) : Text :=
  match meaning with
  | .keyword => name ++ " is a shell keyword".toList
  | .alias value => match m.dialect with
    | .dash => name ++ " is an alias for ".toList ++ value
    | .bash => name ++ " is aliased to \x60".toList ++ value ++ ['\'']
  | .function => match m.dialect with
    | .dash => name ++ " is a shell function".toList
    | .bash => name ++ " is a function".toList
  | .builtin special =>
    name ++ (if special then " is a special shell builtin" else " is a shell builtin").toList
  | .program path => name ++ " is ".toList ++ path

def programPaths (e : Engine) (name : Text) (m : Machine) : List Text :=
  if name.contains '/' then (m.programPath? e name).toList
  else if e.programs.contains (String.ofList name) then
    (m.searchPath.filter fun d =>
      programDirectories.contains (String.ofList d)).map fun d => d ++ '/' :: name
  else []

def meanings (e : Engine) (name : Text) (m : Machine) : List Meaning :=
  let s := String.ofList name
  let is (b : Bool) (meaning : Meaning) : List Meaning := if b then [meaning] else []
  ((m.aliases.lookup name).map Meaning.alias).toList ++
    is ((keywordsOf m.dialect).contains s) .keyword ++
    is (m.functions.any fun f => f.1 = name) .function ++
    is ((commandsOf m.dialect).contains s && !m.has ("off " ++ s)) (.builtin false) ++
    (m.programPaths e name).map Meaning.program

def Meaning.kind : Meaning → String
  | .keyword => "keyword"
  | .alias _ => "alias"
  | .function => "function"
  | .builtin _ => "builtin"
  | .program _ => "file"

def Meaning.path? : Meaning → Option Text
  | .program path => some path
  | _ => none

def type (e : Engine) (args : List Text) (m : Machine) : Machine :=
  let flags := args.takeWhile fun a => a.head? = some '-'
  let letters := flags.flatten
  let bash : Bool := m.dialect = .bash
  let has (c : Char) : Bool := bash && letters.contains c
  (args.drop flags.length).foldl (fun m name =>
    let all := if has 'P' then (m.programPaths e name).map Meaning.program
      else if has 'a' then m.meanings e name
      else (m.meaning? e name).toList
    let all := if has 'a' then all else all.take 1
    if all.isEmpty then
      if !bash then { m.write 1 (name ++ ": not found\n".toList) with status := 127 }
      else if has 't' ∨ has 'p' ∨ has 'P' then { m with status := 1 }
      else m.complain ("type: ".toList ++ name ++ ": not found".toList) 1
    else
      let lines := all.filterMap fun meaning =>
        if has 't' then some meaning.kind.toList
        else if has 'p' ∨ has 'P' then meaning.path?
        else some (m.describe name meaning)
      m.write 1 (unlines lines)) { m with status := 0 }

def commandNames (e : Engine) (long : Bool) (names : List Text) (m : Machine) : Machine :=
  names.foldl (fun m name =>
    match m.meaning? e name with
    | some meaning =>
      let short := match meaning with
        | .alias value => "alias ".toList ++ name ++ '=' :: Quoted.single value
        | .program path => path
        | _ => name
      m.write 1 ((if long then m.describe name meaning else short) ++ ['\n'])
    | none =>
      match m.dialect with
      | .dash =>
        let m := if long then m.write 1 (name ++ ": not found\n".toList) else m
        { m with status := 127 }
      | .bash =>
        if long then m.complain ("command: ".toList ++ name ++ ": not found".toList) 1
        else { m with status := 1 }) { m with status := 0 }

def hash (e : Engine) (args : List Text) (m : Machine) : Machine :=
  match args with
  | [] => match m.dialect with
    | .dash => { m with status := 0 }
    | .bash => { m.write 1 "hash: hash table empty\n".toList with status := 0 }
  | args =>
    (args.filter fun a => a.head? ≠ some '-').foldl (fun m name =>
      if (m.meaning? e name).isSome then m
      else m.complain ("hash: ".toList ++ name ++ ": not found".toList) 1) { m with status := 0 }

def alias_ (args : List Text) (m : Machine) : Machine :=
  let line (name value : Text) : Text :=
    match m.dialect with
    | .dash => name ++ '=' :: Quoted.single value ++ ['\n']
    | .bash => "alias ".toList ++ name ++ '=' :: Quoted.escapedSingle value ++ ['\n']
  let args := args.filter (· ≠ "-p".toList)
  if args.isEmpty then
    let sorted := m.aliases.mergeSort fun a b => Text.precedes a.1 b.1
    { m.write 1 (sorted.flatMap fun (n, v) => line n v) with status := 0 }
  else args.foldl (fun m a =>
    let name := a.takeWhile (· ≠ '=')
    match a.drop name.length with
    | _ :: value =>
      { m with aliases := (name, value) :: m.aliases.filter fun x => x.1 ≠ name }
    | [] =>
      match m.aliases.lookup name with
      | some value => m.write 1 (line name value)
      | none =>
        match m.dialect with
        | .dash =>
          { m.write 2 ("alias: ".toList ++ name ++ " not found\n".toList) with status := 1 }
        | .bash => m.complain ("alias: ".toList ++ name ++ ": not found".toList) 1)
    { m with status := 0 }

def unalias (args : List Text) (m : Machine) : Machine :=
  if args.head? = some "-a".toList then { m with aliases := [], status := 0 }
  else args.foldl (fun m name =>
    if m.aliases.any fun x => x.1 = name then
      { m with aliases := m.aliases.filter fun x => x.1 ≠ name }
    else match m.dialect with
      | .dash =>
        { m.write 2 ("unalias: ".toList ++ name ++ " not found\n".toList) with status := 1 }
      | .bash => m.complain ("unalias: ".toList ++ name ++ ": not found".toList) 1)
    { m with status := 0 }

/-! ### Output -/

def say (command : String) (t : Text) (m : Machine) : Machine :=
  match if t.isEmpty then none else m.writeError? 1 with
  | none => { m.write 1 t with status := 0 }
  | some e =>
    match m.dialect with
    | .dash => m.complain (command ++ ": " ++ command ++ ": I/O error").toList 1
    | .bash => m.complain (command ++ ": write error: " ++ e.reason).toList 1

/-- The text that arguments make with blanks between them. Escapes have their meaning in one
language, and in the other one if that is asked for. -/
def echoText (d : Dialect) (escapesUsually : Bool) (args : List Text) : Text :=
  match d with
  | .dash =>
    let (newline, args) : Bool × List Text := match args with
      | ['-', 'n'] :: rest => (false, rest)
      | args => (true, args)
    let u := Printf.unescapeArgument (.shell .dash) (joinWith [' '] args)
    if u.isLast ∨ !newline then u.text else u.text ++ ['\n']
  | .bash =>
    let isFlag (a : Text) : Bool :=
      match a with
      | '-' :: c :: rest => (c :: rest).all fun c => c = 'n' || c = 'e' || c = 'E'
      | _ => false
    let flags := args.takeWhile isFlag
    let letters := flags.flatMap List.tail
    let words := args.drop flags.length
    let newline := !letters.contains 'n'
    let chosen := (letters.filter (· ≠ 'n')).getLast?
    let escapes : Bool := chosen = some 'e' || (escapesUsually && chosen.isNone)
    let t := joinWith [' '] words
    let u : Printf.Unescaped := if escapes then Printf.unescapeArgument (.shell .bash) t
      else { text := t }
    if u.isLast ∨ !newline then u.text else u.text ++ ['\n']

def echo (args : List Text) (m : Machine) : Machine :=
  m.say "echo" (echoText m.dialect (m.hasFeature "xpg_echo") args)

def printf (args : List Text) (m : Machine) : Machine :=
  let usage : Machine :=
    match m.dialect with
    | .dash => m.complain "printf: usage: printf format [arg ...]".toList 2
    | .bash =>
      { m.write 2 "printf: usage: printf [-v var] format [arguments]\n".toList with status := 2 }
  let (target?, args) : Option Text × List Text := match m.dialect, args with
    | .bash, ['-', 'v'] :: name :: rest => (some name, rest)
    | _, args => (none, args)
  let isOver : Bool := args.head? = some "--".toList
  match if isOver then args.tail else args with
  | [] => usage
  | format :: rest =>
    match if isOver then [] else format with
    | '-' :: c :: _ =>
      match m.dialect with
      | .dash => m.complain ("printf: Illegal option -".toList ++ [c]) 2
      | .bash =>
        let m := m.complain ("printf: -".toList ++ [c] ++ ": invalid option".toList) 2
        m.write 2 "printf: usage: printf [-v var] format [arguments]\n".toList
    | _ =>
      let (out, complaints, status) := Printf.print (.shell m.dialect) format rest
      let m := complaints.foldl (fun m t => m.complain ("printf: ".toList ++ t) status) m
      match target? with
      | some name =>
        let place := name.takeWhile (· ≠ '[')
        if !isName place then
          m.complain ("printf: \x60".toList ++ name ++ "': not a valid identifier".toList) 2
        else { m.assignPlace name out with status }
      | none =>
        let m := m.say "printf" out
        if m.status = 0 then { m with status } else m

end Machine

end StructuralEdit.Shell
