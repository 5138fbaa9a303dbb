import StructuralEdit.Shell.Launching
import StructuralEdit.Shell.Utility.Plain
/-!
Programs that start another program: with other variables, for some time only, or apart from where
they were started.
-/
namespace StructuralEdit.Shell

namespace Starting

/-- Whether a program can be started, also if no variable tells where to look for it. -/
def isStartable (e : Engine) (name : Text) (m : Machine) : Bool :=
  let path := "PATH".toList
  let m := if (m.parameter? path).isSome then m else m.assign path "/bin:/usr/bin".toList
  (m.programPath? e name).isSome

def obstacle (name : Text) (m : Machine) : FileError × Nat :=
  if name = ['.'] ∨ name = ['.', '.'] then (.permissionDenied, 126)
  else if name.contains '/' then
    match m.files.find (decode name) with
    | .ok _ => (.permissionDenied, 126)
    | .error .notFound => (.notFound, 127)
    | .error e => (e, 126)
  else (.notFound, 127)

def complain (message : Text) (status : Nat) (m : Machine) : Machine :=
  { m.write 2 (message ++ ['\n']) with status }

def usage (name message : Text) (status : Nat) (m : Machine) : Machine :=
  complain (name ++ ": ".toList ++ message ++ "\nTry '".toList ++ name ++
    " --help' for more information.".toList) status m

def become (e : Engine) (complaint : Text) (words : List Text) (m : Machine) : Machine :=
  match words with
  | [] => m
  | name :: _ =>
    if isStartable e name m then e.program words m
    else
      let (why, status) := obstacle name m
      complain (complaint ++ (": " ++ why.reason).toList) status m

def endAs (ending : Ending) (m : Machine) : Machine :=
  match ending with
  | .exited status => { m with status }
  | .killed _ => { m with control := .ended ending }

def withCommand (specs : List String) (status : Nat)
    (run : Engine → Text → Options → Machine → Machine) : Launcher := fun e name args m =>
  match Options.read specs false args with
  | .ok f => run e name f m
  | .error t => usage name t status m

def cannotRun (name : Text) (words : List Text) : Text :=
  name ++ ": failed to run command ".toList ++ quote (words.headD [])

end Starting

open Starting

/-! ### Variables -/

namespace Starting

def setVariable (m : Machine) (word : Text) : Machine :=
  let name := word.takeWhile (· ≠ '=')
  m.setBinding name { value := some (.text (word.drop (name.length + 1))), isExported := true }

def withoutVariables (m : Machine) : Machine :=
  { m with bindings := m.bindings.filter fun b => !b.2.isExported }

end Starting

def changeEnvironment : Launcher :=
  withCommand ["i ignore-environment", "u= unset", "0 null", "C= chdir", "S= split-string",
    "v debug"] 125 fun e name f m =>
    let said (t : Text) (m : Machine) : Machine := complain (name ++ ": ".toList ++ t) 125 m
    let split := ((f.value? "S").getD []).splitOn ' ' |>.filter (· ≠ [])
    let words := split ++ f.operands
    let isEmptied : Bool := f.has "i" || words.head? = some ['-']
    let words := if words.head? = some ['-'] then words.tail else words
    let m := if isEmptied then withoutVariables m else m
    match (f.values "u").find? fun v => v.isEmpty || v.contains '=' with
    | some v => said ("cannot unset ".toList ++ quote v ++ ": Invalid argument".toList) m
    | none =>
      let m := (f.values "u").foldl (fun m v => m.removeBinding v) m
      let settings := words.takeWhile fun w => w.contains '='
      let m := settings.foldl setVariable m
      match words.drop settings.length with
      | [] =>
        let mark := if f.has "0" then '\x00' else '\n'
        let shown := m.environment.flatMap fun (n, v) => n ++ '=' :: v ++ [mark]
        { m.write 1 shown with status := 0 }
      | program :: args =>
        if f.has "0" then usage name "cannot specify --null (-0) with command".toList 125 m
        else
          let place : Except FileError Machine := match f.value? "C" with
            | none => .ok m
            | some path => do
              let node ← m.files.find (decode path)
              let names ← m.files.locate (decode path)
              match node with
              | .directory _ => .ok { m with files := { m.files with current := names } }
              | .file _ => .error .notDirectory
          match place with
          | .error why =>
            said ("cannot change directory to ".toList ++ quote ((f.value? "C").getD []) ++
              (": " ++ why.reason).toList) m
          | .ok m =>
            let m := if f.has "v" then
                m.write 2 ("executing: ".toList ++ program ++ ['\n'] ++
                  ((program :: args).zipIdx.flatMap fun (w, i) =>
                    "   arg[".toList ++ shown i ++ "]= ".toList ++ quote w ++ ['\n']))
              else m
            let r := become e (name ++ ": ".toList ++ quote program) (program :: args) m
            if program.contains ' ' ∧ !isStartable e program m then
              complain (name ++ ": use -[v]S to pass options in shebang lines".toList) r.status r
            else r

/-! ### Time -/

def limitTime : Launcher :=
  withCommand ["s= signal", "k= kill-after", "v verbose", "preserve-status", "foreground"] 125
    fun e name f m =>
    let badTime (t : Text) : Machine :=
      usage name ("invalid time interval ".toList ++ quote t) 125 m
    let signalText := (f.value? "s").getD "TERM".toList
    match Signal.ofText? signalText, (f.values "k").find? fun t => (interval? t).isNone with
    | none, _ => usage name (quote signalText ++ ": invalid signal".toList) 125 m
    | _, some t => badTime t
    | some signal, none =>
      match f.operands with
      | [] | [_] =>
        complain ("Try '".toList ++ name ++ " --help' for more information.".toList) 125 m
      | time :: words =>
        match interval? time with
        | none => badTime time
        | some duration =>
          if !isStartable e (words.headD []) m then become e (cannotRun name words) words m
          else
            let limit := m.clock + duration
            let (ending, r) := m.ownProcess (e.program words)
            if duration = 0 ∨ r.clock < limit then endAs ending r
            else
              let r := { r with
                written := r.written.filter fun w => w.time ≤ limit
                clock := if Signal.harmless.contains signal then r.clock else limit }
              let r := if f.has "v" then
                  r.write 2 (name ++ ": sending signal ".toList ++
                    ((Signal.name? signal).getD "0").toList ++ " to command ".toList ++
                    quote (words.headD []) ++ ['\n'])
                else r
              if signal = 9 then endAs (.killed 9) r
              else { r with status := if f.has "preserve-status" then 128 + signal else 124 }

/-! ### Apart from where they were started -/

/-- Starts a program that gives way to others, or shows how much this program does. -/
def lowerPriority : Launcher := fun e name args m =>
  let isNumber (t : Text) : Bool :=
    let t := match t with
      | '-' :: t | '+' :: t => t
      | t => t
    !t.isEmpty && t.all Char.isDigit
  let short (a : Text) : Bool := match a with
    | '-' :: t => isNumber t
    | _ => false
  let numbers := args.takeWhile short
  let args := numbers.flatMap (fun a => ["-n".toList, a.tail]) ++ args.drop numbers.length
  withCommand ["n= adjustment"] 125 (fun e name f m =>
    match (f.value? "n").filter fun t => !isNumber t, f.operands with
    | some t, _ => complain (name ++ ": invalid adjustment ".toList ++ quote t) 125 m
    | none, [] =>
      if f.has "n" then usage name "a command must be given with an adjustment".toList 125 m
      else { m.write 1 ['0', '\n'] with status := 0 }
    | none, words => become e (name ++ ": ".toList ++ quote (words.headD [])) words m) e name args m

def ignoreHangup : Launcher :=
  withCommand [] 125 fun e name f m =>
    if f.operands.isEmpty then usage name "missing operand".toList 125 m
    else become e (cannotRun name f.operands) f.operands m

def startSession : Launcher :=
  withCommand ["c ctty", "f fork", "w wait"] 1 fun e name f m =>
    let words := f.operands
    if words.isEmpty then usage name "no command specified".toList 1 m
    else
      let r := become e (name ++ ": failed to execute ".toList ++ words.headD []) words m
      if f.has "f" then { r with status := 0, control := .running } else r

/-- Starts a program whose streams pass on what they are given sooner or later than they would. -/
def changeBuffering : Launcher :=
  withCommand ["i= input", "o= output", "e= error"] 125 fun e name f m =>
    let isMode (t : Text) : Bool := t = ['L'] || (sized? t).isSome
    match f.flags.find? fun x => !isMode x.2 || (x.1 = "i" && x.2 = ['L']) with
    | some ("i", ['L']) => usage name "line buffering stdin is meaningless".toList 125 m
    | some (_, t) => complain (name ++ ": invalid mode ".toList ++ quote t) 125 m
    | none =>
      if f.operands.isEmpty then usage name "missing operand".toList 125 m
      else if f.flags.isEmpty then
        usage name "you must specify a buffering mode option".toList 125 m
      else become e (cannotRun name f.operands) f.operands m

/-! ### Where programs are -/

def showPrograms : Launcher := fun e _ args m =>
  let isOption (a : Text) : Bool := a.length ≥ 2 && a.head? = some '-'
  let letters := (args.takeWhile isOption).flatMap List.tail
  let names := args.dropWhile isOption
  match letters.find? fun c => !(['a', 's', '-'].contains c) with
  | some c =>
    complain ("Illegal option -".toList ++ [c] ++ "\nUsage: /usr/bin/which [-as] args".toList) 2 m
  | none =>
    let places (name : Text) : List Text :=
      match m.programPath? e name with
      | none => []
      | some path =>
        if letters.contains 'a' ∧ !name.contains '/' then
          (m.searchPath.filter fun d =>
          Machine.programDirectories.contains (String.ofList d)).map
            fun d => d ++ '/' :: name
        else [path]
    let found := names.map places
    let out := if letters.contains 's' then [] else found.flatten.flatMap fun p => p ++ ['\n']
    { m.write 1 out with status := if names.isEmpty ∨ found.any (·.isEmpty) then 1 else 0 }

end StructuralEdit.Shell
