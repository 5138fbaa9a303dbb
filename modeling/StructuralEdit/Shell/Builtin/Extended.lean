import StructuralEdit.Shell.Assigning
import StructuralEdit.Shell.Builtin.Process
import StructuralEdit.Shell.Builtin.Variables
/-!
Commands that only one language of shells has.
-/
namespace StructuralEdit.Shell.Machine

def withLetters (on : Bool) (letters : Text) (b : Binding) : Binding :=
  letters.foldl (fun b c =>
    match c with
    | 'a' => { b with value := match b.value with
      | none => some (.indexed [])
      | some (.text t) => some (.indexed [(0, t)])
      | v => v }
    | 'A' => { b with value := match b.value with
      | none => some (.associative [])
      | v => v }
    | 'i' => { b with isInteger := on }
    | 'r' => { b with isReadOnly := on || b.isReadOnly }
    | 'x' => { b with isExported := on }
    | 'u' => { b with letters := if on then some .upper else none }
    | 'l' => { b with letters := if on then some .lower else none }
    | 'c' => { b with letters := if on then some .capital else none }
    | 'n' => { b with isReference := on }
    | _ => b) b

def declare (command : Text) (args : List Text) (m : Machine) : Machine :=
  let isFlag (a : Text) : Bool := (a.head? = some '-' || a.head? = some '+') && 1 < a.length
  let flags := args.takeWhile isFlag
  let names := args.drop flags.length
  let on := (flags.filter fun f => f.head? = some '-').flatMap List.tail
  let off := (flags.filter fun f => f.head? = some '+').flatMap List.tail
  match on.find? fun c => !"aAcilnruxgpfFIt".toList.contains c with
  | some c =>
    let m := m.complain (command ++ ": -".toList ++ [c] ++ ": invalid option".toList) 2
    m.write 2 (command ++ (": usage: " ++ "declare [-aAfFgiIlnrtux] [name[=value] ...] or " ++
      "declare -p [-aAfFilnrtux] [name ...]\n").toList)
  | none =>
    if on.contains 'f' ∨ on.contains 'F' then
      let known := names.all fun n => m.functions.any fun f => f.1 = n
      if on.contains 'F' then
        let shownNames := if names.isEmpty then m.functions.map fun f => "declare -f ".toList ++ f.1
          else names.filter fun n => m.functions.any fun f => f.1 = n
        { m.write 1 (unlines shownNames) with status := if known then 0 else 1 }
      else { m with status := if known then 0 else 1 }
    else if on.contains 'p' ∨ names.isEmpty then
      if names.isEmpty then m.showDeclared "declare" fun _ => true
      else names.foldl (fun m name =>
        match m.binding? name with
        | some b => m.write 1 (fullDeclaration name b)
        | none => m.complain (command ++ ": ".toList ++ name ++ ": not found".toList) 1)
        { m with status := 0 }
    else
      let isLocal : Bool := !m.hidden.isEmpty && !on.contains 'g'
      names.foldl (fun m a =>
        let (whole, appends, value) := splitAssignment a
        let name := whole.takeWhile (· ≠ '[')
        if !m.isRunning then m
        else if !isName name then m.badName command whole a
        else
          let isNew : Bool := isLocal && !(m.hidden.headD []).any fun h => h.1 = name
          let m := if isLocal then m.hide name else m
          let m := if isNew then m.modifyBinding name fun b => { b with value := none } else m
          let readOnly := on.contains 'r'
          let m := m.modifyBinding name fun b =>
            withLetters false off (withLetters true (on.filter (· ≠ 'r')) b)
          let isReference := on.contains 'n'
          let m := match value with
            | none => m
            | some t =>
              if isReference then m.modifyBinding name fun b => { b with value := some (.text t) }
              else
                let b := (m.binding? name).getD {}
                let (t, m) := if appends then extended b (m.parameter name) t m else worth b t m
                let sub := (whole.drop (name.length + 1)).dropLast
                if !m.isRunning then m
                else if name.length < whole.length then m.assignItem name sub t false
                else m.assignOrFail name t
          if readOnly ∧ m.isRunning then m.modifyBinding name fun b => { b with isReadOnly := true }
          else m) { m with status := 0 }

/-- Evaluates expressions. The last one decides about success, and a mistake ends the command. -/
def let_ (args : List Text) (m : Machine) : Machine :=
  if args.isEmpty then m.complain "let: expression expected".toList 1
  else
    let unboundEnd := ": unbound variable".toList
    (args.foldl (fun (goes, m) t =>
      if !goes then (false, m)
      else match m.evaluate t with
        | .ok (n, m) =>
          (m.isRunning, if m.isRunning then { m with status := if n = 0 then 1 else 0 } else m)
        | .error message =>
          if unboundEnd.isSuffixOf message then (false, (m.number t).2)
          else (false, m.complain ("let: ".toList ++ message) 1)) (true, m)).2

/-! ### Reading lines into an array -/

structure LineOptions where
  strips : Bool := false
  mark : Char := '\n'
  count : Nat := 0
  skipped : Nat := 0
  origin : Option Nat := none
  descriptor : Nat := 0
  name : Text := "MAPFILE".toList

def lineOptions : Nat → List Text → LineOptions → Except Text LineOptions
  | 0, _, o => .ok o
  | _ + 1, [], o => .ok o
  | n + 1, a :: args, o =>
    match a with
    | ['-', '-'] => .ok { o with name := args.headD o.name }
    | '-' :: 't' :: rest =>
      let again : List Text := if rest.isEmpty then args else ('-' :: rest) :: args
      lineOptions n again { o with strips := true }
    | '-' :: c :: rest =>
      let (value, args) : Text × List Text :=
        if rest.isEmpty then (args.headD [], args.tail) else (rest, args)
      let isNumber : Bool := value ≠ [] && value.all Char.isDigit
      let k := ofDigits 10 value
      let numbered (what : String) (o : LineOptions) : Except Text LineOptions :=
        if isNumber then lineOptions n args o else .error (value ++ (": invalid " ++ what).toList)
      match c with
      | 'd' => lineOptions n args { o with mark := value.headD '\x00' }
      | 'n' => numbered "line count" { o with count := k }
      | 's' => numbered "line count" { o with skipped := k }
      | 'O' => numbered "array origin" { o with origin := some k }
      | 'u' => numbered "file descriptor specification" { o with descriptor := k }
      | _ => lineOptions n args o
    | name => .ok { o with name }

def rowsEndedBy (mark : Char) (t : Text) : List Text :=
  let pieces := t.splitOn mark
  pieces.dropLast.map (· ++ [mark]) ++
    match pieces.getLast? with
    | some last => if last.isEmpty then [] else [last]
    | none => []

def readLines (command : String) (args : List Text) (m : Machine) : Machine :=
  let complain (t : Text) : Machine := m.complain ((command ++ ": ").toList ++ t) 1
  match lineOptions ((args.map List.length).foldl (· + ·) args.length + 1) args {} with
  | .error t => complain t
  | .ok o =>
    if !isName o.name then complain ('\x60' :: o.name ++ "': not a valid identifier".toList)
    else if (m.channel? o.descriptor).isNone then
      complain (shown o.descriptor ++ ": invalid file descriptor: Bad file descriptor".toList)
    else
      let rows := rowsEndedBy o.mark (m.inputAt o.descriptor)
      let wanted := o.skipped + o.count
      let (taken, left) := if o.count = 0 then (rows, []) else (rows.take wanted, rows.drop wanted)
      let strip (row : Text) : Text :=
        if o.strips ∧ row.getLast? = some o.mark then row.dropLast else row
      let items := (taken.drop o.skipped).map strip
      let m := m.leaveAt o.descriptor left.flatten
      let old : List (Int × Text) := match o.origin, (m.binding? o.name).bind (·.value) with
        | some _, some (.indexed items) => items
        | _, _ => []
      let origin := o.origin.getD 0
      let known := items.zipIdx.foldl (fun known (t, i) =>
        setItem known ((origin + i : Nat) : Int) t) old
      { m.store o.name (.indexed known) with status := 0 }

/-! ### Features -/

def features : List String :=
  ["autocd", "assoc_expand_once", "cdable_vars", "cdspell", "checkhash", "checkjobs",
    "checkwinsize", "cmdhist", "compat31", "compat32", "compat40", "compat41", "compat42",
    "compat43", "compat44", "complete_fullquote", "direxpand", "dirspell", "dotglob", "execfail",
    "expand_aliases", "extdebug", "extglob", "extquote", "failglob", "force_fignore",
    "globasciiranges", "globskipdots", "globstar", "gnu_errfmt", "histappend", "histreedit",
    "histverify", "hostcomplete", "huponexit", "inherit_errexit", "interactive_comments",
    "lastpipe", "lithist", "localvar_inherit", "localvar_unset", "login_shell", "mailwarn",
    "no_empty_cmd_completion", "nocaseglob", "nocasematch", "noexpand_translation", "nullglob",
    "patsub_replacement", "progcomp", "progcomp_alias", "promptvars", "restricted_shell",
    "shift_verbose", "sourcepath", "varredir_close", "xpg_echo"]

/-- Turns features, or with a letter the options of scripts, on and off and shows them. -/
def shopt (args : List Text) (m : Machine) : Machine :=
  let flags := (args.takeWhile fun a => a.head? = some '-').flatten
  let names := (args.dropWhile fun a => a.head? = some '-').map String.ofList
  let ofScripts := flags.contains 'o'
  let known := if ofScripts then longOptions .bash else features
  let isOn (name : String) : Bool := if ofScripts then m.has name else m.hasFeature name
  let turn (on : Bool) (name : String) (m : Machine) : Machine :=
    if ofScripts then m.set on name else m.setFeature on name
  let unknown (name : String) (m : Machine) : Machine :=
    m.complain ("shopt: " ++ name ++ ": invalid " ++ (if ofScripts then "" else "shell ") ++
      "option name").toList 1
  let line (name : String) : Text :=
    if flags.contains 'p' then
      let mark := if isOn name then "-" else "+"
      if ofScripts then ("set " ++ mark ++ "o " ++ name ++ "\n").toList
      else ("shopt " ++ (if isOn name then "-s " else "-u ") ++ name ++ "\n").toList
    else padRight 15 name.toList ' ' ++ ("\t" ++ (if isOn name then "on" else "off") ++ "\n").toList
  let sets := flags.contains 's'
  let unsets := flags.contains 'u'
  if sets ∧ unsets then
    m.complain "shopt: cannot set and unset shell options simultaneously".toList 1
  else if names.isEmpty then
    let shownNames := known.filter fun name => if sets then isOn name else !unsets || !isOn name
    { m.write 1 (shownNames.flatMap line) with status := 0 }
  else if sets ∨ unsets then
    names.foldl (fun m name =>
      if known.contains name then turn sets name m else unknown name m) { m with status := 0 }
  else
    names.foldl (fun m name =>
      if !known.contains name then unknown name m
      else
        let status := if isOn name then m.status else 1
        { (if flags.contains 'q' then m else m.write 1 (line name)) with status })
      { m with status := 0 }

def directoryStack (m : Machine) : List Text := (m.itemsOf "DIRSTACK".toList).map (·.2)

def storeStack (ds : List Text) (m : Machine) : Machine :=
  m.store "DIRSTACK".toList (.indexed (ds.zipIdx.map fun (t, i) => ((i : Int), t)))

def showStack (m : Machine) : Machine :=
  let home := m.parameter "HOME".toList
  let short (t : Text) : Text :=
    if home ≠ [] ∧ home.isPrefixOf t ∧ (t.length = home.length ∨ t[home.length]? = some '/') then
      '~' :: t.drop home.length
    else t
  { m.write 1 (joinWith [' '] ((m.workingDirectory :: m.directoryStack).map short) ++ ['\n']) with
    status := 0 }

def pushDirectory (args : List Text) (m : Machine) : Machine :=
  match args, m.directoryStack with
  | target :: _, ds =>
    let here := m.workingDirectory
    let r := m.changeDirectory [target]
    if r.status = 0 then (r.storeStack (here :: ds)).showStack else r
  | [], d :: ds =>
    let here := m.workingDirectory
    let r := m.changeDirectory [d]
    if r.status = 0 then (r.storeStack (here :: ds)).showStack else r
  | [], [] => m.complain "pushd: no other directory".toList 1

def popDirectory (m : Machine) : Machine :=
  match m.directoryStack with
  | d :: ds =>
    let r := m.changeDirectory [d]
    if r.status = 0 then (r.storeStack ds).showStack else r
  | [] => m.complain "popd: directory stack empty".toList 1

/-- Turns commands of the shell off and on again and shows which ones are there. -/
def enable (args : List Text) (m : Machine) : Machine :=
  let flags := (args.takeWhile fun a => a.head? = some '-').flatten
  let names := (args.dropWhile fun a => a.head? = some '-').map String.ofList
  let offName (name : String) : String := "off " ++ name
  let isOff (name : String) : Bool := m.has (offName name)
  let known := (commandsOf .bash).filter fun name =>
    (flags.contains 'a' || isOff name == flags.contains 'n') &&
      (!flags.contains 's' || name = "source" || specialCommands.contains name)
  let line (name : String) : Text :=
    ("enable " ++ (if isOff name then "-n " else "") ++ name ++ "\n").toList
  if names.isEmpty then { m.write 1 (known.flatMap line) with status := 0 }
  else names.foldl (fun m name =>
    if (commandsOf .bash).contains name then m.set (flags.contains 'n') (offName name)
    else m.complain ("enable: " ++ name ++ ": not a shell builtin").toList 1) { m with status := 0 }

def generate (args : List Text) (m : Machine) : Machine :=
  match args with
  | ['-', 'W'] :: words :: rest =>
    let start := rest.headD []
    let found := ((words.splitOnP isSpace).filter fun w => !w.isEmpty).filter start.isPrefixOf
    { m.write 1 (unlines found) with status := if found.isEmpty then 1 else 0 }
  | _ => { m with status := 1 }

def extendedCommand (e : Engine) (command : String) (args : List Text) (m : Machine) : Machine :=
  match command with
  | "declare" | "typeset" => m.declare command.toList args
  | "let" => m.let_ args
  | "mapfile" | "readarray" => m.readLines command args
  | "shopt" => m.shopt args
  | "dirs" => m.showStack
  | "pushd" => m.pushDirectory args
  | "popd" => m.popDirectory
  | "builtin" =>
    if args.isEmpty then { m with status := 0 } else e.command ("command".toList :: args) m
  | "caller" => { m with status := 1 }
  | "jobs" | "fg" | "bg" | "disown" | "suspend" => m.jobCommand command args
  | "logout" => m.complain "logout: not login shell: use \x60exit'".toList 1
  | "compgen" => m.generate args
  | "compopt" => m.complain "compopt: not currently executing completion function".toList 1
  | "bind" => m.complain "bind: warning: line editing not enabled".toList 0
  | "enable" => m.enable args
  | "help" =>
    match args with
    | [] => { m with status := 0 }
    | topic :: _ =>
      if (commandsOf .bash ++ keywordsOf .bash).contains (String.ofList topic) then
        { m with status := 0 }
      else m.complain ("help: no help topics match \x60".toList ++ topic ++ ("'.  Try \x60help " ++
        "help' or \x60man -k ").toList ++ topic ++ "' or \x60info ".toList ++ topic ++
        "'.".toList) 1
  | _ => { m with status := 0 }

end StructuralEdit.Shell.Machine
