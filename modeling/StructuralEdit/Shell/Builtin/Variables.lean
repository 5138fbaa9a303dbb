import StructuralEdit.Shell.Assigning
/-!
Commands of the shell that set, show and remove variables and options.
-/
namespace StructuralEdit.Shell.Machine

/-! ### Options -/

def setLetter? (on : Bool) (c : Char) (m : Machine) : Option Machine :=
  (optionLetters.lookup c).map fun name => m.set on name

def longOptions (d : Dialect) : List String :=
  match d with
  | .dash => ["errexit", "noglob", "ignoreeof", "interactive", "monitor", "noexec", "stdin",
      "xtrace", "verbose", "vi", "emacs", "noclobber", "allexport", "notify", "nounset",
      "privileged", "nolog", "debug"]
  | .bash => ["allexport", "braceexpand", "emacs", "errexit", "errtrace", "functrace", "hashall",
      "histexpand", "history", "ignoreeof", "interactive-comments", "keyword", "monitor",
      "noclobber", "noexec", "noglob", "nolog", "notify", "nounset", "onecmd", "physical",
      "pipefail", "posix", "privileged", "verbose", "vi", "xtrace"]

def optionLines (m : Machine) : Text :=
  (longOptions m.dialect).flatMap fun name =>
    let state := if m.has name then "on" else "off"
    match m.dialect with
    | .dash => padRight 16 name.toList ' ' ++ state.toList ++ ['\n']
    | .bash => padRight 15 name.toList ' ' ++ '\t' :: state.toList ++ ['\n']

def variableLines (m : Machine) : Text :=
  let sorted := m.bindings.mergeSort fun a b => Text.precedes a.1 b.1
  sorted.flatMap fun (name, b) =>
    match b.value with
    | some (.text t) =>
      let quoted := match m.dialect with
        | .dash => Quoted.single t
        | .bash => if t.isEmpty then [] else Quoted.ifNeeded t
      name ++ '=' :: quoted ++ ['\n']
    | some (.indexed items) =>
      let shownItems := items.map fun (i, t) => '[' :: shownInt i ++ "]=".toList ++ Quoted.double t
      name ++ "=(".toList ++ joinWith [' '] shownItems ++ ")\n".toList
    | some (.associative items) =>
      let shownItems := (listed items).flatMap fun (k, t) =>
        '[' :: k ++ "]=".toList ++ Quoted.double t ++ [' ']
      name ++ "=(".toList ++ shownItems ++ ")\n".toList
    | none => []

def setLetters (on : Bool) (letters : Text) (m : Machine) : Machine :=
  letters.foldl (fun m c =>
    if !m.isRunning ∨ m.status = 2 then m
    else match m.setLetter? on c with
      | some m => m
      | none =>
        let sign := if on then '-' else '+'
        match m.dialect with
        | .dash => m.fail ("set: Illegal option ".toList ++ [sign, c]) 2
        | .bash =>
          if "hkptBEHPT".toList.contains c then m
          else
            let m := m.complain ("set: ".toList ++ [sign, c] ++ ": invalid option".toList) 2
            m.write 2 ("set: usage: set [-abefhkmnptuvxBCEHPT] [-o option-name] [--] [-] " ++
              "[arg ...]\n").toList) m

def setOptions : Nat → List Text → Machine → Machine
  | 0, _, m => m
  | _ + 1, [], m => m
  | n + 1, a :: args, m =>
    if !m.isRunning ∨ m.status = 2 then m
    else match a with
      | ['-', '-'] => { m with arguments := args }
      | ['-'] => if args.isEmpty then m else { m with arguments := args }
      | ['-', 'o'] | ['+', 'o'] =>
        match args with
        | [] =>
          let heading := if m.dialect = .dash then "Current option settings\n" else ""
          m.write 1 (heading.toList ++ m.optionLines)
        | name :: args =>
          if (longOptions m.dialect).contains (String.ofList name) then
            setOptions n args (m.set (a = "-o".toList) (String.ofList name))
          else match m.dialect with
            | .dash => m.fail ("set: Illegal option -o ".toList ++ name) 2
            | .bash => m.complain ("set: ".toList ++ name ++ ": invalid option name".toList) 2
      | '-' :: letters =>
        if letters.getLast? = some 'o' then
          setOptions n ("-o".toList :: args) (m.setLetters true letters.dropLast)
        else setOptions n args (m.setLetters true letters)
      | '+' :: letters => setOptions n args (m.setLetters false letters)
      | _ => { m with arguments := a :: args }

def setCommand (args : List Text) (m : Machine) : Machine :=
  if args.isEmpty then { m.write 1 m.variableLines with status := 0 }
  else setOptions (args.length + 1) args { m with status := 0 }

/-! ### Properties of variables -/

/-- Splits a word around its first equals sign. A plus before it means that the text is put behind
the old value. -/
def splitAssignment (t : Text) : Text × Bool × Option Text :=
  let name := t.takeWhile (· ≠ '=')
  match t.drop name.length with
  | _ :: value =>
    if name.getLast? = some '+' then (name.dropLast, true, some value)
    else (name, false, some value)
  | [] => (name, false, none)

def badName (command name whole : Text) (m : Machine) : Machine :=
  match m.dialect with
  | .dash => m.fail (command ++ ": ".toList ++ name ++ ": bad variable name".toList) 2
  | .bash =>
    m.complain (command ++ ": \x60".toList ++ whole ++ "': not a valid identifier".toList) 1

def modifyBinding (name : Text) (f : Binding → Binding) (m : Machine) : Machine :=
  m.setBinding name (f ((m.binding? name).getD {}))

/-- Gives a variable that is named in an argument its value, if there is one. -/
def assignArgument (name : Text) (appends : Bool) (value : Option Text) (m : Machine) : Machine :=
  match value with
  | none => m
  | some t => m.assignOrFail name (if appends then m.parameter name ++ t else t)

def declaration (m : Machine) (command : String) (name : Text) (b : Binding) : Text :=
  let value := (b.value.bind textOf?).map fun t =>
    match m.dialect with
    | .dash => '=' :: Quoted.single t
    | .bash => '=' :: Quoted.double t
  command.toList ++ ' ' :: name ++ value.getD [] ++ ['\n']

def showDeclared (command : String) (p : Binding → Bool) (m : Machine) : Machine :=
  let sorted := (m.bindings.filter fun x => p x.2).mergeSort fun a b => Text.precedes a.1 b.1
  let lines := sorted.flatMap fun (name, b) =>
    match m.dialect with
    | .dash => m.declaration command name b
    | .bash => fullDeclaration name b
  { m.write 1 lines with status := 0 }

def markAll (command : String) (p : Binding → Bool) (mark : Binding → Binding)
    (args : List Text) (m : Machine) : Machine :=
  match args with
  | [] => m.showDeclared command p
  | ['-', 'p'] :: _ => m.showDeclared command p
  | args =>
    let args := args.dropWhile fun a => a = "--".toList
    args.foldl (fun m a =>
      let (name, appends, value) := splitAssignment a
      if !m.isRunning then m
      else if !isName name then m.badName command.toList name a
      else
        let m := m.assignArgument name appends value
        if m.isRunning then m.modifyBinding name mark else m) { m with status := 0 }

def exportCommand (args : List Text) (m : Machine) : Machine :=
  match args with
  | ['-', 'n'] :: names =>
    names.foldl (fun m name => m.modifyBinding name fun b => { b with isExported := false })
      { m with status := 0 }
  | _ => m.markAll "export" (·.isExported) (fun b => { b with isExported := true }) args

def readOnlyCommand (args : List Text) (m : Machine) : Machine :=
  m.markAll "readonly" (·.isReadOnly) (fun b => { b with isReadOnly := true }) args

def unset (args : List Text) (m : Machine) : Machine :=
  let flags := args.takeWhile fun a => a.head? = some '-'
  let functions : Bool := flags.contains "-f".toList
  let names := args.drop flags.length
  names.foldl (fun m whole =>
    let name := whole.takeWhile (· ≠ '[')
    let sub := (whole.drop (name.length + 1)).dropLast
    if !m.isRunning then m
    else if functions then { m with functions := m.functions.filter fun f => f.1 ≠ whole }
    else if !isName name then
      match m.dialect with
      | .dash => m.badName "unset".toList name whole
      | .bash => m
    else if m.isReadOnly name then
      match m.dialect with
      | .dash => m.fail ("unset: ".toList ++ name ++ ": is read only".toList) 2
      | .bash =>
        m.complain ("unset: ".toList ++ name ++ ": cannot unset: readonly variable".toList) 1
    else if sub.isEmpty then
      if (m.binding? name).isNone ∧ m.dialect = .bash then
        { m with functions := m.functions.filter fun f => f.1 ≠ name }
      else m.removeBinding name
    else match (m.binding? name).bind (·.value) with
      | some (.associative items) =>
        m.store name (.associative (items.filter fun x => x.1 ≠ sub))
      | some (.indexed items) =>
        let (i, m) := m.number sub
        let i := Arithmetic.placeOf items i
        m.store name (.indexed (items.filter fun x => x.1 ≠ i))
      | _ => m) { m with status := 0 }

def localCommand (args : List Text) (m : Machine) : Machine :=
  if m.hidden.isEmpty then
    match m.dialect with
    | .dash => m.fail "local: not in a function".toList 2
    | .bash => m.complain "local: can only be used in a function".toList 1
  else
    args.foldl (fun m a =>
      let (name, appends, value) := splitAssignment a
      if !m.isRunning then m
      else if name = ['-'] then m
      else if !isName name then m.badName "local".toList name a
      else
        let m := m.hide name
        let m := match m.dialect, value with
          | .bash, none => m.modifyBinding name fun b => { b with value := none }
          | _, _ => m
        m.assignArgument name appends value) { m with status := 0 }

def shift (args : List Text) (m : Machine) : Machine :=
  let n? : Option Nat := match args with
    | [] => some 1
    | t :: _ => if t ≠ [] ∧ t.all Char.isDigit then some (ofDigits 10 t) else none
  match n? with
  | none =>
    let t := args.headD []
    match m.dialect with
    | .dash => m.fail ("shift: Illegal number: ".toList ++ t) 2
    | .bash => m.complain ("shift: ".toList ++ t ++ ": numeric argument required".toList) 1
  | some n =>
    if n ≤ m.arguments.length then { m with arguments := m.arguments.drop n, status := 0 }
    else match m.dialect with
      | .dash => m.fail "shift: can't shift that many".toList 2
      | .bash => { m with status := 1 }

/-! ### Reading a line -/

/-- Takes a line apart at its backslashes, unless they mean nothing. A backslash at the end of a
line joins it with the next one. The answer also has what is left and whether the line is
complete. -/
def readQuoted (raw : Bool) (mark : Char) : Text → Quotable × Text × Bool
  | [] => ([], [], false)
  | '\\' :: c :: t =>
    if raw then
      if c = mark then ([('\\', false)], t, true)
      else
        let (q, rest, complete) := readQuoted raw mark (c :: t)
        (('\\', false) :: q, rest, complete)
    else
      let (q, rest, complete) := readQuoted raw mark t
      (if c = '\n' then q else (c, true) :: q, rest, complete)
  | c :: t =>
    if c = mark then ([], t, true)
    else
      let (q, rest, complete) := readQuoted raw mark t
      ((c, false) :: q, rest, complete)

def isSeparator (separators : Text) (c : Char × Bool) : Bool :=
  !c.2 && separators.contains c.1

def isBlankSeparator (separators : Text) (c : Char × Bool) : Bool :=
  isSeparator separators c && (c.1 = ' ' || c.1 = '\t' || c.1 = '\n')

/-- Goes past one end of a field: blanks with at most one other separator among them. -/
def dropSeparator (separators : Text) (q : Quotable) : Quotable :=
  let q := q.dropWhile (isBlankSeparator separators)
  match q with
  | c :: rest =>
    if isSeparator separators c then rest.dropWhile (isBlankSeparator separators) else q
  | [] => []

/-- The last field of a line, which takes all that is left but the separators at its end. -/
def lastField (separators : Text) (q : Quotable) : Text :=
  let trimmed := (q.reverse.dropWhile (isBlankSeparator separators)).reverse
  let field := trimmed.takeWhile fun c => !isSeparator separators c
  let rest := dropSeparator separators (trimmed.drop field.length)
  Quotable.text (if rest.isEmpty then field else trimmed)

def lineFields (separators : Text) : Nat → Quotable → List Text
  | 0, _ => []
  | 1, q => [lastField separators q]
  | n + 1, q =>
    let field := q.takeWhile fun c => !isSeparator separators c
    Quotable.text field :: lineFields separators n (dropSeparator separators (q.drop field.length))

structure ReadOptions where
  raw : Bool := false
  mark : Char := '\n'
  count : Option Nat := none
  exactCount : Bool := false
  array : Option Text := none
  descriptor : Nat := 0
  names : List Text := []

def readOptions (bash : Bool) : Nat → List Text → ReadOptions → Except Text ReadOptions
  | 0, _, o => .ok o
  | _ + 1, [], o => .ok o
  | n + 1, a :: args, o =>
    match a with
    | ['-', '-'] => .ok { o with names := args }
    | '-' :: c :: rest =>
      let (value, others) : Text × List Text :=
        if rest.isEmpty then (args.headD [], args.tail) else (rest, args)
      let again : List Text := if rest.isEmpty then args else ('-' :: rest) :: args
      match c, bash with
      | 'r', _ => readOptions bash n again { o with raw := true }
      | 'p', _ => readOptions bash n others o
      | 's', true | 'e', true => readOptions bash n again o
      | 't', true | 'i', true => readOptions bash n others o
      | 'd', true => readOptions bash n others { o with mark := value.headD '\x00' }
      | 'n', true => readOptions bash n others { o with count := some (ofDigits 10 value) }
      | 'N', true =>
        readOptions bash n others { o with count := some (ofDigits 10 value), exactCount := true }
      | 'a', true => readOptions bash n others { o with array := some value }
      | 'u', true => readOptions bash n others { o with descriptor := ofDigits 10 value }
      | _, _ => .error [c]
    | _ => .ok { o with names := a :: args }

def read (args : List Text) (m : Machine) : Machine :=
  let bash : Bool := m.dialect = .bash
  match readOptions bash (2 * args.length + (args.map List.length).foldl (· + ·) 0 + 1) args {} with
  | .error c =>
    match m.dialect with
    | .dash => m.complain ("read: Illegal option -".toList ++ c) 2
    | .bash => m.complain ("read: -".toList ++ c ++ ": invalid option".toList) 2
  | .ok o =>
    match o.names.find? fun n => !isName (n.takeWhile (· ≠ '[')) with
    | some bad =>
      match m.dialect with
      | .dash => m.complain ("read: ".toList ++ bad ++ ": bad variable name".toList) 2
      | .bash => m.complain ("read: \x60".toList ++ bad ++ "': not a valid identifier".toList) 1
    | none =>
      if o.names.isEmpty ∧ !bash then m.complain "read: arg count".toList 2
      else
        let input := m.inputAt o.descriptor
        let limited := match o.count with
          | some n => if o.exactCount then input.take n else
            (input.take n).takeWhile (· ≠ o.mark)
          | none => input
        let (q, rest, complete) : Quotable × Text × Bool := match o.count with
          | some n =>
            let taken := limited.length
            let full : Bool := taken = n || (!o.exactCount && taken < (input.take n).length)
            let skipped := if taken < n ∧ !o.exactCount then taken + 1 else taken
            (Quotable.ofText false limited, input.drop skipped, full)
          | none => readQuoted o.raw o.mark input
        let m := m.leaveAt o.descriptor rest
        let status := if complete then 0 else 1
        let separators := m.separators
        let start := q.dropWhile (isBlankSeparator separators)
        match o.array with
        | some name =>
          let ps := q.map fun (c, quoted) => if quoted then Piece.char c true else .split c
          let fields := (Fields.ofPieces separators ps).map Quotable.text
          let items := fields.zipIdx.map fun (t, i) => ((i : Int), t)
          { m.store name (.indexed items) with status }
        | none =>
          let names := if o.names.isEmpty then ["REPLY".toList] else o.names
          let fields := if o.names.isEmpty ∨ o.exactCount then [Quotable.text q]
            else lineFields separators names.length start
          let m := (names.zip (fields ++ List.replicate names.length [])).foldl (fun m (name, t) =>
            if m.isRunning then m.assignPlace name t else m) m
          if m.isRunning then { m with status } else m

/-! ### Options of scripts -/

def getOption (args : List Text) (m : Machine) : Machine :=
  match args with
  | letters :: name :: given =>
    let arguments := if given.isEmpty then m.arguments else given
    let silent : Bool := letters.head? = some ':'
    let index := ofDigits 10 ((m.parameter? "OPTIND".toList).getD ['1'])
    let done (index : Nat) (m : Machine) : Machine :=
      { (m.assign name ['?']).assign "OPTIND".toList (shown index) with
        status := 1, optionPlace := 0 }
    let warn (t : Text) (m : Machine) : Machine :=
      match m.dialect with
      | .dash => m.write 2 (t ++ ['\n'])
      | .bash => m.write 2 (m.name ++ ": ".toList ++ t ++ ['\n'])
    match arguments[index - 1]? with
    | none => done index m
    | some a =>
      if m.optionPlace = 0 ∧ (a.head? ≠ some '-' ∨ a = ['-']) then done index m
      else if m.optionPlace = 0 ∧ a = "--".toList then done (index + 1) m
      else
        let place := max m.optionPlace 1
        let c := (a[place]?).getD '?'
        let rest := a.drop (place + 1)
        let behind := letters.dropWhile (· ≠ c)
        let known := c ≠ ':' ∧ behind ≠ []
        let takes := behind.tail.head? = some ':'
        let next (m : Machine) : Machine :=
          if rest.isEmpty then
            { m.assign "OPTIND".toList (shown (index + 1)) with optionPlace := 0 }
          else { m.assign "OPTIND".toList (shown index) with optionPlace := place + 1 }
        if !known then
          let m := next m
          let m := if silent then m.assign "OPTARG".toList [c]
            else (m.removeBinding "OPTARG".toList) |> warn (match m.dialect with
              | .dash => "Illegal option -".toList ++ [c]
              | .bash => "illegal option -- ".toList ++ [c])
          { m.assign name ['?'] with status := 0 }
        else if takes then
          if !rest.isEmpty then
            let m := m.assign "OPTARG".toList rest
            { (m.assign "OPTIND".toList (shown (index + 1))).assign name [c] with
              status := 0, optionPlace := 0 }
          else match arguments[index]? with
            | some value =>
              let m := m.assign "OPTARG".toList value
              { (m.assign "OPTIND".toList (shown (index + 2))).assign name [c] with
                status := 0, optionPlace := 0 }
            | none =>
              let m := { m.assign "OPTIND".toList (shown (index + 1)) with optionPlace := 0 }
              let m := if silent then (m.assign "OPTARG".toList [c]).assign name [':']
                else ((m.removeBinding "OPTARG".toList).assign name ['?']) |> warn
                  (match m.dialect with
                    | .dash => "No arg for -".toList ++ [c] ++ " option".toList
                    | .bash => "option requires an argument -- ".toList ++ [c])
              { m with status := 0 }
        else
          let m := next m
          { (m.assign "OPTARG".toList []).assign name [c] with status := 0 }
  | _ =>
    match m.dialect with
    | .dash => m.complain "getopts: Usage: getopts optstring var [arg...]".toList 2
    | .bash => { m.write 2 "getopts: usage: getopts optstring name [arg ...]\n".toList with
        status := 2 }

end StructuralEdit.Shell.Machine
