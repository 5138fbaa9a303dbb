import StructuralEdit.Shell.Calendar
import StructuralEdit.Shell.Posix.Search
import StructuralEdit.Shell.Utility.Manage
import StructuralEdit.Shell.Utility.Start
/-!
Going through trees of files: tests and what is done with the files that pass them are one
expression, which is evaluated for every file.
-/
namespace StructuralEdit.Shell

namespace TreeSearch

inductive Compared where
  | less
  | equal
  | more

structure Amount where
  compared : Compared
  number : Nat

def Amount.accepts (a : Amount) (n : Nat) : Bool :=
  match a.compared with
  | .less => n < a.number
  | .equal => n = a.number
  | .more => a.number < n

/-- A test of a file, or something that is done with it. -/
inductive Primary where
  | always (b : Bool)
  | name (g : Glob)
  | path (g : Glob)
  | regex (r : Posix)
  | kind (letters : Text)
  | size (a : Amount) (unit : Nat)
  | links (a : Amount)
  | age (a : Amount)
  | empty
  | mode (wanted : Nat) (mark : Option Char)
  | executable
  | same (path : Text)
  | prune
  | quit
  | print (ending : Char)
  | printTo (file : Text) (ending : Char)
  | format (t : Text)
  | formatTo (file t : Text)
  | list
  | delete
  | run (words : List Text) (inDirectory asks : Bool)
  /-- Runs a program once for all files at the end. The number tells which files are its own. -/
  | gather (words : List Text) (n : Nat)

/-- Whether a primary is about output or a change, so that paths are not written by themselves. -/
def Primary.acts : Primary → Bool
  | .print _ | .printTo .. | .format _ | .formatTo .. | .list | .delete | .run .. |
    .gather .. => true
  | _ => false

inductive Expression where
  | one (p : Primary)
  | not (e : Expression)
  | both (a b : Expression)
  | either (a b : Expression)
  | next (a b : Expression)

def Expression.acts : Expression → Bool
  | .one p => p.acts
  | .not e => e.acts
  | .both a b | .either a b | .next a b => a.acts || b.acts

structure Settings where
  contentsFirst : Bool := false
  least : Nat := 0
  most : Option Nat := none
  grammar : Posix.Grammar := .basic
  gathering : Nat := 0

/-! ### Reading -/

structure Reading where
  rest : List Text
  last : Text := []
  primary : Text := []
  settings : Settings := {}
  isFile : Text → Bool := fun _ => false

abbrev Read := StateT Reading (Except Text)

def fail (t : Text) : Read α := throw t

def nextWord? : Read (Option Text) := do
  match (← get).rest with
  | [] => return none
  | t :: rest =>
    modify fun r => { r with rest, last := t }
    return some t

def argument (name : Text) : Read Text := do
  match ← nextWord? with
  | some t => return t
  | none => fail ("missing argument to \x60".toList ++ name ++ ['\''])

def set (f : Settings → Settings) : Read Primary := do
  modify fun r => { r with settings := f r.settings }
  return .always true

def amount? (t : Text) : Option Amount :=
  let (compared, ds) : Compared × Text := match t with
    | '+' :: ds => (.more, ds)
    | '-' :: ds => (.less, ds)
    | ds => (.equal, ds)
  if ds ≠ [] ∧ ds.all Char.isDigit then some { compared, number := ofDigits 10 ds } else none

def amount (name : Text) : Read Amount := do
  let t ← argument name
  match amount? t with
  | some a => return a
  | none => fail ("invalid argument \x60".toList ++ t ++ "' to \x60".toList ++ name ++ ['\''])

def depthArgument (name : Text) : Read Nat := do
  let t ← argument name
  if t ≠ [] ∧ t.all Char.isDigit then return ofDigits 10 t
  else fail ("Expected a positive decimal integer argument to ".toList ++ name ++
    ", but got ".toList ++ quote t)

def unit? : Char → Option Nat
  | 'b' => some 512
  | 'c' => some 1
  | 'w' => some 2
  | 'k' => some 1024
  | 'M' => some 1048576
  | 'G' => some 1073741824
  | _ => none

def sizeTest : Read Primary := do
  let t ← argument "-size".toList
  let last := t.getLastD ' '
  let bad : Read Primary := fail ("invalid -size type \x60".toList ++ [last, '\''])
  let (ds, unit?) := if last.isDigit then (t, some 512) else (t.dropLast, unit? last)
  match unit? with
  | none => bad
  | some unit =>
    match amount? ds with
    | some a => return .size a unit
    | none => fail ("Invalid argument \x60".toList ++ t ++ "' to -size".toList)

def kindTest (name : Text) : Read Primary := do
  let t ← argument name
  let letters := (t.splitOn ',').flatten
  match letters.find? fun c => !"bcdpflsD".toList.contains c with
  | some c => fail ("Unknown argument to ".toList ++ name ++ ": ".toList ++ [c])
  | none =>
    if (t.splitOn ',').any fun part => part.length ≠ 1 then
      fail ("Must separate multiple arguments to ".toList ++ name ++ " using: ','".toList)
    else return .kind letters

def grammarNames : List String :=
  ["findutils-default", "ed", "emacs", "gnu-awk", "grep", "posix-awk", "awk", "posix-basic",
    "posix-egrep", "egrep", "posix-extended", "posix-minimal-basic", "sed"]

def grammarOf? : String → Option Posix.Grammar
  | "findutils-default" | "emacs" | "ed" | "sed" | "grep" | "posix-basic" |
    "posix-minimal-basic" => some .basic
  | "gnu-awk" | "posix-awk" | "awk" | "posix-egrep" | "egrep" | "posix-extended" => some .extended
  | _ => none

def hasPlace (w : Text) : Bool := (w.zip w.tail).contains ('{', '}')

def programWords (name : Text) : Nat → List Text → Read (List Text × Bool)
  | 0, _ => fail []
  | n + 1, words => do
    match ← nextWord? with
    | none => fail ("missing argument to \x60".toList ++ name ++ ['\''])
    | some [';'] => return (words.reverse, false)
    | some ['+'] =>
      if words.head? = some "\x7b\x7d".toList then return (words.reverse, true)
      else if words.head?.any hasPlace then
        fail ("In ".toList ++ quote (name ++ " ... \x7b\x7d +".toList) ++ " the ".toList ++
          quote "\x7b\x7d".toList ++ " must appear by itself, but you specified ".toList ++
          quote (words.headD []))
      else programWords name n (['+'] :: words)
    | some t => programWords name n (t :: words)

def runner (name : Text) (inDirectory asks : Bool) : Read Primary := do
  let (words, gathers) ← programWords name ((← get).rest.length + 1) []
  if words.isEmpty then fail ("invalid argument \x60;' to \x60".toList ++ name ++ ['\''])
  else if gathers then
    if 1 < (words.filter fun w => w = "\x7b\x7d".toList).length then
      fail ("Only one instance of \x7b\x7d is supported with ".toList ++ name ++ " ... +".toList)
    else
      let n := (← get).settings.gathering
      modify fun r => { r with settings := { r.settings with gathering := n + 1 } }
      return .gather words.dropLast n
  else return .run words inDirectory asks

def globTest (make : Glob → Primary) (ignoresCase : Bool) (name : Text) : Read Primary := do
  let t ← argument name
  return make (Glob.ofQuotable { ignoresCase } (.ofText false t))

def regexTest (ignoresCase : Bool) (name : Text) : Read Primary := do
  let t ← argument name
  let grammar := (← get).settings.grammar
  match Posix.read { grammar, ignoresCase } t with
  | .ok r => return .regex r
  | .error _ => fail ("failed to compile regular expression ".toList ++ quote t)

def modeTest : Read Primary := do
  let t ← argument "-perm".toList
  let (mark, ds) : Option Char × Text := match t with
    | '-' :: ds => (some '-', ds)
    | '/' :: ds => (some '/', ds)
    | ds => (none, ds)
  if ds ≠ [] ∧ ds.all isOctalDigit then return .mode (ofDigits 8 ds) mark
  else fail ("invalid mode ".toList ++ quote t)

def primary (name : Text) : Read Primary := do
  let ignored : Read Primary := return .always true
  match String.ofList name with
  | "-name" => globTest .name false name
  | "-iname" => globTest .name true name
  | "-path" | "-wholename" => globTest .path false name
  | "-ipath" | "-iwholename" => globTest .path true name
  | "-regex" => regexTest false name
  | "-iregex" => regexTest true name
  | "-regextype" =>
    let t ← argument name
    match grammarOf? (String.ofList t) with
    | some grammar => set fun s => { s with grammar }
    | none => fail ("Unknown regular expression type ".toList ++ quote t ++
        "; valid types are ".toList ++ joinWith ", ".toList (grammarNames.map fun n =>
          quote n.toList) ++ ['.'])
  | "-type" | "-xtype" => kindTest name
  | "-size" => sizeTest
  | "-links" => return .links (← amount name)
  | "-mtime" | "-atime" | "-ctime" | "-mmin" | "-amin" | "-cmin" => return .age (← amount name)
  | "-uid" | "-gid" => return .age (← amount name)
  | "-user" | "-group" =>
    let t ← argument name
    return .always (t = "root".toList || t = ['0'])
  | "-newer" | "-anewer" | "-cnewer" =>
    let t ← argument name
    if (← get).isFile t then return .always false
    else fail (quotedName t ++ ": No such file or directory".toList)
  | "-samefile" => return .same (← argument name)
  | "-perm" => modeTest
  | "-empty" => return .empty
  | "-true" | "-readable" | "-writable" => ignored
  | "-executable" => return .executable
  | "-false" | "-nouser" | "-nogroup" => return .always false
  | "-depth" | "-d" => set fun s => { s with contentsFirst := true }
  | "-maxdepth" =>
    let n ← depthArgument name
    set fun s => { s with most := some n }
  | "-mindepth" =>
    let n ← depthArgument name
    set fun s => { s with least := n }
  | "-mount" | "-xdev" | "-follow" | "-daystart" | "-warn" | "-nowarn" | "-noleaf" |
    "-ignore_readdir_race" | "-noignore_readdir_race" => ignored
  | "-prune" => return .prune
  | "-quit" => return .quit
  | "-print" => return .print '\n'
  | "-print0" => return .print '\x00'
  | "-fprint" => return .printTo (← argument name) '\n'
  | "-fprint0" => return .printTo (← argument name) '\x00'
  | "-printf" => return .format (← argument name)
  | "-fprintf" =>
    let file ← argument name
    return .formatTo file (← argument name)
  | "-ls" => return .list
  | "-delete" =>
    let _ ← set fun s => { s with contentsFirst := true }
    return .delete
  | "-exec" => runner name false false
  | "-execdir" => runner name true false
  | "-ok" => runner name false true
  | "-okdir" => runner name true true
  | _ => fail ("unknown predicate \x60".toList ++ name ++ ['\''])

def andNames : List String := ["-a", "-and"]

def orNames : List String := ["-o", "-or"]

def isOneOf (names : List String) (t : Text) : Bool := names.contains (String.ofList t)

inductive Level where
  | next
  | either
  | both
  | single

def expression : Nat → Level → Read Expression
  | 0, _ => fail "expression too complicated".toList
  | n + 1, .next => do
    let a ← expression n .either
    match (← get).rest with
    | [','] :: rest =>
      modify fun r => { r with rest, last := [','] }
      return .next a (← expression n .next)
    | _ => return a
  | n + 1, .either => do
    let a ← expression n .both
    match (← get).rest with
    | o :: rest =>
      if isOneOf orNames o then
        modify fun r => { r with rest, last := o }
        return .either a (← expression n .either)
      else return a
    | [] => return a
  | n + 1, .both => do
    let a ← expression n .single
    match (← get).rest with
    | o :: rest =>
      if isOneOf andNames o then
        modify fun r => { r with rest, last := o }
        return .both a (← expression n .both)
      else if isOneOf orNames o ∨ o = [','] ∨ o = [')'] then return a
      else return .both a (← expression n .both)
    | [] => return a
  | n + 1, .single => do
    let before := (← get).last
    match ← nextWord? with
    | none => fail ("expected an expression after ".toList ++ quote before)
    | some t =>
      if t = ['('] then
        if (← get).rest.head? = some [')'] then
          fail "invalid expression; empty parentheses are not allowed.".toList
        let e ← expression n .next
        match ← nextWord? with
        | some [')'] => return e
        | _ => fail ("invalid expression; I was expecting to find a ')' somewhere but did not " ++
            "see one.").toList
      else if t = ['!'] ∨ t = "-not".toList then return .not (← expression n .single)
      else if isOneOf andNames t ∨ isOneOf orNames t ∨ t = [','] then
        fail ("invalid expression; you have used a binary operator ".toList ++ quote t ++
          " with nothing before it.".toList)
      else if t = [')'] then fail "you have too many ')'".toList
      else if t.head? = some '-' ∧ 1 < t.length then
        modify fun r => { r with primary := t }
        return .one (← primary t)
      else
        let r ← get
        let hint := if r.isFile t then
            "\nfind: possible unquoted pattern after predicate \x60".toList ++ r.primary ++
              "'?".toList
          else []
        fail ("paths must precede expression: \x60".toList ++ t ++ '\'' :: hint)

def readAll : Read Expression := do
  if (← get).rest.isEmpty then return .one (.print '\n')
  let e ← expression (8 * (← get).rest.length + 8) .next
  match (← get).rest with
  | [] => return e
  | _ => fail "you have too many ')'".toList

/-! ### Evaluating -/

structure Entry where
  start : Text
  path : Text
  depth : Nat
  node : FileNode

def Entry.isDirectory (e : Entry) : Bool :=
  match e.node with
  | .directory _ => true
  | .file _ => false

def Entry.size (e : Entry) : Nat :=
  match e.node with
  | .file content => content.length
  | .directory _ => 4096

def Entry.mode (e : Entry) : Nat := if e.isDirectory then 493 else 420

def Entry.name (e : Entry) : Text :=
  let core := (e.path.reverse.dropWhile (· = '/')).reverse
  if core.isEmpty then e.path.take 1
  else (core.reverse.takeWhile (· ≠ '/')).reverse

def Entry.directory (e : Entry) : Text :=
  match (e.path.reverse.dropWhile (· ≠ '/')).reverse with
  | [] => ['.']
  | ['/'] => []
  | d => d.dropLast

structure Progress where
  machine : Machine
  status : Nat := 0
  stopped : Bool := false
  pruned : Bool := false
  gathered : List (Nat × Text) := []

def Progress.complain (name t : Text) (p : Progress) : Progress :=
  { p with machine := p.machine.write 2 (name ++ ": ".toList ++ t ++ ['\n']) }

def Progress.append (file t : Text) (p : Progress) : Progress :=
  if file = "/dev/stdout".toList then { p with machine := p.machine.write 1 t }
  else
    let place := decode file
    let old := (p.machine.files.read place).toOption.getD []
    match p.machine.files.write place (old ++ t.octets) with
    | .ok files => { p with machine := { p.machine with files } }
    | .error _ => p

def directive (e : Entry) : Char → Option Text
  | 'p' => some e.path
  | 'f' => some e.name
  | 'h' => some e.directory
  | 'H' => some e.start
  | 'P' => some ((e.path.drop e.start.length).dropWhile (· = '/'))
  | 'd' => some (shown e.depth)
  | 's' => some (shown e.size)
  | 'm' => some (digitsIn 8 e.mode)
  | 'M' => some (if e.isDirectory then "drwxr-xr-x".toList else "-rw-r--r--".toList)
  | 'u' | 'g' => some "root".toList
  | 'U' | 'G' => some ['0']
  | 'y' | 'Y' => some [if e.isDirectory then 'd' else 'f']
  | 'n' => some [if e.isDirectory then '2' else '1']
  | 'l' => some []
  | 'b' => some (shown ((e.size + 4095) / 4096 * 8))
  | 'k' => some (shown ((e.size + 4095) / 4096 * 4))
  | '%' => some ['%']
  | _ => none

def formatted (e : Entry) : Nat → Text → Text
  | 0, _ => []
  | _ + 1, [] => []
  | n + 1, '%' :: t =>
    let left := t.head? = some '-'
    let t' := if left then t.tail else t
    let width := t'.takeWhile Char.isDigit
    match t'.drop width.length with
    | c :: rest =>
      match directive e c with
      | some text =>
        let w := ofDigits 10 width
        (if left then padRight w text ' ' else padLeft w text ' ') ++ formatted e n rest
      | none => '%' :: formatted e n t
    | [] => '%' :: t
  | n + 1, '\\' :: c :: t =>
    match Printf.usualEscape? c with
    | some k => k :: formatted e n t
    | none =>
      if c = '0' ∨ isOctalDigit c then
        let ds := ((c :: t).take 3).takeWhile isOctalDigit
        Char.ofNat (ofDigits 8 ds % 256) :: formatted e n (t.drop (ds.length - 1))
      else if c = 'c' then []
      else '\\' :: c :: formatted e n t
  | n + 1, c :: t => c :: formatted e n t

def withPath (path : Text) : Text → Text
  | '{' :: '}' :: t => path ++ withPath path t
  | c :: t => c :: withPath path t
  | [] => []

def runFor (g : Engine) (name : Text) (words : List Text) (p : Progress) : Bool × Progress :=
  let program := words.headD []
  let m := p.machine
  if !Starting.isStartable g program m then
    let (why, _) := Starting.obstacle program m
    (false, p.complain name (quote program ++ (": " ++ why.reason).toList))
  else
    let (ending, m) := m.ownProcess (g.program words)
    let p := { p with machine := m }
    match ending with
    | .exited status => (status = 0, p)
    | .killed s =>
      (false, p.complain name (quote program ++ " terminated by signal ".toList ++ shown s))

def isEmptyNode : FileNode → Bool
  | .file content => content.isEmpty
  | .directory entries => entries.isEmpty

def Primary.perform (g : Engine) (name : Text) (e : Entry) (p : Progress) :
    Primary → Bool × Progress
  | .always b => (b, p)
  | .name g => (g.accepts e.name, p)
  | .path g => (g.accepts e.path, p)
  | .regex r =>
    let t := e.path.toArray
    ((r.matchAt? t 0).any fun m => (m.part t 0).length = t.size, p)
  | .kind letters => (letters.contains (if e.isDirectory then 'd' else 'f'), p)
  | .size a unit => (a.accepts ((e.size + unit - 1) / unit), p)
  | .links a => (a.accepts (if e.isDirectory then 2 else 1), p)
  | .age a => (a.accepts 0, p)
  | .empty => (isEmptyNode e.node, p)
  | .mode wanted mark =>
    let common := e.mode &&& wanted
    (match mark with
      | some '-' => common = wanted
      | some _ => common ≠ 0 || wanted = 0
      | none => e.mode = wanted, p)
  | .executable => (e.isDirectory, p)
  | .same other =>
    let files := p.machine.files
    (match files.locate (decode other), files.locate (decode e.path) with
      | .ok a, .ok b => a = b
      | _, _ => false, p)
  | .prune => (true, { p with pruned := true })
  | .quit => (true, { p with stopped := true })
  | .print ending => (true, { p with machine := p.machine.write 1 (e.path ++ [ending]) })
  | .printTo file ending => (true, p.append file (e.path ++ [ending]))
  | .format t => (true, { p with machine := p.machine.write 1 (formatted e (t.length + 1) t) })
  | .formatTo file t => (true, p.append file (formatted e (t.length + 1) t))
  | .list =>
    let mode := if e.isDirectory then "drwxr-xr-x 2" else "-rw-r--r-- 1"
    let line := ("  1 4 " ++ mode ++ " root root ").toList ++ shown e.size ++
      ' ' :: Calendar.write Calendar.now "%b %e %H:%M".toList ++ ' ' :: e.path ++ ['\n']
    (true, { p with machine := p.machine.write 1 line })
  | .delete =>
    if e.path = ['.'] then (true, p)
    else
      let holds : Bool := match p.machine.files.find (decode e.path) with
        | .ok (.directory entries) => !entries.isEmpty
        | _ => false
      if holds then
        (false, { p.complain name ("cannot delete ".toList ++ quote e.path ++
          ": Directory not empty".toList) with status := 1 })
      else
        let files := p.machine.files.remove (decode e.path)
        (true, { p with machine := { p.machine with files } })
  | .run words inDirectory asks =>
    let shownPath := if inDirectory then "./".toList ++ e.name else e.path
    let words' := words.map (withPath shownPath)
    let (goes, p) : Bool × Progress :=
      if asks then
        let m := p.machine.write 2 ("< ".toList ++ words.headD [] ++ " ... ".toList ++ e.path ++
          " > ? ".toList)
        let answer := m.input.takeWhile (· ≠ '\n')
        let m := m.leaveAt 0 ((m.input.drop answer.length).drop 1)
        (answer.head? = some 'y' || answer.head? = some 'Y', { p with machine := m })
      else (true, p)
    if !goes then (false, p)
    else if inDirectory then
      let current := p.machine.files.current
      match p.machine.files.locate (decode e.directory) with
      | .ok names =>
        let m := { p.machine with files := { p.machine.files with current := names } }
        let (b, p) := runFor g name words' { p with machine := m }
        (b, { p with machine := { p.machine with files := { p.machine.files with current } } })
      | .error _ => runFor g name words' p
    else runFor g name words' p
  | .gather _ n => (true, { p with gathered := (n, e.path) :: p.gathered })

def Expression.evaluate (g : Engine) (name : Text) (e : Entry) :
    Expression → Progress → Bool × Progress
  | .one q, p => if p.stopped then (false, p) else q.perform g name e p
  | .not x, p =>
    let (b, p) := x.evaluate g name e p
    (!b, p)
  | .both x y, p =>
    let (b, p) := x.evaluate g name e p
    if b then y.evaluate g name e p else (false, p)
  | .either x y, p =>
    let (b, p) := x.evaluate g name e p
    if b then (true, p) else y.evaluate g name e p
  | .next x y, p => y.evaluate g name e (x.evaluate g name e p).2

def Expression.gatherers : Expression → List (Nat × List Text)
  | .one (.gather words n) => [(n, words)]
  | .one _ => []
  | .not x => x.gatherers
  | .both x y | .either x y | .next x y => x.gatherers ++ y.gatherers

def visit (look : Entry → Progress → Progress) (s : Settings) : Nat → Entry → Progress → Progress
  | 0, _, p => p
  | n + 1, e, p =>
    if p.stopped then p
    else
      let lookHere (p : Progress) : Progress :=
        if s.least ≤ e.depth ∧ !p.stopped then look e { p with pruned := false }
        else { p with pruned := false }
      let below (p : Progress) : Progress :=
        let goesOn : Bool := s.most.all fun most => e.depth < most
        match e.node with
        | .directory entries =>
          if !goesOn then p
          else
            let children := entries.mergeSort fun a b => Text.precedes a.1 b.1
            children.foldl (fun p (childName, node) =>
              visit look s n
                { e with path := within e.path (encode childName), depth := e.depth + 1, node } p) p
        | .file _ => p
      if s.contentsFirst then lookHere (below p)
      else
        let p := lookHere p
        if p.pruned then p else below p

end TreeSearch

open TreeSearch in
def searchTrees : Launcher := fun g name args m =>
  let isStart (t : Text) : Bool :=
    ["-H", "-L", "-P", "--"].contains (String.ofList t) || "-O".toList.isPrefixOf t
  let args := args.dropWhile isStart
  let opens (t : Text) : Bool :=
    (t.head? = some '-' && 1 < t.length) || t = ['('] || t = ['!']
  let paths := args.takeWhile fun t => !opens t
  let rest := args.drop paths.length
  let paths := if paths.isEmpty then [['.']] else paths
  match readAll.run { rest, isFile := fun t => m.files.has (decode t) } with
  | .error t => { m.write 2 (name ++ ": ".toList ++ t ++ ['\n']) with status := 1 }
  | .ok (e, r) =>
    let whole := if e.acts then e else .both e (.one (.print '\n'))
    let look (x : Entry) (p : Progress) : Progress := (whole.evaluate g name x p).2
    let p := paths.foldl (fun (p : Progress) top =>
      if p.stopped then p
      else match p.machine.files.find (decode top) with
        | .ok node => visit look r.settings 100 { start := top, path := top, depth := 0, node } p
        | .error why =>
          { p.complain name (quotedName top ++ (": " ++ why.reason).toList) with status := 1 })
      { machine := m }
    let p := whole.gatherers.foldl (fun (p : Progress) (n, words) =>
      let own := (p.gathered.reverse.filter fun x => x.1 = n).map (·.2)
      if own.isEmpty then p
      else
        let (b, p) := runFor g name (words ++ own) p
        if b then p else { p with status := 1 }) p
    { p.machine with status := p.status }

end StructuralEdit.Shell
