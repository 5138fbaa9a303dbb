import StructuralEdit.Files
import StructuralEdit.Shell.Quoted
/-!
Programs that scripts start: what they are given and what they leave.
-/
namespace StructuralEdit.Shell

structure Call where
  name : Text
  args : List Text
  input : Text
  files : Files
  environment : List (Text × Text) := []

structure Finish where
  /-- Texts with the descriptors that they were written to, in order. -/
  written : List (Nat × Text) := []
  status : Nat := 0
  unread : Text := []
  /-- Whether no more of the input was taken than that, even if it comes from a pipe. -/
  isExact : Bool := false
  slept : Nat := 0
  files : Option Files := none
  signal : Option Nat := none

abbrev Utility := Call → Finish

namespace Call

def finish (c : Call) (out : Text) (status : Nat) : Finish :=
  { written := [(1, out)], status, unread := c.input, isExact := true }

def complaintLine (c : Call) (message : Text) : Text :=
  c.name ++ ": ".toList ++ message ++ ['\n']

def complain (c : Call) (message : String) (status : Nat) : Finish :=
  { c.finish [] status with written := [(2, c.complaintLine message.toList)] }

def complainText (c : Call) (message : Text) (status : Nat) : Finish :=
  { c.finish [] status with written := [(2, c.complaintLine message)] }

def usage (c : Call) (message : Text) (status : Nat) : Finish :=
  c.complainText (message ++ "\nTry '".toList ++ c.name ++
    " --help' for more information.".toList) status

def read (c : Call) (path : Text) : Except FileError Text :=
  if path = "/dev/stdin".toList ∨ path = "/dev/fd/0".toList then .ok c.input
  else if path = "/dev/zero".toList ∨ path = "/dev/urandom".toList ∨ path = "/dev/random".toList
    then .ok (List.replicate 100000 '\x00')
  else (c.files.read (decode path)).map Text.ofOctets

def isDirectory (c : Call) (path : Text) : Bool := c.files.isDirectory (decode path)

end Call

/-- How a path is shown in a complaint: in quotes only if it needs them. -/
def fileName (t : Text) : Text :=
  if t.isEmpty ∨ t.any (fun c => Quoted.isMeaningful c && !"=%,\x7b\x7d^!~#".toList.contains c)
    ∨ Quoted.needsDollar t then Quoted.shell t
  else t

def quotedName (t : Text) : Text := Quoted.shell t

def quote (t : Text) : Text := Quoted.diagnostic t

/-! ### Options -/

inductive OptionSpec.Taking where
  | nothing
  | argument
  | perhaps
  deriving DecidableEq

/-- An option with its letters and its long names. -/
structure OptionSpec where
  key : String
  letters : List Char
  names : List String
  taking : OptionSpec.Taking
  longOnly : Bool := false

/-- Reads an option from its letters and names with blanks between them. The first one is its key,
and an equals sign behind it says that the option takes an argument. -/
def OptionSpec.ofString (s : String) : OptionSpec :=
  let words := s.splitOn " "
  let first := words.headD ""
  let longOnly := words.tail.any fun w => w.endsWith "=?"
  let taking : OptionSpec.Taking :=
    if first.endsWith "=?" ∨ longOnly then .perhaps
    else if first.endsWith "=" then .argument else .nothing
  let all := words.map fun w => String.ofList (w.toList.takeWhile (· ≠ '='))
  { key := all.headD "", taking, longOnly
    letters := all.filterMap fun w => if w.length = 1 then w.toList.head? else none
    names := all.filter fun w => w.length ≠ 1 }

structure Options where
  flags : List (String × Text) := []
  operands : List Text := []

namespace Options

def has (o : Options) (key : String) : Bool := o.flags.any fun f => f.1 = key

def values (o : Options) (key : String) : List Text :=
  (o.flags.filter fun f => f.1 = key).map (·.2)

def value? (o : Options) (key : String) : Option Text := (o.values key).getLast?

def last? (o : Options) (keys : List String) : Option String :=
  ((o.flags.filter fun f => keys.contains f.1).getLast?).map (·.1)

/-- Takes the letters of one argument, behind its dash. An option with an argument takes the rest,
or the next argument. The answer has the options and the arguments left. -/
def letters (specs : List OptionSpec) (args : List Text) :
    Text → Except Text (List (String × Text) × List Text)
  | [] => .ok ([], args)
  | c :: t =>
    match specs.find? fun s => s.letters.contains c with
    | none => .error ("invalid option -- '".toList ++ [c, '\''])
    | some s =>
      match if s.longOnly then OptionSpec.Taking.nothing else s.taking, t, args with
      | .nothing, t, _ =>
        (letters specs args t).map fun (fs, args) => ((s.key, []) :: fs, args)
      | .perhaps, t, args => .ok ([(s.key, t)], args)
      | .argument, [], value :: args => .ok ([(s.key, value)], args)
      | .argument, [], [] => .error ("option requires an argument -- '".toList ++ [c, '\''])
      | .argument, t, args => .ok ([(s.key, t)], args)

def meanings (specs : List OptionSpec) (name : String) : List (OptionSpec × String) :=
  let all := specs.flatMap fun s => s.names.map fun n => (s, n)
  match all.filter fun x => x.2 = name with
  | [] => all.filter fun x => x.2.startsWith name
  | exact => exact

def long (specs : List OptionSpec) (args : List Text) (t : Text) :
    Except Text ((String × Text) × List Text) :=
  let name := t.takeWhile (· ≠ '=')
  let value? : Option Text := match t.drop name.length with
    | _ :: v => some v
    | [] => none
  let found := meanings specs (String.ofList name)
  match found with
  | [] => .error ("unrecognized option '--".toList ++ t ++ ['\''])
  | (s, full) :: others =>
    let full := "'--".toList ++ full.toList ++ ['\'']
    if others.any fun x => x.1.key ≠ s.key then
      .error ("option ".toList ++ "'--".toList ++ t ++ "' is ambiguous; possibilities:".toList ++
        found.flatMap fun x => " '--".toList ++ x.2.toList ++ ['\''])
    else
      match s.taking, value?, args with
      | .nothing, some _, _ =>
        .error ("option ".toList ++ full ++ " doesn't allow an argument".toList)
      | .nothing, none, args => .ok ((s.key, []), args)
      | .perhaps, v, args => .ok ((s.key, v.getD []), args)
      | .argument, some v, args => .ok ((s.key, v), args)
      | .argument, none, v :: args => .ok ((s.key, v), args)
      | .argument, none, [] =>
        .error ("option ".toList ++ full ++ " requires an argument".toList)

/-- Takes arguments apart into options and operands. Options may come behind operands only if
that is allowed. The first argument bounds the number of arguments. -/
def readAll (specs : List OptionSpec) (mixed : Bool) : Nat → List Text → Except Text Options
  | 0, _ => .ok {}
  | _ + 1, [] => .ok {}
  | n + 1, a :: args =>
    match a with
    | ['-', '-'] => .ok { operands := args }
    | '-' :: '-' :: t => do
      let (flag, args) ← long specs args t
      let o ← readAll specs mixed n args
      return { o with flags := flag :: o.flags }
    | '-' :: c :: t => do
      let (flags, args) ← letters specs args (c :: t)
      let o ← readAll specs mixed n args
      return { o with flags := flags ++ o.flags }
    | _ =>
      if mixed then do
        let o ← readAll specs mixed n args
        return { o with operands := a :: o.operands }
      else .ok { operands := a :: args }

def read (specs : List String) (mixed : Bool) (args : List Text) : Except Text Options :=
  readAll (specs.map OptionSpec.ofString) mixed (args.length + 1) args

end Options

/-- A program whose options are read first. A mistake in them gives a status. -/
def withOptions (specs : List String) (status : Nat) (run : Call → Options → Finish) : Utility :=
  fun c =>
    match Options.read specs true c.args with
    | .ok o => run c o
    | .error e => c.usage e status

def withLeadingOptions (specs : List String) (status : Nat) (run : Call → Options → Finish) :
    Utility :=
  fun c =>
    match Options.read specs false c.args with
    | .ok o => run c o
    | .error e => c.usage e status

/-! ### Data -/

/-- The data of operands, with complaints about those that cannot be read. -/
structure Gathered where
  contents : List (Text × Text) := []
  complaints : Text := []
  readsInput : Bool := false

namespace Gathered

def text (g : Gathered) : Text := g.contents.flatMap (·.2)

def unread (c : Call) (g : Gathered) : Text := if g.readsInput then [] else c.input

def status (g : Gathered) (failed : Nat) : Nat := if g.complaints.isEmpty then 0 else failed

def finish (c : Call) (g : Gathered) (out : Text) (failed : Nat) : Finish :=
  { written := [(2, g.complaints), (1, out)], status := g.status failed, unread := g.unread c }

end Gathered

/-- Gathers the data of operands. A dash stands for the input, and so do no operands. A
directory has data that cannot be read. -/
def Call.gatherWith (c : Call) (reason : FileError → Text → Text) (operands : List Text) :
    Gathered :=
  let operands := if operands.isEmpty then [['-']] else operands
  let g := operands.foldl (fun (g : Gathered) operand =>
    if operand = ['-'] then
      { g with contents := (operand, if g.readsInput then [] else c.input) :: g.contents
               readsInput := true }
    else match c.read operand with
      | .ok t =>
        { g with contents := (operand, t) :: g.contents
                 readsInput := g.readsInput || operand = "/dev/stdin".toList }
      | .error e => { g with complaints := g.complaints ++ c.complaintLine (reason e operand) })
    {}
  { g with contents := g.contents.reverse }

def pathReason (e : FileError) (path : Text) : Text :=
  fileName path ++ (": " ++ e.reason).toList

def Call.gather (c : Call) (operands : List Text) : Gathered := c.gatherWith pathReason operands

def Call.mapData (c : Call) (operands : List Text) (f : Text → Text) : Finish :=
  let g := c.gather operands
  g.finish c (f g.text) 1

def natural? (t : Text) : Option Nat :=
  if t ≠ [] ∧ t.all Char.isDigit then some (ofDigits 10 t) else none

def sizeFactor? (unit : Text) : Option Nat :=
  let power (base n : Nat) : Nat := (List.range n).foldl (fun x _ => x * base) 1
  let letters := "KMGTPEZY".toList
  match unit with
  | [] => some 1
  | ['b'] => some 512
  | ['c'] => some 1
  | ['w'] => some 2
  | ['k'] => some 1024
  | ['k', 'B'] => some 1000
  | [c] => (letters.findIdx? (· = c)).map fun i => power 1024 (i + 1)
  | [c, 'B'] => (letters.findIdx? (· = c)).map fun i => power 1000 (i + 1)
  | [c, 'i', 'B'] => (letters.findIdx? (· = c)).map fun i => power 1024 (i + 1)
  | _ => none

def sized? (t : Text) : Option Nat :=
  let digits := t.takeWhile Char.isDigit
  if digits.isEmpty then none
  else (sizeFactor? (t.drop digits.length)).map (ofDigits 10 digits * ·)

end StructuralEdit.Shell
