import StructuralEdit.Shell.Builtin.Process
import StructuralEdit.Shell.Builtin.Test
import StructuralEdit.Shell.Posix.Search
import StructuralEdit.Shell.Utility.Basic
/-!
Programs that write what follows from their arguments alone, or that only wait or end.
-/
namespace StructuralEdit.Shell

def succeed : Utility := fun c => c.finish [] 0

def fail : Utility := fun c => c.finish [] 1

def say (t : String) : Utility := fun c => c.finish (t ++ "\n").toList 0

def echoArguments : Utility := fun c =>
  let known (a : Text) : Bool := match a with
    | '-' :: x :: xs => (x :: xs).all fun c => c = 'n' || c = 'e' || c = 'E'
    | _ => false
  let flags := c.args.takeWhile known
  let letters := flags.flatMap List.tail
  let t := joinWith [' '] (c.args.drop flags.length)
  let escapes : Bool := (letters.filter (· ≠ 'n')).getLast? = some 'e'
  let u : Printf.Unescaped := if escapes then Printf.unescapeArgument .program t else { text := t }
  c.finish (if u.isLast ∨ letters.contains 'n' then u.text else u.text ++ ['\n']) 0

def repeatLine : Utility := fun c =>
  let args := if c.args.head? = some "--".toList then c.args.tail else c.args
  let line := (if args.isEmpty then ['y'] else joinWith [' '] args) ++ ['\n']
  let out := (List.replicate (200000 / line.length + 1) line).flatten
  { c.finish out 0 with slept := forever }

/-! ### Sequences of numbers -/

namespace Sequence

/-- A decimal number: digits without their point, and how many of them are behind it. -/
structure Decimal where
  digits : Int
  places : Nat

def Decimal.ofText? (t : Text) : Option Decimal :=
  let t := t.dropWhile isSpace
  let (negative, t) : Bool × Text := match t with
    | '-' :: t => (true, t)
    | '+' :: t => (false, t)
    | t => (false, t)
  let sign (n : Nat) : Int := if negative then -n else n
  match t with
  | '0' :: 'x' :: ds =>
    if ds ≠ [] ∧ ds.all isHexDigit then some { digits := sign (ofDigits 16 ds), places := 0 }
    else none
  | _ =>
    let whole := t.takeWhile Char.isDigit
    let (fraction, rest) : Text × Text := match t.drop whole.length with
      | '.' :: r => (r.takeWhile Char.isDigit, r.dropWhile Char.isDigit)
      | r => ([], r)
    if whole.isEmpty ∧ fraction.isEmpty then none
    else
      let n := sign (ofDigits 10 (whole ++ fraction))
      let power? : Option Int := match rest with
        | [] => some 0
        | e :: r =>
          if e = 'e' ∨ e = 'E' then
            match r with
            | '-' :: ds => (natural? ds).map fun n => -(n : Int)
            | '+' :: ds => (natural? ds).map fun n => (n : Int)
            | ds => (natural? ds).map fun n => (n : Int)
          else none
      power?.bind fun p =>
        let places : Int := fraction.length - p
        if 100 < p ∨ p < -100 then none
        else if places < 0 then some { digits := n * Nat.pow 10 (-places).toNat, places := 0 }
        else some { digits := n, places := places.toNat }

def Decimal.scaled (d : Decimal) (places : Nat) : Int := d.digits * Nat.pow 10 (places - d.places)

def shownFixed (n : Int) (places : Nat) : Text :=
  let ds := padLeft (places + 1) (shown n.natAbs) '0'
  let whole := ds.take (ds.length - places)
  (if n < 0 then ['-'] else []) ++ whole ++
    if places = 0 then [] else '.' :: ds.drop (ds.length - places)

def filled (width : Nat) (t : Text) : Text :=
  match t with
  | '-' :: ds => '-' :: padLeft (width - 1) ds '0'
  | ds => padLeft width ds '0'

def splitFormat (t : Text) : Except Text (Text × Format.Directive × Text) :=
  let rec before : Nat → Text → Option (Text × Text)
    | 0, _ => none
    | _ + 1, [] => none
    | n + 1, '%' :: '%' :: t => (before n t).map fun (s, r) => ('%' :: s, r)
    | _ + 1, '%' :: t => some ([], t)
    | n + 1, c :: t => (before n t).map fun (s, r) => (c :: s, r)
  let whole := "format ".toList ++ quote t ++ " has ".toList
  match before (t.length + 1) t with
  | none => .error (whole ++ "no % directive".toList)
  | some (first, rest) =>
    match Format.readDirective ['L'] rest with
    | .error _ => .error (whole ++ "no % directive".toList)
    | .ok (d, rest) =>
      if !"efgaEFGA".toList.contains d.conversion then
        .error (whole ++ "unknown %".toList ++ [d.conversion] ++ " directive".toList)
      else if (before (rest.length + 1) rest).isSome then
        .error (whole ++ "too many % directives".toList)
      else
        let rec after : Text → Text
          | '%' :: '%' :: t => '%' :: after t
          | c :: t => c :: after t
          | [] => []
        .ok (first, d, after rest)

end Sequence

open Sequence in
def countUp : Utility := fun c =>
  /- A negative number is no option. -/
  let isNumber (a : Text) : Bool := match a with
    | '-' :: d :: _ => d.isDigit || d = '.'
    | _ => false
  let flags := c.args.takeWhile fun a => !isNumber a
  let marked : List Text :=
    if flags.length < c.args.length ∧ !flags.contains "--".toList then
      flags ++ "--".toList :: c.args.drop flags.length
    else c.args
  match Options.read ["f= format", "s= separator", "w equal-width"] false marked with
  | .error e => c.usage e 1
  | .ok f =>
    match f.operands.filter fun o => o ≠ "--".toList with
    | [] => c.usage "missing operand".toList 1
    | _ :: _ :: _ :: x :: _ => c.usage ("extra operand ".toList ++ quote x) 1
    | operands =>
      match operands.find? fun t => (Decimal.ofText? t).isNone with
      | some t => c.usage ("invalid floating point argument: ".toList ++ quote t) 1
      | none =>
        let one : Decimal := { digits := 1, places := 0 }
        let (first, step, last) : Decimal × Decimal × Decimal :=
          match operands.filterMap Decimal.ofText? with
          | [last] => (one, one, last)
          | [first, last] => (first, one, last)
          | [first, step, last] => (first, step, last)
          | _ => (one, one, one)
        if step.digits = 0 then
          c.usage ("invalid Zero increment value: ".toList ++ quote (operands.getD 1 [])) 1
        else
          let places := max first.places step.places
          let all := max places last.places
          let a := first.scaled all
          let s := step.scaled all
          let z := last.scaled all
          let count : Nat :=
            if 0 < s then if z < a then 0 else ((z - a) / s).toNat + 1
            else if a < z then 0 else ((a - z) / (-s)).toNat + 1
          let isEndless : Bool := 100000 < count
          let count := min count 100000
          let unit := Nat.pow 10 (all - places)
          let number (i : Nat) : Int := a + i * s
          let plain (i : Nat) : Text := shownFixed (Int.tdiv (number i) unit) places
          let width := max (shownFixed (first.scaled places) places).length
            ((shownFixed (Int.tdiv z unit) places).length)
          let write : Except Text (Nat → Text) := match f.value? "f" with
            | none => .ok fun i => if f.has "w" then filled width (plain i) else plain i
            | some t =>
              match splitFormat t with
              | .error e => .error e
              | .ok (before, d, after) =>
                .ok fun i =>
                  let value := Real.nearest Real.extended (number i < 0) (number i).natAbs
                    (Nat.pow 10 all)
                  let amount (a : Format.Amount) : Option Int := match a with
                    | .given n => some n
                    | _ => none
                  let l := d.layout (amount d.width) (amount d.precision)
                  before ++ l.real d.conversion value ++ after
          match write with
          | .error e => c.complainText e 1
          | .ok write =>
            let separator := (f.value? "s").getD ['\n']
            let out := joinWith separator ((List.range count).map write)
            let finish := c.finish (if count = 0 then [] else out ++ ['\n']) 0
            if isEndless then { finish with slept := forever } else finish

/-! ### Parts of paths -/

def withoutSlashes (t : Text) : Text :=
  let short := (t.reverse.dropWhile (· = '/')).reverse
  if short.isEmpty ∧ !t.isEmpty then ['/'] else short

def lastName (t : Text) : Text :=
  let t := withoutSlashes t
  if t = ['/'] then t else (t.reverse.takeWhile (· ≠ '/')).reverse

def parentPath (t : Text) : Text :=
  let t := withoutSlashes t
  if t = ['/'] then t
  else if !t.contains '/' then ['.']
  else withoutSlashes ((t.reverse.dropWhile (· ≠ '/')).reverse)

def showLastNames : Utility :=
  withLeadingOptions ["a multiple", "s= suffix", "z zero"] 1 fun c f =>
    let mark := if f.has "z" then ['\x00'] else ['\n']
    let many := f.has "a" || f.has "s"
    let trim (suffix t : Text) : Text :=
      if suffix.length < t.length ∧ suffix.isSuffixOf t then t.take (t.length - suffix.length)
      else t
    match f.operands with
    | [] => c.usage "missing operand".toList 1
    | operands =>
      if many then
        c.finish (operands.flatMap fun o => trim ((f.value? "s").getD []) (lastName o) ++ mark) 0
      else match operands with
        | [o] => c.finish (lastName o ++ mark) 0
        | [o, suffix] => c.finish (trim suffix (lastName o) ++ mark) 0
        | _ => c.usage ("extra operand ".toList ++ quote (operands.getD 2 [])) 1

def showParents : Utility :=
  withLeadingOptions ["z zero"] 1 fun c f =>
    let mark := if f.has "z" then ['\x00'] else ['\n']
    if f.operands.isEmpty then c.usage "missing operand".toList 1
    else c.finish (f.operands.flatMap fun o => parentPath o ++ mark) 0

/-! ### Time and place -/

def interval? (t : Text) : Option Nat :=
  match Real.readPrefix? Real.double true t with
  | none => none
  | some (_, rest) =>
    let unit : Option Nat := match rest with
      | [] | ['s'] => some 1
      | ['m'] => some 60
      | ['h'] => some 3600
      | ['d'] => some 86400
      | _ => none
    let digits := t.take (t.length - rest.length)
    unit.bind fun u =>
      match Sequence.Decimal.ofText? digits with
      | some d =>
        if d.digits < 0 then none
        else some (d.digits.natAbs * u * 1000000000 / Nat.pow 10 d.places)
      | none => some forever

def wait : Utility := fun c =>
  match Options.read [] true c.args with
  | .error e => c.usage e 1
  | .ok f =>
    if f.operands.isEmpty then c.usage "missing operand".toList 1
    else match f.operands.filter fun o => (interval? o).isNone with
      | [] =>
        let time := (f.operands.filterMap interval?).foldl (· + ·) 0
        { c.finish [] 0 with slept := time }
      | bad =>
        let complaints := bad.flatMap fun o =>
          c.complaintLine ("invalid time interval ".toList ++ quote o)
        { c.finish [] 1 with
          written := [(2, complaints ++ "Try '".toList ++ c.name ++
            " --help' for more information.\n".toList)] }

def showEnvironment : Utility :=
  withLeadingOptions ["0 null"] 2 fun c f =>
    let mark := if f.has "0" then ['\x00'] else ['\n']
    if f.operands.isEmpty then
      c.finish (c.environment.flatMap fun (n, v) => n ++ '=' :: v ++ mark) 0
    else
      let found := f.operands.filterMap fun o => c.environment.lookup o
      c.finish (found.flatMap fun v => v ++ mark)
        (if found.length = f.operands.length then 0 else 1)

def showUser : Utility :=
  withOptions ["u user", "g group", "G groups", "n name", "r real", "z zero"] 1 fun c f =>
    let t := if f.has "n" then "root\n" else if f.has "u" ∨ f.has "g" ∨ f.has "G" then "0\n"
      else "uid=0(root) gid=0(root) groups=0(root)\n"
    c.finish t.toList 0

def showDirectory : Utility :=
  withOptions ["L logical", "P physical"] 1 fun c f =>
    let finish := c.finish (encode (Files.absolute c.files.current) ++ ['\n']) 0
    if f.operands.isEmpty then finish
    else { finish with
      written := (2, c.complaintLine "ignoring non-option arguments".toList) :: finish.written }

def showSystem : Utility :=
  withOptions ["a all", "s kernel-name", "n nodename", "r kernel-release", "v kernel-version",
    "m machine", "p processor", "i hardware-platform", "o operating-system"] 1 fun c f =>
    match f.operands with
    | o :: _ => c.usage ("extra operand ".toList ++ quote o) 1
    | [] =>
      let parts := [("s", "Linux"), ("n", "localhost"), ("r", "6.1.0"), ("v", "#1 SMP"),
        ("m", "x86_64"), ("p", "unknown"), ("i", "unknown"), ("o", "GNU/Linux")]
      let isAsked (x : String × String) : Bool :=
        f.has x.1 || (f.has "a" && x.2 ≠ "unknown") || (f.flags.isEmpty && x.1 = "s")
      c.finish (joinWith [' '] ((parts.filter isAsked).map (·.2.toList)) ++ ['\n']) 0

def showTerminal : Utility := fun c =>
  if c.args.contains "-s".toList then c.finish [] 1 else c.finish "not a tty\n".toList 1

def copyInput : Utility :=
  withOptions ["a append", "i ignore-interrupts", "p output-error=?"] 1 fun c f =>
    let (files, complaints) := f.operands.foldl (fun (files, complaints) (o : Text) =>
      if o = "/dev/stdout".toList ∨ o = "/dev/stderr".toList then (files, complaints)
      else
      let old : Text := if f.has "a" then
          ((files.read (decode o)).toOption.map Text.ofOctets).getD []
        else []
      match Files.write files (decode o) (Text.octets (old ++ c.input)) with
      | .ok files => (files, complaints)
      | .error e => (files, complaints ++ c.complaintLine (pathReason e o))) (c.files, ([] : Text))
    let more := f.operands.filterMap fun o =>
      if o = "/dev/stdout".toList then some (1, c.input)
      else if o = "/dev/stderr".toList then some (2, c.input)
      else none
    { written := (2, complaints) :: (1, c.input) :: more, files := some files
      status := if complaints.isEmpty then 0 else 1 }

/-! ### Expressions -/

namespace Calculation

inductive Problem where
  | missing (behind : Text)
  | unexpected (t : Text)
  | unclosed (behind : Text)
  | number
  | zero
  | pattern (m : Posix.Mistake)

def Problem.message : Problem → Text
  | .missing t => "syntax error: missing argument after ".toList ++ quote t
  | .unexpected t => "syntax error: unexpected argument ".toList ++ quote t
  | .unclosed t => "syntax error: expecting ')' after ".toList ++ quote t
  | .number => "non-integer argument".toList
  | .zero => "division by zero".toList
  | .pattern m => m.message.toList

/-- What is left of the arguments, and the last one taken. -/
structure State where
  rest : List Text
  last : Text := []

abbrev Reader := StateT State (Except Problem)

def integer? (t : Text) : Option Int :=
  match t with
  | '-' :: ds => (natural? ds).map fun n => -(n : Int)
  | ds => (natural? ds).map fun n => (n : Int)

def isNothing (t : Text) : Bool :=
  t.isEmpty || (integer? t = some 0)

def next : Reader Text := do
  let s ← get
  match s.rest with
  | [] => throw (.missing s.last)
  | t :: rest =>
    set ({ rest, last := t } : State)
    return t

def follows (words : List String) : Reader (Option String) := do
  match (← get).rest with
  | t :: _ => return words.find? fun w => w.toList = t
  | [] => return none

/-- The part of a text that an expression at its beginning matches, or its size. -/
def matchText (t e : Text) : Reader Text :=
  match Posix.read { grammar := .basic } e with
  | .error m => throw (.pattern m)
  | .ok p =>
    let a := t.toArray
    let m? := p.matchAt? a 0
    if 0 < p.groups then return m?.elim [] fun m => m.part a 1
    else return shown (m?.elim 0 fun m => m.last)

def number (t : Text) : Reader Int :=
  match integer? t with
  | some n => return n
  | none => throw .number

def levels : List (List String) :=
  [["|"], ["&"], ["<", "<=", "=", "==", "!=", ">=", ">"], ["+", "-"], ["*", "/", "%"], [":"]]

def truth (b : Bool) : Text := if b then ['1'] else ['0']

def compareValues (o : String) (a b : Text) : Text :=
  let c : Ordering := match integer? a, integer? b with
    | some x, some y => compare x y
    | _, _ => if a = b then .eq else if a < b then .lt else .gt
  truth (match o with
    | "<" => c = .lt
    | "<=" => c ≠ .gt
    | "=" | "==" => c = .eq
    | "!=" => c ≠ .eq
    | ">=" => c ≠ .lt
    | _ => c = .gt)

def apply (o : String) (a b : Text) : Reader Text := do
  match o with
  | "|" => return if !isNothing a then a else if !isNothing b then b else ['0']
  | "&" => return if isNothing a ∨ isNothing b then ['0'] else a
  | ":" => matchText a b
  | "+" => return shownInt ((← number a) + (← number b))
  | "-" => return shownInt ((← number a) - (← number b))
  | "*" => return shownInt ((← number a) * (← number b))
  | "/" | "%" =>
    let x ← number a
    let y ← number b
    if y = 0 then throw .zero
    return shownInt (if o = "/" then x.tdiv y else x.tmod y)
  | o => return compareValues o a b

def operand (whole : Reader Text) : Reader Text := do
  let t ← next
  match String.ofList t with
  | "(" =>
    let v ← whole
    match (← get).rest with
    | [')'] :: rest =>
      modify fun s => { s with rest, last := [')'] }
      return v
    | [] => throw (.unclosed (← get).last)
    | t :: _ => throw (.unexpected t)
  | ")" => throw (.unexpected t)
  | "+" => next
  | _ => return t

def function (whole : Reader Text) : Reader Text := do
  match ← follows ["length", "match", "substr", "index"] with
  | none => operand whole
  | some f =>
    let _ ← next
    let a ← operand whole
    match f with
    | "length" => return shown a.length
    | "match" => matchText a (← operand whole)
    | "index" =>
      let b ← operand whole
      return shown ((a.findIdx? b.contains).elim 0 (· + 1))
    | _ =>
      let i ← operand whole
      let n ← operand whole
      match integer? i, integer? n with
      | some i, some n =>
        return if i < 1 ∨ n < 1 then [] else (a.drop (i.toNat - 1)).take n.toNat
      | _, _ => return []

def chain (inner : Reader Text) (operators : List String) : Nat → Text → Reader Text
  | 0, a => return a
  | n + 1, a => do
    match ← follows operators with
    | none => return a
    | some o =>
      let _ ← next
      let b ← inner
      chain inner operators n (← apply o a b)

def expression (size : Nat) : Nat → Reader Text
  | 0 => throw (.missing [])
  | n + 1 =>
    levels.foldr (fun operators inner => do
      let a ← inner
      chain inner operators size a) (function (expression size n))

end Calculation

open Calculation in
def calculate : Utility := fun c =>
  let args := if c.args.head? = some "--".toList then c.args.tail else c.args
  if args.isEmpty then c.usage "missing operand".toList 2
  else
    let run : Except Problem Text := do
      let (v, s) ← (expression (args.length + 1) (args.length + 1)).run { rest := args }
      match s.rest with
      | [] => return v
      | t :: _ => throw (.unexpected t)
    match run with
    | .ok v => c.finish (v ++ ['\n']) (if isNothing v then 1 else 0)
    | .error e => c.complainText e.message 2

/-! ### Factors -/

def primeFactors : Nat → Nat → Nat → List Nat
  | 0, _, n => [n]
  | fuel + 1, p, n =>
    if n < 2 then []
    else if n < p * p then [n]
    else if n % p = 0 then p :: primeFactors fuel p (n / p)
    else primeFactors fuel (if p = 2 then 3 else p + 2) n

def factorNumbers : Utility :=
  withOptions ["h exponents"] 1 fun c f =>
    let words := if f.operands.isEmpty then wordsOf c.input else f.operands
    let one (w : Text) : Nat × Text :=
      match natural? (if w.head? = some '+' then w.tail else w) with
      | some n =>
        let factors := (primeFactors 2000000 2 n).flatMap fun p => ' ' :: shown p
        (1, shown n ++ ':' :: factors ++ ['\n'])
      | none => (2, c.complaintLine (quote w ++ " is not a valid positive integer".toList))
    let written := words.map one
    { written, status := if written.any fun w => w.1 = 2 then 1 else 0
      unread := if f.operands.isEmpty then [] else c.input }

/-! ### Tests -/

def testCondition (bracket : Bool) : Utility := fun c =>
  let complain (m : Text) : Finish :=
    { c.finish [] 2 with written := [(2, c.complaintLine m)] }
  let args? : Option (List Text) :=
    if !bracket then some c.args
    else match c.args.reverse with
      | [']'] :: rest => some rest.reverse
      | _ => none
  match args? with
  | none => complain "missing ']'".toList
  | some args =>
    match Testing.holds .program { files := c.files } args with
    | .ok b => c.finish [] (if b then 0 else 1)
    | .error e => complain (e.message .program)

end StructuralEdit.Shell
