import StructuralEdit.Shell.Calendar
import StructuralEdit.Shell.Format
import StructuralEdit.Shell.Utility.Basic
import StructuralEdit.Shell.Word
/-!
Printing arguments by a format, as shells and as the program of that name do it.
-/
namespace StructuralEdit.Shell.Printf

inductive Kind where
  | shell (d : Dialect)
  | program
  deriving DecidableEq

def usualEscape? : Char → Option Char
  | 'a' => some '\x07'
  | 'b' => some '\x08'
  | 'f' => some '\x0c'
  | 'n' => some '\n'
  | 'r' => some '\r'
  | 't' => some '\t'
  | 'v' => some '\x0b'
  | '\\' => some '\\'
  | 'e' => some '\x1b'
  | _ => none

/-- Text whose escapes have been taken for what they stand for, and whether one of them ends all
output. -/
structure Unescaped where
  text : Text
  isLast : Bool := false

def escape (k : Kind) (t : Text) : Text × Text × Bool :=
  let octal (digits : Text) (rest : Text) : Text × Text × Bool :=
    ([Char.ofNat (ofDigits 8 digits % 256)], rest, false)
  let hex (most : Nat) (t : Text) : Option (Nat × Text) :=
    let digits := (t.take most).takeWhile isHexDigit
    if digits.isEmpty then none else some (ofDigits 16 digits, t.drop digits.length)
  match t with
  | [] => (['\\'], [], false)
  | c :: rest =>
    match usualEscape? c with
    | some e => ([e], rest, false)
    | none =>
      if isOctalDigit c then
        let digits := (t.take 3).takeWhile isOctalDigit
        octal digits (t.drop digits.length)
      else match k, c with
        | .shell .dash, _ => (['\\', c], rest, false)
        | .program, 'c' => ([], [], true)
        | .program, '"' => (['"'], rest, false)
        | .shell .bash, '"' | .shell .bash, '\'' | .shell .bash, '?' => ([c], rest, false)
        | .shell .bash, 'E' => (['\x1b'], rest, false)
        | _, 'x' => match hex 2 rest with
          | some (n, rest) => ([Char.ofNat n], rest, false)
          | none => (['\\', c], rest, false)
        | _, 'u' => match hex 4 rest with
          | some (n, rest) => (codePoint n, rest, false)
          | none => (['\\', c], rest, false)
        | _, 'U' => match hex 8 rest with
          | some (n, rest) => (codePoint n, rest, false)
          | none => (['\\', c], rest, false)
        | _, _ => (['\\', c], rest, false)

/-- What stands behind a backslash in an argument, where octal numbers can begin with an extra
zero and one escape ends all output. -/
def escapeInArgument (k : Kind) (t : Text) : Text × Text × Bool :=
  match t with
  | 'c' :: _ => ([], [], true)
  | '0' :: rest =>
    let digits := (rest.take 3).takeWhile isOctalDigit
    ([Char.ofNat (ofDigits 8 digits % 256)], rest.drop digits.length, false)
  | c :: rest =>
    if k = .shell .bash ∧ (c = '"' ∨ c = '\'' ∨ c = '?') then (['\\', c], rest, false)
    else escape k t
  | [] => escape k t

def unescape (one : Text → Text × Text × Bool) : Nat → Text → Unescaped
  | 0, t => { text := t }
  | _ + 1, [] => { text := [] }
  | n + 1, c :: t =>
    if c = '\\' then
      let (e, rest, isLast) := one t
      if isLast then { text := e, isLast }
      else
        let u := unescape one n rest
        { u with text := e ++ u.text }
    else
      let u := unescape one n t
      { u with text := c :: u.text }

def unescapeArgument (k : Kind) (t : Text) : Unescaped :=
  unescape (escapeInArgument k) (t.length + 1) t

/-! ### Numbers -/

/-- A mistake in an argument that should be a number. -/
inductive Mistake where
  | noNumber
  | trailing
  | range

def Mistake.message (k : Kind) (t : Text) : Mistake → Text
  | .noNumber => match k with
    | .shell .dash => t ++ ": expected numeric value".toList
    | .shell .bash => t ++ ": invalid number".toList
    | .program => quote t ++ ": expected a numeric value".toList
  | .trailing => match k with
    | .shell .dash => t ++ ": not completely converted".toList
    | .shell .bash => t ++ ": invalid number".toList
    | .program => quote t ++ ": value not completely converted".toList
  | .range => match k with
    | .shell .dash => t ++ ": Numerical result out of range".toList
    | .shell .bash => "warning: ".toList ++ t ++ ": Numerical result out of range".toList
    | .program => quote t ++ ": Numerical result out of range".toList

def quotedChar? (t : Text) : Option Nat :=
  match t with
  | '\'' :: c :: _ | '"' :: c :: _ => some c.toNat
  | ['\''] | ['"'] => some 0
  | _ => none

def integer (t : Text) (signed : Bool) : Int × Option Mistake :=
  match quotedChar? t with
  | some n => (n, none)
  | none =>
    let inner := t.dropWhile isSpace
    let (negative, digits) : Bool × Text := match inner with
      | '-' :: ds => (true, ds)
      | '+' :: ds => (false, ds)
      | ds => (false, ds)
    let (n, length) : Nat × Nat :=
      match digits with
      | '0' :: x :: rest =>
        let hex := rest.takeWhile isHexDigit
        if (x = 'x' ∨ x = 'X') ∧ hex ≠ [] then (ofDigits 16 hex, hex.length + 2)
        else
          let octal := digits.takeWhile isOctalDigit
          (ofDigits 8 octal, octal.length)
      | _ =>
        let ds := digits.takeWhile Char.isDigit
        (ofDigits 10 ds, ds.length)
    let v : Int := if negative then -n else n
    let lo : Int := if signed then -9223372036854775808 else -18446744073709551615
    let hi : Int := if signed then 9223372036854775807 else 18446744073709551615
    if t.isEmpty then (0, none)
    else if length = 0 then (0, some .noNumber)
    else if v < lo then (if signed then lo else hi, some .range)
    else if hi < v then (hi, some .range)
    else (v, if digits.drop length = [] then none else some .trailing)

def real (p : Real.Precision) (t : Text) : Real × Option Mistake :=
  match quotedChar? t with
  | some n => (.ofNat n, none)
  | none =>
    if t.isEmpty then (.zero, none)
    else match Real.readPrefix? p true t with
      | some (r, []) => (r, none)
      | some (r, _) => (r, some .trailing)
      | none => (.zero, some .noNumber)

/-! ### Printing -/

structure State where
  args : List Text
  asked : Bool := false
  out : List Text := []
  complaints : List Text := []
  failed : Bool := false
  stopped : Bool := false
  status : Nat := 0

def State.emit (t : Text) (s : State) : State := { s with out := t :: s.out }

def State.next (s : State) : Text × State :=
  (s.args.headD [], { s with args := s.args.tail, asked := true })

def State.complain (message : Text) (s : State) : State :=
  { s with complaints := message :: s.complaints, status := 1 }

def State.note (k : Kind) (t : Text) (mistake : Option Mistake) (s : State) : State :=
  match mistake with
  | some m => s.complain (m.message k t)
  | none => s

def State.reject (k : Kind) (d : Text) (whole : Bool) (s : State) : State :=
  let message := match k with
    | .shell .dash =>
      if whole then '%' :: d ++ ": invalid directive".toList else "missing format character".toList
    | .shell .bash =>
      if whole then '\x60' :: (d.getLast?.toList ++ "': invalid format character".toList)
      else '\x60' :: '%' :: d ++ "': missing format character".toList
    | .program => '%' :: d ++ ": invalid conversion specification".toList
  { s.complain message with
    stopped := true, failed := true, status := if k = .shell .dash then 2 else 1 }

def State.amount (k : Kind) (a : Format.Amount) (s : State) : Option Int × State :=
  match a with
  | .absent => (none, s)
  | .given n => (some n, s)
  | .argument =>
    let (t, s) := s.next
    let (n, mistake) := integer t true
    (some n, s.note k t mistake)

def State.directive (k : Kind) (d : Format.Directive) (s : State) : State :=
  let (width, s) := s.amount k d.width
  let (precision, s) := s.amount k d.precision
  let l := d.layout width precision
  let rejected := s.reject k d.written true
  match d.conversion with
  | '%' =>
    if d.written = ['%'] then s.emit ['%'] else rejected
  | 's' =>
    let (t, s) := s.next
    s.emit (l.text t)
  | 'c' =>
    let (t, s) := s.next
    s.emit (l.pad [t.headD '\x00'])
  | 'b' =>
    let (t, s) := s.next
    let u := unescapeArgument k t
    { s.emit (l.text u.text) with stopped := u.isLast }
  | 'q' =>
    if k = .shell .dash then rejected
    else
      let (t, s) := s.next
      s.emit (l.text (if k = .program then
        (if t.isEmpty then "''".toList else fileName t) else Quoted.backslashed t))
  | 'd' | 'i' =>
    let (t, s) := s.next
    let (n, mistake) := integer t true
    (s.note k t mistake).emit (l.decimal n)
  | 'o' | 'u' | 'x' | 'X' =>
    let (t, s) := s.next
    let (n, mistake) := integer t false
    let n := (n.emod 18446744073709551616).toNat
    (s.note k t mistake).emit (l.unsigned d.conversion n)
  | 'e' | 'E' | 'f' | 'F' | 'g' | 'G' =>
    let (t, s) := s.next
    let p := if k = .shell .dash then Real.double else Real.extended
    let (r, mistake) := real p t
    (s.note k t mistake).emit (l.real d.conversion r)
  | _ => rejected

/-- Writes a moment in a format of its own. Without an argument, or with a number below zero, it is
the present one. -/
def State.moment (k : Kind) (l : Format.Layout) (format : Text) (s : State) : State :=
  let isMissing := s.args.isEmpty
  let (t, s) := s.next
  let (n, mistake) := integer t true
  let m : Moment := if isMissing ∨ n < 0 then Calendar.now else { seconds := n }
  let format := if format.isEmpty then "%X".toList else format
  (s.note k t mistake).emit (l.text (Calendar.write m format))

def sizes (k : Kind) : Text :=
  match k with
  | .shell .dash => []
  | _ => "hlLjzt".toList

def State.pass (k : Kind) : Nat → Text → State → State
  | 0, _, s => s
  | n + 1, t, s =>
    if s.stopped then s
    else match t with
      | [] => s
      | '%' :: rest =>
        match Format.readDirective (sizes k) rest with
        | .ok (d, rest) =>
          let format := rest.takeWhile (· ≠ ')')
          match k, d.conversion, rest.drop format.length with
          | .shell .bash, '(', ')' :: 'T' :: rest =>
            let (width, s) := s.amount k d.width
            let (precision, s) := s.amount k d.precision
            State.pass k n rest (s.moment k (d.layout width precision) format)
          | _, _, _ => State.pass k n rest (s.directive k d)
        | .error written => s.reject k written false
      | '\\' :: rest =>
        let (e, rest, isLast) := escape k rest
        State.pass k n rest { s.emit e with stopped := isLast }
      | c :: rest => State.pass k n rest (s.emit [c])

def State.passes (k : Kind) (format : Text) : Nat → State → State
  | 0, s => s
  | n + 1, s =>
    let before := s.args.length
    let s := State.pass k (format.length + 1) format s
    if s.stopped ∨ s.args.isEmpty then s
    else if s.args.length = before then
      match k, s.args with
      | .program, a :: _ =>
        { s with complaints :=
            ("warning: ignoring excess arguments, starting with ".toList ++ quote a) ::
              s.complaints }
      | _, _ => s
    else State.passes k format n s

def print (k : Kind) (format : Text) (args : List Text) : Text × List Text × Nat :=
  let s := State.passes k format (args.length + 1) { args }
  (s.out.reverse.flatten, s.complaints.reverse, s.status)

end Printf

def printFormatted : Utility := fun c =>
  match c.args with
  | [] => c.usage "missing operand".toList 1
  | first :: rest =>
    let args := if first = "--".toList then rest else c.args
    match args with
    | [] => c.usage "missing operand".toList 1
    | format :: args =>
      let (out, complaints, status) := Printf.print .program format args
      { c.finish [] status with
        written := (1, out) :: complaints.map fun m => (2, c.complaintLine m) }

end StructuralEdit.Shell
