import StructuralEdit.Shell.Format
import StructuralEdit.Shell.Utility.Columns
/-!
Numbers with the letters of units behind them, as people write sizes.
-/
namespace StructuralEdit.Shell

namespace Scaled

inductive Scale where
  | plain
  /-- Powers of 1000, or of 1024 if a mark is behind the letter. -/
  | either
  | decimal
  | binary
  | markedBinary
  deriving DecidableEq

def Scale.base : Scale → Nat
  | .binary | .markedBinary => 1024
  | _ => 1000

/-- Which whole number takes the place of one that is between two of them. -/
inductive Rounding where
  | up
  | down
  | fromZero
  | towardsZero
  | nearest
  deriving DecidableEq

inductive Handling where
  | abort
  | fail
  | warn
  | ignore
  deriving DecidableEq

def unitLetters : Text := "KMGTPEZYRQ".toList

/-! ### Quotients -/

structure Amount where
  dividend : Int
  divisor : Nat

namespace Amount

def times (n : Nat) (a : Amount) : Amount := { a with dividend := a.dividend * n }

def dividedBy (n : Nat) (a : Amount) : Amount := { a with divisor := a.divisor * n }

def reaches (n : Nat) (a : Amount) : Bool := n * a.divisor ≤ a.dividend.natAbs

def floor (a : Amount) : Int := a.dividend / a.divisor

def ceiling (a : Amount) : Int := -(-a.dividend / a.divisor)

def toward (r : Rounding) (a : Amount) : Int :=
  let half (up : Bool) : Amount :=
    { dividend := 2 * a.dividend + (if up then (a.divisor : Int) else -a.divisor)
      divisor := 2 * a.divisor }
  match r with
  | .up => a.ceiling
  | .down => a.floor
  | .fromZero => if a.dividend < 0 then a.floor else a.ceiling
  | .towardsZero => if a.dividend < 0 then a.ceiling else a.floor
  | .nearest => if a.dividend < 0 then (half false).ceiling else (half true).floor

def rounded (r : Rounding) (places : Nat) (a : Amount) : Amount :=
  { dividend := (a.times (Nat.pow 10 places)).toward r, divisor := Nat.pow 10 places }

/-- The digits of a number, of which some are behind its point. What is half way between two
numbers becomes the even one. -/
def digits (places : Nat) (a : Amount) : Text :=
  let b := { a with dividend := a.dividend.natAbs }.times (Nat.pow 10 places)
  let below := b.floor.toNat
  let rest := 2 * (b.dividend.toNat - below * b.divisor)
  let n := if b.divisor < rest ∨ (rest = b.divisor ∧ below % 2 = 1) then below + 1 else below
  let ds := padLeft (places + 1) (shown n) '0'
  let whole := ds.take (ds.length - places)
  if places = 0 then whole else whole ++ '.' :: ds.drop (ds.length - places)

/-- The number divided by a base until it is below the base, and how many times that is. The
first argument bounds them. -/
def normalized (base : Nat) : Nat → Amount → Nat → Amount × Nat
  | 0, a, power => (a, power)
  | n + 1, a, power =>
    if a.reaches base then normalized base n (a.dividedBy base) (power + 1) else (a, power)

end Amount

/-! ### Reading -/

inductive Fault where
  | noNumber
  | tooLarge
  | badLetter
  | forbidden
  | unmarked
  | trailing (rest : Text)

def Fault.message (t : Text) : Fault → Text
  | .noNumber => "invalid number: ".toList ++ quote t
  | .tooLarge => "value too large to be converted: ".toList ++ quote t
  | .badLetter => "invalid suffix in input: ".toList ++ quote t
  | .forbidden =>
    "rejecting suffix in input: ".toList ++ quote t ++ " (consider using --from)".toList
  | .unmarked => "missing 'i' suffix in input: ".toList ++ quote t ++ " (e.g Ki/Mi/Gi)".toList
  | .trailing rest => "invalid suffix in input ".toList ++ quote t ++ ": ".toList ++ quote rest

def readDigits (t : Text) : Except Fault (Bool × Text × Text) :=
  let (negative, t) : Bool × Text := match t with
    | '-' :: t => (true, t)
    | t => (false, t)
  let ds := t.takeWhile Char.isDigit
  let rest := t.drop ds.length
  if 33 < (ds.dropWhile (· = '0')).length then .error .tooLarge
  else if ds.isEmpty ∧ rest.head? ≠ some '.' then .error .noNumber
  else .ok (negative, ds, rest)

/-- Reads a number. The answer has how many digits of it count behind its point. -/
def readAmount (s : Scale) (t : Text) : Except Fault (Amount × Nat) := do
  let (negative, whole, rest) ← readDigits t
  let (fraction, rest) ← match rest with
    | '.' :: rest => do
      let (negative, fraction, rest) ← readDigits rest
      if negative then throw .noNumber
      pure (fraction, rest)
    | rest => pure ([], rest)
  let n : Int := ofDigits 10 (whole ++ fraction)
  let a : Amount :=
    { dividend := if negative then -n else n, divisor := Nat.pow 10 fraction.length }
  match rest.dropWhile isTabOrSpace with
  | [] =>
    if rest.isEmpty then
      if s = .markedBinary then throw .unmarked
      return (a, fraction.length)
    else throw .badLetter
  | letter :: rest =>
    match unitLetters.findIdx? (· = letter) with
    | none => throw .badLetter
    | some i =>
      if s = .plain then throw .forbidden
      let marked : Bool := (s = .either || s = .markedBinary) && rest.head? = some 'i'
      if s = .markedBinary ∧ !marked then throw .unmarked
      let rest := if marked then rest.tail else rest
      if !rest.isEmpty then throw (.trailing rest)
      let base := if marked then 1024 else s.base
      return (a.times (Nat.pow base (i + 1)), 0)

/-! ### Writing -/

structure Plan where
  source : Scale := .plain
  goal : Scale := .plain
  sourceUnit : Nat := 1
  goalUnit : Nat := 1
  rounding : Rounding := .fromZero
  width : Nat := 0
  left : Bool := false
  zeroWidth : Nat := 0
  suffix : Text := []
  before : Text := []
  behind : Text := []
  places : Option Nat := none
  delimiter : Option Char := none
  fields : List Cutting.Span := [{ first := 1, last := some 1 }]
  handling : Handling := .abort

namespace Plan

def figure (p : Plan) (a : Amount) (places : Nat) : Text :=
  let sign (a : Amount) : Text := if a.dividend < 0 then ['-'] else []
  let fill (mark digits : Text) : Text :=
    mark ++ padLeft (p.zeroWidth - mark.length) digits '0'
  if p.goal = .plain then
    let a := a.rounded p.rounding places
    fill (sign a) (a.digits places)
  else
    let base := p.goal.base
    let (a, power) := a.normalized base 40 0
    let kept := match p.places with
      | some n => min (3 * power) n
      | none => if a.reaches 10 then 0 else 1
    let a := a.rounded p.rounding kept
    let (a, power) := if a.reaches base then (a.dividedBy base, power + 1) else (a, power)
    let shownPlaces := match p.places with
      | some n => n
      | none => if a.dividend ≠ 0 ∧ !a.reaches 10 ∧ 0 < power then 1 else 0
    let letter := if power = 0 then [] else (unitLetters[power - 1]?).toList
    let mark := if p.goal = .markedBinary ∧ 0 < power then ['i'] else []
    fill (sign a) (a.digits shownPlaces) ++ letter ++ mark

def general (a : Amount) : Text :=
  match Real.readPrefix? Real.extended true (shownInt a.floor) with
  | some (r, _) => ({} : Format.Layout).real 'g' r
  | none => []

def tooLarge? (p : Plan) (a : Amount) (places : Nat) : Option Text :=
  let (_, size) := a.normalized 10 400 0
  if p.goal = .plain ∧ 18 < size + places then
    some (if places = 0 then
        "value too large to be printed: '".toList ++ general a ++ "' (consider using --to)".toList
      else
        "value/precision too large to be printed: '".toList ++ general a ++ '/' :: shown places ++
          "' (consider using --to)".toList)
  else if 32 < size then
    some ("value too large to be printed: '".toList ++ general a ++
      "' (cannot handle values > 999Q)".toList)
  else none

def convert (p : Plan) (isFirst : Bool) (field : Text) : Except Text Text := do
  let isSuffixed : Bool := p.suffix.length < field.length && p.suffix.isSuffixOf field
  let field := if isSuffixed then field.take (field.length - p.suffix.length) else field
  let t := field.dropWhile isTabOrSpace
  let isAligned : Bool := p.width = 0 && p.delimiter.isNone
  let width := if isAligned then
      if t.length < field.length ∨ !isFirst then field.length else 0
    else p.width
  let (a, places) ← (readAmount p.source t).mapError (Fault.message t)
  let a := (a.times p.sourceUnit).dividedBy p.goalUnit
  let places := p.places.getD places
  match p.tooLarge? a places with
  | some message => throw message
  | none => pure ()
  let out := p.figure a places ++ p.suffix
  let out := if p.left ∧ !isAligned then padRight width out ' ' else padLeft width out ' '
  return p.before ++ out ++ p.behind

/-- The fields of a line. If blanks are between them, those in front of a field belong to it,
but for the one that ends the field before. -/
def fieldsOf (p : Plan) (line : Text) : List Text :=
  match p.delimiter with
  | some d => line.splitOn d
  | none =>
    let rec go : Nat → Text → List Text
      | 0, _ => []
      | n + 1, t =>
        let blanks := t.takeWhile isSpace
        let word := (t.drop blanks.length).takeWhile fun c => !isSpace c
        let field := blanks ++ word
        match t.drop field.length with
        | [] => [field]
        | _ :: rest => field :: go n rest
    go (line.length + 1) line

end Plan

/-- What is written, the last text first, and whether all texts were numbers. -/
structure Progress where
  written : List (Nat × Text) := []
  valid : Bool := true
  ended : Bool := false

namespace Progress

def write (descriptor : Nat) (t : Text) (p : Progress) : Progress :=
  { p with written := (descriptor, t) :: p.written }

def line (c : Call) (p : Plan) (ending : Text) (w : Progress) (t : Text) : Progress :=
  let gap := [p.delimiter.getD ' ']
  let w := (p.fieldsOf t).zipIdx.foldl (fun (w : Progress) (field, i) =>
    if w.ended then w
    else
      let w := if i = 0 then w else w.write 1 gap
      if !p.fields.any (·.contains (i + 1)) then w.write 1 field
      else match p.convert (i = 0) field with
        | .ok t => w.write 1 t
        | .error message =>
          let w := { w with valid := false }
          let w := if p.handling = .ignore then w else w.write 2 (c.complaintLine message)
          if p.handling = .abort then { w with ended := true } else w.write 1 field) w
  if w.ended then w else w.write 1 ending

end Progress

/-! ### Options -/

/-- A value that has to be one of some words, which may be cut short. -/
def choice {α : Type} (c : Call) (option : String) (words : List (String × α)) (t : Text) :
    Except Finish α :=
  let found := match words.find? fun w => w.1.toList = t with
    | some w => [w]
    | none => words.filter fun w => t.isPrefixOf w.1.toList
  match found with
  | [w] => .ok w.2
  | ws =>
    let what := if ws.isEmpty ∨ t.isEmpty then "invalid" else "ambiguous"
    .error (c.usage ((what ++ " argument ").toList ++ quote t ++
      (" for '--" ++ option ++ "'\nValid arguments are:").toList ++
      words.flatMap fun w => ("\n  - '" ++ w.1 ++ "'").toList) 1)

def unit? (t : Text) : Option Nat :=
  let ds := t.takeWhile Char.isDigit
  let n := if ds.isEmpty then 1 else ofDigits 10 ds
  let factor? := match t.drop ds.length with
    | [] => if ds.isEmpty then none else some 1
    | [letter] => (unitLetters.findIdx? (· = letter)).map fun i => Nat.pow 1000 (i + 1)
    | [letter, 'i'] => (unitLetters.findIdx? (· = letter)).map fun i => Nat.pow 1024 (i + 1)
    | _ => none
  factor?.bind fun f => if n = 0 then none else some (n * f)

def beforeDirective : Text → Option (Text × Text)
  | [] => none
  | '%' :: '%' :: t => (beforeDirective t).map fun (a, b) => ('%' :: '%' :: a, b)
  | '%' :: t => some ([], t)
  | c :: t => (beforeDirective t).map fun (a, b) => (c :: a, b)

def hasDirective : Text → Bool
  | [] => false
  | '%' :: '%' :: t => hasDirective t
  | '%' :: _ => true
  | _ :: t => hasDirective t

def readFormat (c : Call) (whole : Text) (p : Plan) : Except Finish Plan :=
  let fail (before after : String) : Except Finish Plan :=
    .error (c.complainText (before.toList ++ quote whole ++ after.toList) 1)
  match beforeDirective whole with
  | none => fail "format " " has no % directive"
  | some (before, t) =>
    let flags := t.takeWhile fun c => c = '\'' || c = '0' || c = ' '
    let t := t.drop flags.length
    let (left, t) : Bool × Text := match t with
      | '-' :: d :: t => if d.isDigit then (true, d :: t) else (false, '-' :: d :: t)
      | t => (false, t)
    let ds := t.takeWhile Char.isDigit
    let n := ofDigits 10 ds
    let zeros := flags.contains '0' && !left
    let p := if n = 0 then p
      else if zeros then { p with zeroWidth := n }
      else { p with width := n, left }
    let (places, t) : Option Text × Text := match t.drop ds.length with
      | '.' :: t => (some (t.takeWhile Char.isDigit), t.dropWhile Char.isDigit)
      | t => (none, t)
    match t with
    | [] =>
      if places.isNone then fail "format " " ends in %"
      else fail "invalid format " ", directive must be %[0]['][-][N][.][N]f"
    | 'f' :: behind =>
      if hasDirective behind then fail "format " " has too many % directives"
      else .ok { p with before, behind, places := places.map (ofDigits 10) }
    | c :: _ =>
      if places = some [] ∧ (c = '-' ∨ c = '+' ∨ isTabOrSpace c) then
        fail "invalid precision in format " ""
      else fail "invalid format " ", directive must be %[0]['][-][N][.][N]f"

def scales : List (String × Scale) :=
  [("none", .plain), ("si", .decimal), ("iec", .binary), ("iec-i", .markedBinary)]

def roundings : List (String × Rounding) :=
  [("up", .up), ("down", .down), ("from-zero", .fromZero), ("towards-zero", .towardsZero),
    ("nearest", .nearest)]

def handlings : List (String × Handling) :=
  [("abort", .abort), ("fail", .fail), ("warn", .warn), ("ignore", .ignore)]

def Plan.take (c : Call) (p : Plan) (key : String) (value : Text) : Except Finish Plan :=
  let fail (what : String) : Except Finish Plan :=
    .error (c.complainText (what.toList ++ quote value) 1)
  let sourceScales := ("none", .plain) :: ("auto", .either) :: scales.tail
  match key with
  | "from" => (choice c key sourceScales value).map fun source => { p with source }
  | "to" => (choice c key scales value).map fun goal => { p with goal }
  | "round" => (choice c key roundings value).map fun rounding => { p with rounding }
  | "invalid" => (choice c key handlings value).map fun handling => { p with handling }
  | "from-unit" =>
    match unit? value with
    | some sourceUnit => .ok { p with sourceUnit }
    | none => fail "invalid unit size: "
  | "to-unit" =>
    match unit? value with
    | some goalUnit => .ok { p with goalUnit }
    | none => fail "invalid unit size: "
  | "padding" =>
    let (left, ds) : Bool × Text := match value with
      | '-' :: ds => (true, ds)
      | ds => (false, ds)
    match natural? ds with
    | some (n + 1) => .ok { p with width := n + 1, left }
    | _ => fail "invalid padding value "
  | "suffix" => .ok { p with suffix := value }
  | "d" =>
    match value with
    | _ :: _ :: _ => .error (c.complain "the delimiter must be a single character" 1)
    | value => .ok { p with delimiter := some (value.headD '\x00') }
  | "field" =>
    if value = ['-'] then .ok { p with fields := [{ first := 1, last := none }] }
    else match Cutting.readList true value with
      | .ok fields => .ok { p with fields }
      | .error message => .error (c.usage message 1)
  | _ => .ok p

end Scaled

open Scaled in
def scaleNumbers : Utility :=
  withOptions ["from=", "from-unit=", "to=", "to-unit=", "round=", "padding=", "suffix=",
    "grouping", "d= delimiter", "field=", "debug", "header=?", "format=", "invalid=",
    "z zero-terminated"] 1 fun c f =>
    let run : Except Finish Finish := do
      if 1 < (f.values "field").length then throw (c.complain "multiple field specifications" 1)
      let p ← f.flags.foldlM (fun (p : Plan) (key, value) => p.take c key value) {}
      let headers ← match f.value? "header" with
        | none => pure 0
        | some [] => pure 1
        | some t => match natural? t with
          | some (n + 1) => pure (n + 1)
          | _ => throw (c.complainText ("invalid header value ".toList ++ quote t) 1)
      if f.has "format" ∧ f.has "grouping" then
        throw (c.complain "--grouping cannot be combined with --format" 1)
      let p ← match f.value? "format" with
        | some t => readFormat c t p
        | none => pure p
      if f.has "grouping" ∧ p.goal ≠ .plain then
        throw (c.complain "grouping cannot be combined with --to" 1)
      let isIdle : Bool := p.source = .plain && p.goal = .plain && !f.has "grouping" &&
        p.width = 0 && !f.has "format"
      let start : Progress := if f.has "debug" ∧ isIdle then
          ({} : Progress).write 2 (c.complaintLine "no conversion option specified".toList)
        else {}
      let mark := if f.has "z" then '\x00' else '\n'
      let isFed := f.operands.isEmpty
      let w := if isFed then
          let rows := rowsBy mark c.input
          let w := start.write 1 (rows.take headers).flatten
          (rows.drop headers).foldl (fun (w : Progress) row =>
            if row.getLast? = some mark then w.line c p [mark] row.dropLast
            else w.line c p [] row) w
        else f.operands.foldl (fun (w : Progress) t => w.line c p ['\n'] t) start
      let status := if !w.valid ∧ (p.handling = .abort ∨ p.handling = .fail) then 2 else 0
      return { written := w.written.reverse, status, unread := if isFed then [] else c.input }
    match run with
    | .ok r => r
    | .error r => r

end StructuralEdit.Shell
