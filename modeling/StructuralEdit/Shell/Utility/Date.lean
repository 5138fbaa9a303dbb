import StructuralEdit.Shell.Calendar
import StructuralEdit.Shell.Utility.Basic
/-!
The program that writes a moment, and reading moments as people write them.
-/
namespace StructuralEdit.Shell

namespace Calendar

inductive Piece where
  | number (sign : Option Char) (digits : Text)
  | word (t : Text)
  | mark (c : Char)
  | blank
  deriving DecidableEq

def takePieces : Nat → Text → List Piece
  | 0, _ => []
  | _ + 1, [] => []
  | n + 1, c :: t =>
    if isSpace c then .blank :: takePieces n (t.dropWhile isSpace)
    else if c.isDigit then
      let ds := (c :: t).takeWhile Char.isDigit
      .number none ds :: takePieces n (t.drop (ds.length - 1))
    else if c.isAlpha then
      let w := (c :: t).takeWhile Char.isAlpha
      .word (w.map Char.toLower) :: takePieces n (t.drop (w.length - 1))
    else if (c = '+' ∨ c = '-') ∧ t.head?.any Char.isDigit then
      let ds := t.takeWhile Char.isDigit
      .number (some c) ds :: takePieces n (t.drop ds.length)
    else .mark c :: takePieces n t

structure Reading where
  date : Option (Int × Nat × Nat) := none
  time : Option (Nat × Nat) := none
  zone : Option Int := none
  weekday : Option Nat := none
  months : Int := 0
  days : Int := 0
  seconds : Int := 0

def Reading.setDate (r : Reading) (year : Int) (month day : Nat) : Option Reading :=
  if r.date.isSome ∨ month < 1 ∨ 12 < month ∨ day < 1 ∨ CivilTime.daysInMonth year month < day then
    none
  else some { r with date := some (year, month, day) }

def yearOf (ds : Text) : Int :=
  let n : Nat := ofDigits 10 ds
  if 2 < ds.length then n else if n < 69 then 2000 + n else 1900 + n

/-- The place in a list of a name that may be cut to three letters. -/
def nameIndex? (names : List String) (t : Text) : Option Nat :=
  names.findIdx? fun name =>
    let lower := name.toList.map Char.toLower
    t = lower || (3 ≤ t.length && t = lower.take 3)

def Reading.move (r : Reading) (n : Int) (unit : Text) : Option Reading :=
  let unit := if unit.getLast? = some 's' ∧ 3 < unit.length then unit.dropLast else unit
  match String.ofList unit with
  | "sec" | "second" => some { r with seconds := r.seconds + n }
  | "min" | "minute" => some { r with seconds := r.seconds + 60 * n }
  | "hour" => some { r with seconds := r.seconds + 3600 * n }
  | "day" => some { r with days := r.days + n }
  | "week" => some { r with days := r.days + 7 * n }
  | "fortnight" => some { r with days := r.days + 14 * n }
  | "month" => some { r with months := r.months + n }
  | "year" => some { r with months := r.months + 12 * n }
  | _ => none

def clockSeconds? (h m s : Nat) (half : Option Text) : Option Nat :=
  let hour? : Option Nat := match half with
    | none => some h
    | some w =>
      if h < 1 ∨ 12 < h then none
      else some (if w = "pm".toList then h % 12 + 12 else h % 12)
  hour?.bind fun hour =>
    if hour < 24 ∧ m < 60 ∧ s < 60 then some (hour * 3600 + m * 60 + s) else none

def zoneSeconds (sign : Char) (hours minutes : Nat) : Int :=
  let n : Nat := hours * 3600 + minutes * 60
  if sign = '-' then -n else n

/-- Reads what is written behind a time of day: a half of the day, then a zone. -/
def Reading.withClock (r : Reading) (h m s fraction : Nat) (ps : List Piece) :
    Option (Reading × List Piece) := do
  if r.time.isSome then none
  let behind := match ps with
    | .blank :: rest => rest
    | ps => ps
  let (half, ps) : Option Text × List Piece := match behind with
    | .word w :: rest =>
      if w = "am".toList ∨ w = "pm".toList then (some w, rest) else (none, ps)
    | _ => (none, ps)
  let total ← clockSeconds? h m s half
  let r := { r with time := some (total, fraction) }
  match ps with
  | .number (some sign) hours :: .mark ':' :: .number none minutes :: rest =>
    let zone := zoneSeconds sign (ofDigits 10 hours) (ofDigits 10 minutes)
    some ({ r with zone := some zone }, rest)
  | .number (some sign) hours :: rest =>
    let n := ofDigits 10 hours
    let zone := if hours.length ≤ 2 then zoneSeconds sign n 0
      else zoneSeconds sign (n / 100) (n % 100)
    some ({ r with zone := some zone }, rest)
  | ps => some (r, ps)

def readPieces : Nat → List Piece → Reading → Option Reading
  | 0, _, _ => none
  | _ + 1, [], r => some r
  | n + 1, p :: ps, r => do
    match p, ps with
    | .blank, _ => readPieces n ps r
    | .mark ',', _ => readPieces n ps r
    | .number none y, .number (some '-') m :: .number (some '-') d :: rest =>
      let r ← r.setDate (yearOf y) (ofDigits 10 m) (ofDigits 10 d)
      match rest with
      | .word ['t'] :: rest => readPieces n rest r
      | rest => readPieces n rest r
    | .number none m, .mark '/' :: .number none d :: .mark '/' :: .number none y :: rest =>
      let r ← if 4 ≤ m.length then r.setDate (yearOf m) (ofDigits 10 d) (ofDigits 10 y)
        else r.setDate (yearOf y) (ofDigits 10 m) (ofDigits 10 d)
      readPieces n rest r
    | .number none h, .mark ':' :: .number none m :: .mark ':' :: .number none s :: rest =>
      let (fraction, rest) : Nat × List Piece := match rest with
        | .mark '.' :: .number none f :: rest =>
          (ofDigits 10 ((f ++ List.replicate 9 '0').take 9), rest)
        | rest => (0, rest)
      let (r, rest) ← r.withClock (ofDigits 10 h) (ofDigits 10 m) (ofDigits 10 s) fraction rest
      readPieces n rest r
    | .number none h, .mark ':' :: .number none m :: rest =>
      let (r, rest) ← r.withClock (ofDigits 10 h) (ofDigits 10 m) 0 0 rest
      readPieces n rest r
    | .number none d, .blank :: .word w :: rest | .number none d, .word w :: rest
    | .number none d, .mark '-' :: .word w :: rest =>
      match nameIndex? months w with
      | some i =>
        match rest with
        | .blank :: .number none y :: rest' =>
          if rest'.head? = some (.mark ':') then
            let r ← r.setDate 2023 (i + 1) (ofDigits 10 d)
            readPieces n rest r
          else
            let r ← r.setDate (yearOf y) (i + 1) (ofDigits 10 d)
            readPieces n rest' r
        | .number (some '-') y :: rest =>
          let r ← r.setDate (yearOf y) (i + 1) (ofDigits 10 d)
          readPieces n rest r
        | rest =>
          let r ← r.setDate 2023 (i + 1) (ofDigits 10 d)
          readPieces n rest r
      | none =>
        if w = "am".toList ∨ w = "pm".toList then
          let total ← clockSeconds? (ofDigits 10 d) 0 0 (some w)
          readPieces n rest { r with time := some (total, 0) }
        else moved n (ofDigits 10 d : Nat) w rest r
    | .number (some sign) d, .blank :: .word w :: rest | .number (some sign) d, .word w :: rest =>
      let k : Int := (ofDigits 10 d : Nat)
      moved n (if sign = '-' then -k else k) w rest r
    | .number none ds, _ =>
      if ds.length = 8 then
        let v := ofDigits 10 ds
        let r ← r.setDate (v / 10000 : Nat) (v / 100 % 100) (v % 100)
        readPieces n ps r
      else none
    | .word w, _ =>
      match String.ofList w with
      | "now" | "today" => readPieces n ps r
      | "tomorrow" => readPieces n ps { r with days := r.days + 1 }
      | "yesterday" => readPieces n ps { r with days := r.days - 1 }
      | "z" | "utc" | "gmt" => readPieces n ps { r with zone := some 0 }
      | "noon" => readPieces n ps { r with time := some (43200, 0) }
      | "midnight" => readPieces n ps { r with time := some (0, 0) }
      | "next" | "last" | "this" =>
        match ps with
        | .blank :: .word unit :: rest =>
          moved n (if w = "next".toList then 1 else if w = "last".toList then -1 else 0) unit rest r
        | _ => none
      | _ =>
        match nameIndex? months w with
        | some i =>
          match ps with
          | .blank :: .number none d :: .mark ',' :: .blank :: .number none y :: rest
          | .blank :: .number none d :: .blank :: .number none y :: rest =>
            if rest.head? = some (.mark ':') then none
            else
              let r ← r.setDate (yearOf y) (i + 1) (ofDigits 10 d)
              readPieces n rest r
          | .blank :: .number none d :: rest =>
            let r ← r.setDate 2023 (i + 1) (ofDigits 10 d)
            readPieces n rest r
          | _ => none
        | none =>
          match nameIndex? weekdays w with
          | some i => readPieces n ps { r with weekday := some i }
          | none =>
            let r ← r.move 1 w
            readPieces n ps r
    | _, _ => none
where
  moved (n : Nat) (k : Int) (unit : Text) (rest : List Piece) (r : Reading) : Option Reading :=
    match rest with
    | .blank :: .word w :: rest' =>
      if w = "ago".toList then (r.move (-k) unit).bind (readPieces n rest')
      else (r.move k unit).bind (readPieces n rest)
    | rest => (r.move k unit).bind (readPieces n rest)

def Reading.moment (r : Reading) : Moment :=
  let base := CivilTime.ofSeconds now.seconds
  let isRelative : Bool := r.date.isNone && r.time.isNone && r.weekday.isNone
  let (year, month, day) := r.date.getD (base.year, base.month, base.day)
  let clock : Nat := match r.time with
    | some (s, _) => s
    | none => if isRelative then (now.seconds.emod 86400).toNat else 0
  let months : Int := year * 12 + ((month : Int) - 1) + r.months
  let dayNumber := CivilTime.dayNumber (months.fdiv 12) ((months.emod 12).toNat + 1) day + r.days
  let dayNumber := match r.weekday with
    | some w =>
      if r.date.isSome then dayNumber
      else dayNumber + ((w : Int) - (dayNumber + 4)).emod 7
    | none => dayNumber
  { seconds := dayNumber * 86400 + clock + r.seconds - r.zone.getD 0
    nanoseconds := (r.time.map (·.2)).getD 0 }

/-- Reads a moment: a number of seconds behind an at sign, or a day and a time of day. -/
def read? (t : Text) : Option Moment :=
  match t.dropWhile isSpace with
  | '@' :: rest =>
    let (negative, ds) : Bool × Text := match rest with
      | '-' :: ds => (true, ds)
      | '+' :: ds => (false, ds)
      | ds => (false, ds)
    let whole := ds.takeWhile Char.isDigit
    let n : Int := (ofDigits 10 whole : Nat)
    let n := if negative then -n else n
    match whole, ds.drop whole.length with
    | [], _ => none
    | _, [] => some { seconds := n }
    | _, '.' :: fraction =>
      if fraction.all Char.isDigit then
        some { seconds := n
               nanoseconds := ofDigits 10 ((fraction ++ List.replicate 9 '0').take 9) }
      else none
    | _, _ => none
  | [] => some { seconds := now.seconds - now.seconds.emod 86400 }
  | t => (readPieces (2 * t.length + 2) (takePieces (t.length + 1) t) {}).map Reading.moment

end Calendar

def writeMoment : Utility :=
  withOptions ["d= date=", "f= file=", "r= reference=", "R rfc-email rfc-2822",
    "u utc universal uct", "I=? iso-8601", "rfc-3339=", "s= set=", "debug"] 1 fun c o =>
    let formats := o.operands.filter fun t => t.head? = some '+'
    let others := o.operands.filter fun t => t.head? ≠ some '+'
    match others, formats with
    | t :: _, [] => c.complainText ("invalid date ".toList ++ quote t) 1
    | t :: _, _ => c.usage ("extra operand ".toList ++ quote t) 1
    | [], _ :: second :: _ => c.usage ("extra operand ".toList ++ quote second) 1
    | [], _ =>
      let moment? : Except Text Moment := match o.value? "d" with
        | some t => match Calendar.read? t with
          | some m => .ok m
          | none => .error ("invalid date ".toList ++ quote t)
        | none => .ok Calendar.now
      match moment? with
      | .error e => c.complainText e 1
      | .ok m =>
        let format := match formats with
          | f :: _ => f.tail
          | [] =>
            if o.has "R" then "%a, %d %b %Y %T %z".toList
            else match o.value? "rfc-3339", o.value? "I" with
              | some k, _ =>
                if k = "date".toList then "%F".toList
                else if k = "ns".toList then "%F %T.%N%:z".toList
                else "%F %T%:z".toList
              | none, some k =>
                if k = [] ∨ k = "date".toList then "%F".toList
                else if k.head? = some 'h' then "%FT%H%:z".toList
                else if k.head? = some 'm' then "%FT%H:%M%:z".toList
                else if k.head? = some 's' then "%FT%T%:z".toList
                else "%FT%T,%N%:z".toList
              | none, none => "%a %b %e %H:%M:%S %Z %Y".toList
        c.finish (Calendar.write m format ++ ['\n']) 0

end StructuralEdit.Shell
