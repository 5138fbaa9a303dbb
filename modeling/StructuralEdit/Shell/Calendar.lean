import StructuralEdit.Shell.Octets
/-!
The calendar: which day and time of day a moment is, and how they are written.
-/
namespace StructuralEdit.Shell

structure Moment where
  seconds : Int
  nanoseconds : Nat := 0

structure CivilTime where
  year : Int
  month : Nat
  day : Nat
  hour : Nat := 0
  minute : Nat := 0
  second : Nat := 0

namespace CivilTime

/-- The number of days from the beginning of 1970. Years are counted from March on, so that a leap
day is the last one. -/
def dayNumber (year : Int) (month day : Nat) : Int :=
  let y := if month ≤ 2 then year - 1 else year
  let era := y.fdiv 400
  let yearOfEra := y - era * 400
  let monthFromMarch : Int := if 2 < month then (month : Int) - 3 else (month : Int) + 9
  let dayOfYear := (153 * monthFromMarch + 2) / 5 + (day : Int) - 1
  let dayOfEra := yearOfEra * 365 + yearOfEra / 4 - yearOfEra / 100 + dayOfYear
  era * 146097 + dayOfEra - 719468

def ofDayNumber (n : Int) : CivilTime :=
  let z := n + 719468
  let era := z.fdiv 146097
  let dayOfEra := z - era * 146097
  let yearOfEra :=
    (dayOfEra - dayOfEra / 1460 + dayOfEra / 36524 - dayOfEra / 146096) / 365
  let dayOfYear := dayOfEra - (365 * yearOfEra + yearOfEra / 4 - yearOfEra / 100)
  let monthFromMarch := (5 * dayOfYear + 2) / 153
  let day := (dayOfYear - (153 * monthFromMarch + 2) / 5 + 1).toNat
  let month := (if monthFromMarch < 10 then monthFromMarch + 3 else monthFromMarch - 9).toNat
  { year := yearOfEra + era * 400 + (if month ≤ 2 then 1 else 0), month, day }

def ofSeconds (n : Int) : CivilTime :=
  let inDay := (n.emod 86400).toNat
  { ofDayNumber (n.fdiv 86400) with
    hour := inDay / 3600, minute := inDay / 60 % 60, second := inDay % 60 }

def isLeap (year : Int) : Bool :=
  year.emod 4 = 0 && (year.emod 100 ≠ 0 || year.emod 400 = 0)

def daysInMonth (year : Int) (month : Nat) : Nat :=
  if month = 2 then if isLeap year then 29 else 28
  else if [4, 6, 9, 11].contains month then 30
  else 31

def weekday (t : CivilTime) : Nat := ((dayNumber t.year t.month t.day + 4).emod 7).toNat

def yearDay (t : CivilTime) : Nat :=
  (dayNumber t.year t.month t.day - dayNumber t.year 1 1).toNat

def week (t : CivilTime) (first : Nat) : Nat :=
  (t.yearDay + 7 - (t.weekday + 7 - first) % 7) / 7

/-- The week and the year that it belongs to, which is the one that has most of its days. -/
def standardWeek (t : CivilTime) : Int × Nat :=
  let fromMonday := (t.weekday + 6) % 7
  let thursday := ofDayNumber (dayNumber t.year t.month t.day + 3 - fromMonday)
  (thursday.year, thursday.yearDay / 7 + 1)

end CivilTime

namespace Calendar

def weekdays : List String :=
  ["Sunday", "Monday", "Tuesday", "Wednesday", "Thursday", "Friday", "Saturday"]

def months : List String :=
  ["January", "February", "March", "April", "May", "June", "July", "August", "September",
    "October", "November", "December"]

/-- How a field is written: the character that fills it up, its width, and what becomes of its
letters. -/
structure Style where
  fill : Option Char := none
  width : Option Nat := none
  upper : Bool := false
  opposite : Bool := false

def Style.number (s : Style) (digits : Nat) (usual : Char) (n : Int) : Text :=
  let fill := s.fill.getD usual
  let sign : Text := if n < 0 then ['-'] else []
  let ds := shown n.natAbs
  if fill = '-' then sign ++ ds
  else
    let width := s.width.getD digits
    if fill = '_' then padLeft width (sign ++ ds) ' '
    else sign ++ padLeft (width - sign.length) ds '0'

def Style.text (s : Style) (t : String) : Text :=
  let t := if s.upper ∨ s.opposite then t.toList.map Char.toUpper else t.toList
  padLeft (s.width.getD 0) t (if s.fill = some '0' then '0' else ' ')

def field (m : Moment) (t : CivilTime) (s : Style) (colons : Nat) (c : Char) : Option Text :=
  let two (n : Nat) : Text := s.number 2 '0' n
  let plain (n : Nat) : Text := padLeft 2 (shown n) '0'
  let wide (n : Nat) : Text := padLeft 2 (shown n) ' '
  let name (l : List String) (i : Nat) : String := l[i]?.getD ""
  let short (t : String) : String := String.ofList (t.toList.take 3)
  let whole (t : Text) : Option Text :=
    let t := if s.upper then t.map Char.toUpper else t
    some (padLeft (s.width.getD 0) t (if s.fill = some '0' then '0' else ' '))
  let half := if t.hour % 12 = 0 then 12 else t.hour % 12
  let clock := plain t.hour ++ ':' :: plain t.minute ++ ':' :: plain t.second
  let half12 := plain half ++ ':' :: plain t.minute ++ ':' :: plain t.second
  let yearText := shownInt t.year
  let weekdayName := name weekdays t.weekday
  let monthName := name months (t.month - 1)
  let slashes := plain t.month ++ '/' :: plain t.day ++ '/' :: plain (t.year.emod 100).toNat
  let noon := if t.hour < 12 then "AM" else "PM"
  match c with
  | 'a' => some (s.text (short weekdayName))
  | 'A' => some (s.text weekdayName)
  | 'b' | 'h' => some (s.text (short monthName))
  | 'B' => some (s.text monthName)
  | 'c' => whole ((short weekdayName).toList ++ ' ' :: (short monthName).toList ++ ' ' ::
      wide t.day ++ ' ' :: clock ++ ' ' :: yearText)
  | 'C' => some (s.number 2 '0' (t.year.fdiv 100))
  | 'd' => some (two t.day)
  | 'D' | 'x' => whole slashes
  | 'e' => some (s.number 2 '_' t.day)
  | 'F' => whole (yearText ++ '-' :: plain t.month ++ '-' :: plain t.day)
  | 'g' => some (s.number 2 '0' (t.standardWeek.1.emod 100))
  | 'G' => some (s.number 4 '0' t.standardWeek.1)
  | 'H' => some (two t.hour)
  | 'I' => some (two half)
  | 'j' => some (s.number 3 '0' (t.yearDay + 1 : Nat))
  | 'k' => some (s.number 2 '_' t.hour)
  | 'l' => some (s.number 2 '_' half)
  | 'm' => some (two t.month)
  | 'M' => some (two t.minute)
  | 'n' => some ['\n']
  | 'N' => some ((padLeft 9 (shown m.nanoseconds) '0').take (s.width.getD 9))
  | 'p' => some (if s.opposite then padLeft (s.width.getD 0) (noon.toList.map Char.toLower) ' '
      else s.text noon)
  | 'P' => some (padLeft (s.width.getD 0) (noon.toList.map Char.toLower) ' ')
  | 'q' => some (s.number 1 '0' ((t.month + 2) / 3 : Nat))
  | 'r' => whole (half12 ++ ' ' :: noon.toList)
  | 'R' => whole (plain t.hour ++ ':' :: plain t.minute)
  | 's' => some (s.number 1 '0' m.seconds)
  | 'S' => some (two t.second)
  | 't' => some ['\t']
  | 'T' | 'X' => whole clock
  | 'u' => some (s.number 1 '0' (if t.weekday = 0 then 7 else t.weekday : Nat))
  | 'U' => some (two (t.week 0))
  | 'V' => some (two t.standardWeek.2)
  | 'w' => some (s.number 1 '0' t.weekday)
  | 'W' => some (two (t.week 1))
  | 'y' => some (s.number 2 '0' (t.year.emod 100))
  | 'Y' => some (s.number 4 '0' t.year)
  | 'z' => match colons with
    | 0 => some "+0000".toList
    | 1 => some "+00:00".toList
    | 2 => some "+00:00:00".toList
    | 3 => some "+00".toList
    | _ => none
  | 'Z' => some (if s.opposite then "utc".toList else s.text "UTC")
  | '%' => some ['%']
  | _ => none

def takeStyle : Text → Style → Style × Text
  | c :: t, s =>
    if c = '_' ∨ c = '-' ∨ c = '0' ∨ c = '+' then
      takeStyle t { s with fill := some (if c = '+' then '0' else c) }
    else if c = '^' then takeStyle t { s with upper := true }
    else if c = '#' then takeStyle t { s with opposite := true }
    else (s, c :: t)
  | [], s => (s, [])

def writeParts (m : Moment) (t : CivilTime) : Nat → Text → Text
  | 0, _ => []
  | _ + 1, [] => []
  | n + 1, c :: rest =>
    if c ≠ '%' then c :: writeParts m t n rest
    else
      let (s, behind) := takeStyle rest {}
      let digits := behind.takeWhile Char.isDigit
      let s := if digits.isEmpty then s else { s with width := some (ofDigits 10 digits) }
      let behind := behind.drop digits.length
      let behind := if behind.head? = some 'E' ∨ behind.head? = some 'O' then behind.tail
        else behind
      let colons := behind.takeWhile (· = ':')
      match behind.drop colons.length with
      | k :: after =>
        match field m t s colons.length k with
        | some text => text ++ writeParts m t n after
        | none => '%' :: rest.take (rest.length - after.length) ++ writeParts m t n after
      | [] => '%' :: rest

def now : Moment := { seconds := 1700000000 }

def write (m : Moment) (format : Text) : Text :=
  writeParts m (CivilTime.ofSeconds m.seconds) (format.length + 1) format

end Calendar

end StructuralEdit.Shell
