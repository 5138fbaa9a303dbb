import StructuralEdit.Shell.Utility.Start
/-!
Starting a program with arguments that are read from the input.
-/
namespace StructuralEdit.Shell

namespace Feeding

/-! ### Items -/

/-- The items that are read so far, where each line has its items in reverse and the last line
stands first. -/
structure Reading where
  lines : List (List Text) := []
  line : List Text := []
  item : Option Text := none
  afterBlank : Bool := false

namespace Reading

def add (c : Char) (r : Reading) : Reading :=
  { r with item := some (c :: r.item.getD []), afterBlank := false }

def endItem (r : Reading) : Reading :=
  match r.item with
  | some t => { r with line := t.reverse :: r.line, item := none }
  | none => r

def endLine (r : Reading) : Reading :=
  let blank := r.afterBlank && r.item.isNone
  let r := r.endItem
  if r.line.isEmpty ∨ blank then { r with afterBlank := false }
  else { r with lines := r.line.reverse :: r.lines, line := [], afterBlank := false }

def all (r : Reading) : List (List Text) :=
  let r := { r.endItem with afterBlank := false }.endLine
  r.lines.reverse

end Reading

/-- Reads items between blanks and line ends, with quotes. If items are whole lines, blanks are
only passed over in front of them. The answer tells which quote is not closed. The first argument
is the quote that is open. -/
def readQuoted (wholeLines : Bool) : Option Char → Text → Reading → Reading × Option Char
  | none, [], r => (r, none)
  | some q, [], r => ({ r with item := none }, some q)
  | some q, c :: t, r =>
    if c = q then readQuoted wholeLines none t r
    else if c = '\n' then ({ r with item := none }, some q)
    else readQuoted wholeLines (some q) t (r.add c)
  | none, '\\' :: c :: t, r => readQuoted wholeLines none t (r.add c)
  | none, c :: t, r =>
    if c = '\n' then readQuoted wholeLines none t r.endLine
    else if c = '\'' ∨ c = '"' then
      readQuoted wholeLines (some c) t { r with item := some (r.item.getD []), afterBlank := false }
    else if c = ' ' ∨ c = '\t' then
      if wholeLines ∧ r.item.isSome then readQuoted wholeLines none t (r.add c)
      else if wholeLines then readQuoted wholeLines none t r
      else readQuoted wholeLines none t { r.endItem with afterBlank := true }
    else readQuoted wholeLines none t (r.add c)

/-- The items that a character ends, where the end of the text ends the last one too. -/
def separated (mark : Char) (t : Text) : List Text :=
  let parts := t.splitOn mark
  if parts.getLast? = some [] then parts.dropLast else parts

def mark? (t : Text) : Option Char :=
  match t with
  | [c] => some c
  | ['\\', c] =>
    match "abfnrtv0\\".toList.findIdx? (· = c) with
    | some i => "\x07\x08\x0c\n\r\t\x0b\x00\\".toList[i]?
    | none => if isOctalDigit c then some (Char.ofNat (ofDigits 8 [c])) else none
  | '\\' :: 'x' :: ds =>
    if ds ≠ [] ∧ ds.all isHexDigit then some (Char.ofNat (ofDigits 16 ds % 256)) else none
  | '\\' :: ds =>
    if ds.all isOctalDigit then some (Char.ofNat (ofDigits 8 ds % 256)) else none
  | _ => none

/-! ### Groups of items -/

inductive Grouping where
  | free
  | items (most : Nat)
  | lines (most : Nat)
  | places (mark : Text)

def Grouping.names : Grouping → Option String
  | .free => none
  | .items _ => some "--max-args"
  | .lines _ => some "--max-lines"
  | .places _ => some "--replace"

structure Gathering where
  groups : List (List Text) := []
  group : List Text := []
  size : Nat := 0
  count : Nat := 0
  lines : Nat := 0

namespace Gathering

def close (g : Gathering) : Gathering :=
  if g.group.isEmpty then g else { groups := g.group.reverse :: g.groups }

/-- Adds an item to the group, or to a new one if there is no room for it. -/
def add (room : Nat) (most : Option Nat) (item : Text) (g : Gathering) : Gathering :=
  let size := item.length + 1
  let g := if room < g.size + size then g.close else g
  let g := { g with
    group := item :: g.group, size := g.size + size, count := g.count + 1 }
  if most = some g.count then g.close else g

def endLine (most : Option Nat) (g : Gathering) : Gathering :=
  let g := { g with lines := g.lines + 1 }
  if most = some g.lines then g.close else g

end Gathering

def grouped (k : Grouping) (room : Nat) (lines : List (List Text)) : List (List Text) :=
  let mostItems : Option Nat := match k with
    | .items n => some n
    | _ => none
  let mostLines : Option Nat := match k with
    | .lines n => some n
    | _ => none
  let g := lines.foldl (fun (g : Gathering) line =>
    (line.foldl (fun g t => g.add room mostItems t) g).endLine mostLines) {}
  g.close.groups.reverse

def replaced (mark item : Text) : Nat → Text → Text
  | 0, t => t
  | _ + 1, [] => []
  | n + 1, c :: t =>
    if mark ≠ [] ∧ mark.isPrefixOf (c :: t) then
      item ++ replaced mark item n ((c :: t).drop mark.length)
    else c :: replaced mark item n t

/-! ### Settings -/

structure Settings where
  grouping : Grouping := .free
  room : Nat := 131072
  warnings : List Text := []

def number (letter : String) (t : Text) : Except Text Nat :=
  match natural? t with
  | none =>
    .error ("invalid number \"".toList ++ t ++ ("\" for -" ++ letter ++ " option").toList)
  | some 0 => .error ("value 0 for -" ++ letter ++ " option should be >= 1").toList
  | some n => .ok n

/-- Chooses another grouping. If there was one already, that is worth a warning. -/
def Settings.choose (k : Grouping) (called : String) (s : Settings) : Settings :=
  let isSame : Bool := k.names = s.grouping.names
  match s.grouping.names with
  | some old =>
    if isSame then { s with grouping := k }
    else
      let warning := "warning: options " ++ old ++ " and " ++ called ++
        " are mutually exclusive, ignoring previous " ++ old ++ " value"
      { s with grouping := k, warnings := s.warnings ++ [warning.toList] }
  | none => { s with grouping := k }

def Settings.apply (s : Settings) (flag : String × Text) : Except Text Settings :=
  let (key, t) := flag
  match key with
  | "n" => do
    let n ← number "n" t
    match s.grouping, n with
    | .places _, 1 => return s
    | _, n => return s.choose (.items n) "--max-args/-n"
  | "L" => do
    let n ← number "L" t
    return s.choose (.lines n) "-L"
  | "l" => do
    let n ← if t.isEmpty then pure 1 else number "l" t
    return s.choose (.lines n) "-l"
  | "I" => return s.choose (.places t) "--replace/-I/-i"
  | "i" =>
    return s.choose (.places (if t.isEmpty then ['{', '}'] else t)) "--replace/-I/-i"
  | "s" => do
    let n ← number "s" t
    return { s with room := min n 131072 }
  | "P" =>
    match natural? t with
    | none => throw ("invalid number \"".toList ++ t ++ "\" for -P option".toList)
    | some _ => return s
  | _ => return s

/-! ### Running -/

structure Progress where
  machine : Machine
  status : Nat := 0
  stopped : Bool := false

def Progress.stop (complaint : Text) (status : Nat) (p : Progress) : Progress :=
  { machine := p.machine.write 2 (complaint ++ ['\n']), status, stopped := true }

def start (e : Engine) (name : Text) (verbose keepsInput : Bool) (p : Progress)
    (words : List Text) : Progress :=
  if p.stopped then p
  else
    let program := words.headD []
    let m := if verbose then
        p.machine.write 2 (joinWith [' '] (words.map fileName) ++ ['\n']) else p.machine
    let p := { p with machine := m }
    let called := name ++ ": ".toList ++ program ++ ": ".toList
    if !Starting.isStartable e program m then
      let (why, status) := Starting.obstacle program m
      p.stop (called ++ why.reason.toList) status
    else
      let (ending, m) := m.ownProcess fun m =>
        e.program words (if keepsInput then m else m.open_ 0 .null)
      let p := { p with machine := m }
      match ending with
      | .exited 0 => p
      | .exited 255 => p.stop (called ++ "exited with status 255; aborting".toList) 124
      | .exited _ => { p with status := 123 }
      | .killed s => p.stop (called ++ "terminated by signal ".toList ++ shown s) 125

end Feeding

open Feeding in
def feedArguments : Launcher :=
  Starting.withCommand ["0 null", "a= arg-file", "d= delimiter", "E=", "e=? eof", "I=",
    "i=? replace", "L=", "l=? max-lines", "n= max-args", "p interactive", "P= max-procs",
    "r no-run-if-empty", "s= max-chars", "t verbose", "x exit", "o open-tty", "show-limits",
    "process-slot-var="] 1 fun e name f m =>
    let said (t : Text) : Machine := Starting.complain (name ++ ": ".toList ++ t) 1 m
    match f.flags.foldlM Settings.apply {} with
    | .error t => Starting.usage name t 1 m
    | .ok s =>
      let separator : Except Text (Option Char) := match f.last? ["0", "d"] with
        | some "0" => .ok (some '\x00')
        | some _ =>
          let t := (f.value? "d").getD []
          match mark? t with
          | some c => .ok (some c)
          | none => .error ("Invalid input delimiter specification ".toList ++ t ++
              ": the delimiter must be either a single character or an escape sequence".toList ++
              " starting with \\.".toList)
        | none => .ok none
      let input : Except Text Text := match f.value? "a" with
        | none => .ok m.input
        | some path =>
          match m.files.read (decode path) with
          | .ok content => .ok (Text.ofOctets content)
          | .error why =>
            if path = "/dev/null".toList then .ok []
            else .error ("Cannot open input file ".toList ++ quote path ++
              (": " ++ why.reason).toList)
      match separator, input with
      | .error t, _ | _, .error t => said t
      | .ok separator, .ok input =>
        let m := s.warnings.foldl (fun m t => m.write 2 (name ++ ": ".toList ++ t ++ ['\n'])) m
        let keepsInput := f.has "a"
        let m := if keepsInput then m else m.leaveAt 0 []
        let words := if f.operands.isEmpty then ["echo".toList] else f.operands
        let place? : Option Text := match s.grouping with
          | .places t => some t
          | _ => none
        let (lines, quote?) : List (List Text) × Option Char := match separator with
          | some c => ((separated c input).map fun t => [t], none)
          | none =>
            let (r, quote?) := readQuoted place?.isSome none input {}
            (r.all, quote?)
        let lines : List (List Text) := match separator, f.last? ["E", "e"] with
          | none, some key =>
            let stop := (f.value? key).getD []
            if stop.isEmpty then lines
            else
              let (before, after) := lines.span fun (line : List Text) => !line.contains stop
              before ++ (after.take 1).map fun (line : List Text) => line.takeWhile (· ≠ stop)
          | _, _ => lines
        let own := (words.map fun (w : Text) => w.length + 1).foldl (· + ·) 0
        let (commands, tooLong) : List (List Text) × Bool := match place? with
          | some t =>
            (lines.flatten.map fun item => words.take 1 ++
              words.tail.map fun (w : Text) => replaced t item (w.length + 1) w, false)
          | none =>
            let fits (t : Text) : Bool := own + t.length + 1 ≤ s.room
            let short := lines.map fun (line : List Text) => line.takeWhile fits
            let groups := grouped s.grouping (s.room - own) short
            let groups := if groups.isEmpty ∧ !f.has "r" ∧ quote?.isNone then [[]] else groups
            (groups.map fun g => words ++ g, lines.any fun (line : List Text) => !line.all fits)
        let p := commands.foldl (start e name (f.has "t" || f.has "p") keepsInput) { machine := m }
        let p :=
          if p.stopped then p
          else if tooLong then p.stop (name ++ ": argument line too long".toList) 1
          else match quote? with
            | some q =>
              let kind := if q = '"' then "double" else "single"
              p.stop (name ++ (": unmatched " ++ kind ++ " quote; by default quotes are special " ++
                "to xargs unless you use the -0 option").toList) 1
            | none => p
        { p.machine with status := p.status }

end StructuralEdit.Shell
