import StructuralEdit.Shell.Posix.Search
import StructuralEdit.Shell.Utility.Basic
/-!
Programs that show data, whole or in part: from the beginning or the end, reversed, numbered or
counted.
-/
namespace StructuralEdit.Shell

/-! ### All of it -/

def visible (c : Char) : Text :=
  let n := c.toNat
  let low (n : Nat) : Text :=
    if n < 32 then ['^', Char.ofNat (n + 64)]
    else if n = 127 then "^?".toList
    else [Char.ofNat n]
  if n < 128 then low n else "M-".toList ++ low (n - 128)

structure ShowOptions where
  numbers : Bool := false
  filledNumbers : Bool := false
  ends : Bool := false
  tabs : Bool := false
  marks : Bool := false
  squeezes : Bool := false

def showRow (o : ShowOptions) (row : Text) : Text :=
  row.flatMap fun c =>
    if c = '\n' then if o.ends then ['$', '\n'] else ['\n']
    else if c = '\t' then if o.tabs then "^I".toList else ['\t']
    else if o.marks then visible c
    else [c]

def showRows (o : ShowOptions) : Nat → Bool → List Text → List Text
  | _, _, [] => []
  | n, afterEmpty, row :: rows =>
    let isEmpty : Bool := row = ['\n']
    if o.squeezes ∧ isEmpty ∧ afterEmpty then showRows o n true rows
    else
      let hasNumber : Bool := if o.filledNumbers then !isEmpty else o.numbers
      let number := if hasNumber then padLeft 6 (shown n) ' ' ++ ['\t'] else []
      (number ++ showRow o row) :: showRows o (if hasNumber then n + 1 else n) isEmpty rows

def concatenate : Utility :=
  withOptions ["n number", "b number-nonblank", "E show-ends", "T show-tabs", "v show-nonprinting",
    "A show-all", "e", "t", "s squeeze-blank", "u"] 1 fun c f =>
    let o : ShowOptions :=
      { numbers := f.has "n", filledNumbers := f.has "b"
        ends := f.has "E" || f.has "A" || f.has "e", tabs := f.has "T" || f.has "A" || f.has "t"
        marks := f.has "v" || f.has "A" || f.has "e" || f.has "t", squeezes := f.has "s" }
    let changes := o.numbers || o.filledNumbers || o.ends || o.tabs || o.marks || o.squeezes
    c.mapData f.operands fun t => if changes then (showRows o 1 false (rowsOf t)).flatten else t

def reverseLines : Utility :=
  withOptions ["b before", "r regex", "s= separator"] 1 fun c f =>
    let mark := ((f.value? "s").bind List.head?).getD '\n'
    c.mapData f.operands fun t =>
      if f.has "b" then
        let parts := t.splitOn mark
        (((parts.drop 1).map fun p => mark :: p).reverse ++ [parts.headD []]).flatten
      else (rowsBy mark t).reverse.flatten

def mirrorLines : Utility :=
  withOptions [] 1 fun c f =>
    let mirror (row : Text) : Text :=
      if row.getLast? = some '\n' then row.dropLast.reverse ++ ['\n'] else row.reverse
    let reason (e : FileError) (path : Text) : Text :=
      "cannot open ".toList ++ path ++ (": " ++ e.reason).toList
    let g := c.gatherWith reason f.operands
    g.finish c ((rowsOf g.text).flatMap mirror) 1

/-! ### The beginning and the end -/

/-- A part of data: a number of lines or bytes, from the beginning or from the end. -/
structure Part.Amount where
  bytes : Bool := false
  count : Nat := 10
  opposite : Bool := false

def headOf (a : Part.Amount) (mark : Char) (t : Text) : Text :=
  if a.bytes then
    if a.opposite then t.take (t.length - a.count) else t.take a.count
  else
    let rows := rowsBy mark t
    (if a.opposite then rows.take (rows.length - a.count) else rows.take a.count).flatten

def tailOf (a : Part.Amount) (mark : Char) (t : Text) : Text :=
  if a.bytes then
    if a.opposite then t.drop (a.count - 1) else t.drop (t.length - a.count)
  else
    let rows := rowsBy mark t
    (if a.opposite then rows.drop (a.count - 1) else rows.drop (rows.length - a.count)).flatten

def withOldCount (flag : Char) (args : List Text) : List Text :=
  match args with
  | (s :: d :: rest) :: others =>
    if (s = '-' ∨ (s = '+' ∧ flag = 't')) ∧ d.isDigit then
      let digits := (d :: rest).takeWhile Char.isDigit
      let letters := rest.drop (digits.length - 1)
      let flags := letters.filter fun c => c = 'q' || c = 'v' || c = 'f'
      let bytes : Bool := letters.contains 'c'
      let unit := if letters.contains 'k' then ['k'] else if letters.contains 'b' then ['b'] else []
      let number := (if s = '+' then ['+'] else []) ++ digits ++ unit
      ((if bytes ∨ unit ≠ [] then "-c".toList else "-n".toList) ++ number) ::
        (flags.map fun c => ['-', c]) ++ others
    else args
  | args => args

/-- A program that shows a part of each of its operands, under headings if there are several. -/
def showPart (readingReason : String) (isTail : Bool) (part : Part.Amount → Char → Text → Text) :
    Utility :=
  fun c =>
    let specs := ["n= lines", "c= bytes", "q quiet silent", "v verbose", "z zero-terminated"] ++
      if isTail then ["f follow", "F", "s= sleep-interval", "pid=", "retry"] else []
    let args := withOldCount (if isTail then 't' else 'h') c.args
    match Options.read specs true args with
    | .error e => c.usage e 1
    | .ok f =>
      let given := f.flags.filter fun x => x.1 = "n" || x.1 = "c"
      let bytes : Bool := given.getLast?.any fun x => x.1 = "c"
      let text := (given.getLast?.map (·.2)).getD "10".toList
      let (sign, digits) : Option Char × Text := match text with
        | '-' :: ds => (some '-', ds)
        | '+' :: ds => (some '+', ds)
        | ds => (none, ds)
      match sized? digits with
      | none =>
        let what := if bytes then "bytes" else "lines"
        c.complainText (("invalid number of " ++ what ++ ": ").toList ++
          quote (if isTail then text.dropWhile (· = '-') else text)) 1
      | some count =>
        let opposite : Bool := if isTail then sign = some '+' else sign = some '-'
        let a : Part.Amount := { bytes, count, opposite }
        let mark := if f.has "z" then '\x00' else '\n'
        let operands := if f.operands.isEmpty then [['-']] else f.operands
        let headings := f.has "v" || (1 < operands.length && !f.has "q")
        let step (s : List (Nat × Text) × Nat × Text × Bool) (name : Text) :
            List (Nat × Text) × Nat × Text × Bool :=
          let (written, status, input, first) := s
          let heading (shownName : Text) : Text :=
            if headings then (if first then [] else ['\n']) ++ "==> ".toList ++ shownName ++
              " <==\n".toList else []
          if name = ['-'] then
            let out := part a mark input
            let left : Text := if isTail ∨ a.opposite then [] else input.drop out.length
            (written ++ [(1, heading "standard input".toList ++ out)], status, left, false)
          else match c.read name with
            | .ok t => (written ++ [(1, heading name ++ part a mark t)], status, input, false)
            | .error .isDirectory =>
              (written ++ [(1, heading name), (2, c.complaintLine (readingReason.toList ++
                quotedName name ++ ": Is a directory".toList))], 1, input, false)
            | .error e =>
              (written ++ [(2, c.complaintLine ("cannot open ".toList ++ quotedName name ++
                (" for reading: " ++ e.reason).toList))], 1, input, first)
        let (written, status, left, _) := operands.foldl step ([], 0, c.input, true)
        let finish : Finish := { written, status, unread := left, isExact := bytes }
        if isTail ∧ (f.has "f" ∨ f.has "F") then { finish with slept := 1000000000000000000000 }
        else finish

def takeFirst : Utility := showPart "error reading " false headOf

def takeLast : Utility := showPart "error reading " true tailOf

/-! ### Counting -/

structure Counts where
  lines : Nat := 0
  words : Nat := 0
  bytes : Nat := 0
  widest : Nat := 0

def countWords (t : Text) : Nat × Nat :=
  let step (s : Nat × Bool × Nat × Nat) (c : Char) : Nat × Bool × Nat × Nat :=
    let (words, inWord, column, widest) := s
    if c = '\n' ∨ c = '\r' ∨ c = '\x0c' then
      (if inWord then words + 1 else words, false, 0, max widest column)
    else if c = '\t' then
      (if inWord then words + 1 else words, false, (column / 8 + 1) * 8, widest)
    else if c = ' ' then (if inWord then words + 1 else words, false, column + 1, widest)
    else if c = '\x0b' then (if inWord then words + 1 else words, false, column, widest)
    else (words, true, if isPrintable c then column + 1 else column, widest)
  let (words, inWord, column, widest) := t.foldl step (0, false, 0, 0)
  (if inWord then words + 1 else words, max widest column)

def Counts.ofText (t : Text) : Counts :=
  let (words, widest) := countWords t
  { lines := t.count '\n', words, bytes := t.length, widest }

def Counts.add (a b : Counts) : Counts :=
  { lines := a.lines + b.lines, words := a.words + b.words, bytes := a.bytes + b.bytes
    widest := max a.widest b.widest }

def countAll : Utility :=
  withOptions ["l lines", "w words", "c bytes", "m chars", "L max-line-length", "total=",
    "files0-from="] 1 fun c f =>
    let flags := ["l", "w", "c", "m", "L"].filter f.has
    let columns (n : Counts) : List Nat :=
      if flags.isEmpty then [n.lines, n.words, n.bytes]
      else (if f.has "l" then [n.lines] else []) ++ (if f.has "w" then [n.words] else []) ++
        (if f.has "m" then [n.bytes] else []) ++ (if f.has "c" then [n.bytes] else []) ++
        (if f.has "L" then [n.widest] else [])
    let g := c.gather f.operands
    let single : Bool := flags.length = 1 && f.operands.length ≤ 1
    let isRegular : Bool := !f.operands.isEmpty && f.operands.all fun o =>
      o ≠ ['-'] && c.files.isFile (decode o)
    let total := g.contents.foldl (fun n x => n.add (.ofText x.2)) {}
    let width :=
      if single then 1
      else if f.operands.isEmpty then 7
      else if isRegular then (shown total.bytes).length
      else max 7 (shown total.bytes).length
    let line (n : Counts) (name : Text) : Text :=
      joinWith [' '] ((columns n).map fun k => padLeft width (shown k) ' ') ++
        (if name.isEmpty then [] else ' ' :: name) ++ ['\n']
    let one (x : Text × Text) : Text := line (.ofText x.2) (if f.operands.isEmpty then [] else x.1)
    let isDirectoryLines : List Text := (f.operands.filter c.isDirectory).map fun o => line {} o
    let totals := if 1 < f.operands.length then line total "total".toList else []
    g.finish c (g.contents.flatMap one ++ isDirectoryLines.flatten ++ totals) 1

/-! ### Numbering -/

inductive Numbering where
  | all
  | filled
  | none
  | matching (r : Posix)

def Numbering.ofText? (t : Text) : Option Numbering :=
  match t with
  | ['a'] => some .all
  | ['t'] => some .filled
  | ['n'] => some .none
  | 'p' :: e => match Posix.read { grammar := .basic } e with
    | .ok r => some (.matching r)
    | .error _ => Option.none
  | _ => Option.none

def Numbering.takes (n : Numbering) (line : Text) : Bool :=
  match n with
  | .all => true
  | .filled => !line.isEmpty
  | .none => false
  | .matching r => r.isIn line

structure NumberState where
  next : Int
  style : Numbering
  blanks : Nat := 0
  out : List Text := []

def numberLines : Utility :=
  withOptions ["b= body-numbering", "h= header-numbering", "f= footer-numbering",
    "v= starting-line-number", "i= line-increment", "l= join-blank-lines", "n= number-format",
    "w= number-width", "s= number-separator", "p no-renumber", "d= section-delimiter"] 1
    fun c f =>
    let hint := "\nTry '".toList ++ c.name ++ " --help' for more information.".toList
    let style (key usual : String) : Except Text Numbering :=
      let t := (f.value? key).getD usual.toList
      match Numbering.ofText? t with
      | some s => .ok s
      | Option.none =>
        let what := match key with
          | "b" => "body"
          | "h" => "header"
          | _ => "footer"
        if t.head? = some 'p' then .error "Invalid regular expression".toList
        else .error (("invalid " ++ what ++ " numbering style: ").toList ++ quote t ++ hint)
    let number (key what : String) (usual : Int) : Except Text Int :=
      match f.value? key with
      | Option.none => .ok usual
      | some t =>
        let (negative, ds) : Bool × Text := match t with
          | '-' :: ds => (true, ds)
          | ds => (false, ds)
        match natural? ds with
        | some n => .ok (if negative then -n else n)
        | Option.none => .error (("invalid " ++ what ++ ": ").toList ++ quote t)
    let run : Except Text Finish := do
      let body ← style "b" "t"
      let header ← style "h" "n"
      let footer ← style "f" "n"
      let start ← number "v" "starting line number" 1
      let increment ← number "i" "line number increment" 1
      let join ← number "l" "line number of blank lines" 1
      let width ← number "w" "line number field width" 6
      let separator := (f.value? "s").getD ['\t']
      let format := (f.value? "n").getD "rn".toList
      if !(["ln", "rn", "rz"].contains (String.ofList format)) then
        throw ("invalid line numbering format: ".toList ++ quote format ++ hint)
      if width < 1 then
        throw ("invalid line number field width: ".toList ++ quote ((f.value? "w").getD []) ++
          ": Numerical result out of range".toList)
      let width := width.toNat
      let mark := match f.value? "d" with
        | some [a] => [a, ':']
        | some d => d
        | Option.none => ['\\', ':']
      let shownNumber (n : Int) : Text :=
        match String.ofList format with
        | "ln" => padRight width (shownInt n) ' '
        | "rz" => (if n < 0 then ['-'] else []) ++
            padLeft (if n < 0 then width - 1 else width) (shown n.natAbs) '0'
        | _ => padLeft width (shownInt n) ' '
      let section? (line : Text) : Option Numbering :=
        if line = mark ++ mark ++ mark then some header
        else if line = mark ++ mark then some body
        else if line = mark then some footer
        else Option.none
      let step (s : NumberState) (row : Text) : NumberState :=
        let line := if row.getLast? = some '\n' then row.dropLast else row
        match section? line with
        | some style =>
          { s with style, out := ['\n'] :: s.out, next := if f.has "p" then s.next else start }
        | Option.none =>
          let blanks := if line.isEmpty then s.blanks + 1 else 0
          let wanted : Bool := s.style.takes line &&
            (!line.isEmpty || join ≤ 1 || blanks % join.toNat = 0)
          if wanted then
            { s with next := s.next + increment, blanks
                     out := (shownNumber s.next ++ separator ++ line ++ ['\n']) :: s.out }
          else
            let gap := List.replicate (width + separator.length) ' '
            { s with blanks, out := (gap ++ line ++ ['\n']) :: s.out }
      let g := c.gather f.operands
      let s := (rowsOf g.text).foldl step { next := start, style := body }
      return g.finish c s.out.reverse.flatten 1
    match run with
    | .ok r => r
    | .error e => c.complainText e 1

end StructuralEdit.Shell
