import StructuralEdit.Shell.Glob
import StructuralEdit.Shell.Posix.Search
import StructuralEdit.Shell.Utility.Basic
/-!
Searching the lines of data for patterns.
-/
namespace StructuralEdit.Shell

namespace Search

/-! ### Patterns -/

structure Wanted where
  patterns : List Posix
  wholeWords : Bool
  wholeLines : Bool

/-- The places at which matches of a pattern from a place end, the preferred ones first. -/
def endings (p : Posix) (t : Array Char) (i : Nat) : List (Nat × Nat) :=
  if p.looksBack ∨ p.takesFirst then
    match p.matchAt? t i with
    | some m => [(m.first, m.last)]
    | none => []
  else (Posix.ends t p.node [i]).reverse.map fun j => (i, j)

def Wanted.allows (w : Wanted) (t : Array Char) (m : Nat × Nat) : Bool :=
  (!w.wholeLines || (m.1 = 0 && m.2 = t.size)) &&
    (!w.wholeWords || w.wholeLines || (!Posix.wordBefore t m.1 && !Posix.wordAt t m.2))

def Wanted.matchAt? (w : Wanted) (t : Array Char) (i : Nat) : Option (Nat × Nat) :=
  let found := w.patterns.filterMap fun p => (endings p t i).find? (w.allows t)
  found.foldl (fun best m => match best with
    | none => some m
    | some b => if b.2 < m.2 then some m else some b) none

def Wanted.find? (w : Wanted) (t : Array Char) (start : Nat) : Option (Nat × Nat) :=
  let starts := (List.range (t.size + 1 - start)).map (· + start)
  let possible : Bool := w.patterns.any fun p => p.looksBack ||
    !(Posix.ends t p.node starts).isEmpty
  if possible then starts.findSome? (w.matchAt? t) else none

def Wanted.parts (w : Wanted) (t : Array Char) : Nat → Nat → List (Nat × Nat)
  | 0, _ => []
  | n + 1, i =>
    match w.find? t i with
    | none => []
    | some (first, last) =>
      if first = last then w.parts t n (last + 1)
      else (first, last) :: w.parts t n last

def perlMessage : Posix.Mistake → String
  | .badExpression | .openBracket => "missing terminating ] for character class"
  | .badClass | .badCollation => "unknown POSIX class name"
  | .badRange => "range out of order in character class"
  | .openGroup => "missing closing parenthesis"
  | .closedGroup => "unmatched closing parenthesis"
  | .openInterval | .badInterval => "numbers out of order in \x7b\x7d quantifier"
  | .noOperand => "quantifier does not follow a repeatable item"
  | .trailingBackslash => "\\ at end of pattern"
  | .badReference => "reference to non-existent subpattern"
  | .tooBig => "number too big in \x7b\x7d quantifier"

def fixed (ignoresCase : Bool) (t : Text) : Posix :=
  let o : Posix.Options := { grammar := .basic, ignoresCase }
  { node := t.foldr (fun c rest => .seq (Posix.literal o c) rest) .empty
    groups := 0, looksBack := false, ignoresCase, takesFirst := false }

def isLoneClass (t : Text) : Bool :=
  let isAt (t : Text) : Bool :=
    match t with
    | '[' :: ':' :: rest =>
      let name := rest.takeWhile Char.isLower
      !name.isEmpty && (rest.drop name.length).take 2 = [':', ']']
    | _ => false
  let rec go : Bool → Text → Bool
    | _, [] => false
    | inside, '[' :: t => (!inside && isAt ('[' :: t)) || go true t
    | _, ']' :: t => go false t
    | inside, _ :: t => go inside t
  go false t

def strayOperators (t : Text) : List Text :=
  let rec go : Nat → Bool → Text → List Text
    | 0, _, _ => []
    | _ + 1, _, [] => []
    | n + 1, _, '\\' :: _ :: t => go n false t
    | n + 1, _, '[' :: t =>
      let t := if t.head? = some '^' then t.tail else t
      let t := if t.head? = some ']' then t.tail else t
      go n false (t.dropWhile (· ≠ ']')).tail
    | n + 1, _, '(' :: t | n + 1, _, '|' :: t | n + 1, _, '\n' :: t => go n true t
    | n + 1, isStart, '^' :: t => go n isStart t
    | n + 1, true, '\x7b' :: t =>
      let inner := t.takeWhile (· ≠ '\x7d')
      if inner ≠ [] ∧ inner.all (fun c => c.isDigit || c = ',') then
        "\x7b...\x7d".toList :: go n true (t.drop (inner.length + 1))
      else go n false t
    | n + 1, true, c :: t =>
      if c = '*' ∨ c = '+' ∨ c = '?' then [c] :: go n true t else go n false t
    | n + 1, false, _ :: t => go n false t
  go (t.length + 1) true t

/-! ### Lines -/

structure Options where
  inverted : Bool
  counts : Bool
  onlyParts : Bool
  quiet : Bool
  /-- Names of files with a line that is selected, or without one. -/
  lists : Option Bool
  numbers : Bool
  offsets : Bool
  tabs : Bool
  nulls : Bool
  before : Nat
  after : Nat
  limit : Option Nat
  mark : Char
  separator : Option Text
  binaries : Option Bool
  colored : Bool := false

def Options.paint (o : Options) (color : String) (t : Text) : Text :=
  if o.colored then
    ("\x1b[" ++ color ++ "m\x1b[K").toList ++ t ++ "\x1b[m\x1b[K".toList
  else t

structure Line where
  number : Nat
  offset : Nat
  text : Text

def linesWithPlaces (mark : Char) (t : Text) : List Line :=
  ((linesBy mark t).foldl (fun (lines, number, offset) text =>
    (({ number, offset, text } : Line) :: lines, number + 1, offset + text.length + 1))
    (([] : List Line), 1, 0)).1.reverse

/-- How far the search of some data has come. -/
structure Progress where
  out : List Text := []
  count : Nat := 0
  passed : List Line := []
  lastShown : Option Nat := none
  pending : Nat := 0
  isOver : Bool := false

def lead (o : Options) (name : Option Text) (sign : Char) (number offset : Nat) : Text :=
  let sep := o.paint "36" [sign]
  let width (n : Nat) (w : Nat) : Text := if o.tabs then padLeft w (shown n) ' ' else shown n
  let name := match name with
    | some n => o.paint "35" n ++ if o.nulls then ['\x00'] else sep
    | none => []
  let t := name ++ (if o.numbers then o.paint "32" (width number 19) ++ sep else []) ++
    (if o.offsets then o.paint "32" (width offset 19) ++ sep else [])
  if o.tabs ∧ !t.isEmpty then t ++ ['\t'] else t

def Progress.showLine (o : Options) (name : Option Text) (sign : Char) (l : Line) (p : Progress) :
    Progress :=
  let gap : Bool := (0 < o.before || 0 < o.after || o.separator.isSome) &&
    p.lastShown.any fun n => n + 1 < l.number
  let separator := match gap, o.separator with
    | true, some s => o.paint "36" s ++ ['\n']
    | _, _ => []
  { p with
    out := (separator ++ lead o name sign l.number l.offset ++ l.text ++ [o.mark]) :: p.out
    lastShown := some l.number }

def highlighted (o : Options) (w : Wanted) (l : Line) : Line :=
  if !o.colored ∨ o.inverted then l
  else
    let t := l.text.toArray
    let (out, last) := (w.parts t (t.size + 2) 0).foldl (fun (out, i) (first, last) =>
      (out ++ (t.extract i first).toList ++
        o.paint "01;31" (t.extract first last).toList, last)) (([] : Text), 0)
    { l with text := out ++ (t.extract last t.size).toList }

def Progress.step (o : Options) (w : Wanted) (name : Option Text) (p : Progress) (l : Line) :
    Progress :=
  let t := l.text.toArray
  if p.isOver ∧ p.pending = 0 then p
  else
    let selected : Bool := (w.find? t 0).isSome != o.inverted
    let silent : Bool := o.quiet || o.counts || o.lists.isSome
    if p.isOver then
      if silent then { p with pending := 0 }
      else { p.showLine o name '-' l with pending := p.pending - 1 }
    else if selected then
      let p := { p with count := p.count + 1 }
      let p :=
        if silent then p
        else if o.onlyParts then
          if o.inverted then p
          else
            let parts := (w.parts t (t.size + 2) 0).map fun (first, last) =>
              lead o name ':' l.number (l.offset + first) ++
                o.paint "01;31" (t.extract first last).toList ++ [o.mark]
            { p with out := parts.reverse ++ p.out }
        else
          let p := (p.passed.take o.before).reverse.foldl (fun p l => p.showLine o name '-' l) p
          { p.showLine o name ':' (highlighted o w l) with passed := [], pending := o.after }
      { p with isOver := o.limit.any (· ≤ p.count) || o.quiet || o.lists.isSome }
    else if silent ∨ o.onlyParts then p
    else if 0 < p.pending then
      { p.showLine o name '-' l with pending := p.pending - 1, passed := [] }
    else { p with passed := l :: p.passed.take o.before }

def searchText (o : Options) (w : Wanted) (name : Option Text) (label : Text) (t : Text) :
    List (Nat × Text) × Nat :=
  let isBinary : Bool := o.mark = '\n' && t.contains '\x00'
  if isBinary ∧ o.binaries = some false then ([], 0)
  else
    let hides : Bool := isBinary && o.binaries.isNone
    let inner := if hides then { o with limit := some 1 } else o
    let p : Progress := { isOver := o.limit = some 0 }
    let result := (linesWithPlaces o.mark t).foldl (·.step (if o.counts then o else inner) w name) p
    let nameEnd := if o.nulls then ['\x00'] else o.paint "36" [':']
    let out : List (Nat × Text) :=
      if o.quiet then []
      else match o.lists with
        | some wanted =>
          if (0 < result.count) == wanted then
            [(1, o.paint "35" label ++ (if o.nulls then ['\x00'] else ['\n']))]
          else []
        | none =>
          if o.counts then
            [(1, (name.elim [] fun n => o.paint "35" n ++ nameEnd) ++ shown result.count ++ ['\n'])]
          else if hides then
            if 0 < result.count then
              [(2, "grep: ".toList ++ label ++ ": binary file matches\n".toList)]
            else []
          else [(1, result.out.reverse.flatten)]
    (out, result.count)

/-! ### Files -/

def filesUnder (c : Call) (skips : Text → Bool) : Nat → Text → List Text
  | 0, _ => []
  | n + 1, path =>
    match c.files.names (decode (if path.isEmpty then ['.'] else path)) with
    | .error _ => [path]
    | .ok names => names.flatMap fun name =>
      let name := encode name
      let inner := if path.isEmpty then name
        else if path.getLast? = some '/' then path ++ name else path ++ '/' :: name
      if c.isDirectory inner ∧ skips name then [] else filesUnder c skips n inner

def baseName (path : Text) : Text := (path.reverse.takeWhile (· ≠ '/')).reverse

end Search

open Search in
/-- Searches for patterns, which are written as the name of the program and its options say. -/
def searchLines (grammar : Option Posix.Grammar) : Utility := fun c =>
  let specs := ["E extended-regexp", "F fixed-strings", "G basic-regexp", "P perl-regexp",
    "e= regexp", "f= file", "i y ignore-case", "no-ignore-case", "w word-regexp", "x line-regexp",
    "z null-data", "s no-messages", "v invert-match", "m= max-count", "b byte-offset",
    "n line-number", "line-buffered", "H with-filename", "h no-filename", "label=",
    "o only-matching", "q quiet silent", "binary-files=", "a text", "I", "d= directories",
    "D= devices", "r recursive", "R dereference-recursive", "include=", "exclude=",
    "exclude-from=", "exclude-dir=", "L files-without-match", "l files-with-matches", "c count",
    "T initial-tab", "Z null", "B= before-context", "A= after-context", "C= context",
    "group-separator=", "no-group-separator", "color=? colour", "U binary", "u unix-byte-offsets",
    "0", "1", "2", "3", "4", "5", "6", "7", "8", "9"]
  let usage := "Usage: grep [OPTION]... PATTERNS [FILE]...\n" ++
    "Try 'grep --help' for more information.\n"
  let fail (message : Text) : Finish :=
    { c.finish [] 2 with written := [(2, "grep: ".toList ++ message ++ ['\n'])] }
  match Options.read specs true c.args with
  | .error e => { c.finish [] 2 with
      written := [(2, "grep: ".toList ++ e ++ ['\n'] ++ usage.toList)] }
  | .ok f =>
    let run : Except Finish Finish := do
      let kinds := (f.flags.filter fun x => ["E", "F", "G", "P"].contains x.1).map (·.1)
      if kinds.any fun k => kinds.any fun l => k ≠ l then
        throw (fail "conflicting matchers specified".toList)
      let length (key : String) : Except Finish (Option Nat) :=
        match f.value? key with
        | none => .ok none
        | some t => match natural? t with
          | some n => .ok (some n)
          | none => .error (fail (t ++ ": invalid context length argument".toList))
      let digits := (f.flags.filter fun x => x.1.length = 1 && x.1.toList.all Char.isDigit).flatMap
        fun x => x.1.toList
      let around ← length "C"
      let around := if digits.isEmpty then around else some (ofDigits 10 digits)
      let before ← length "B"
      let after ← length "A"
      let limit : Option Nat ← match f.value? "m" with
        | none => pure none
        | some t => match natural? t, t with
          | some n, _ => pure (some n)
          | none, '-' :: ds =>
            if (natural? ds).isSome then pure none else throw (fail "invalid max count".toList)
          | none, _ => throw (fail "invalid max count".toList)
      let binaries : Option Bool ← match f.last? ["binary-files", "a", "I"] with
        | some "a" => pure (some true)
        | some "I" => pure (some false)
        | some _ =>
          match (f.value? "binary-files").map String.ofList with
          | some "text" => pure (some true)
          | some "without-match" => pure (some false)
          | some "binary" => pure none
          | _ => throw (fail "unknown binary-files type".toList)
        | none => pure none
      /- Patterns. -/
      let given : List (String × Text) := f.flags.filter fun x => x.1 = "e" || x.1 = "f"
      let (lines, operands) : List Text × List Text ←
        if given.isEmpty then
          match f.operands with
          | [] => throw { c.finish [] 2 with written := [(2, usage.toList)] }
          | p :: rest => pure (p.splitOn '\n', rest)
        else do
          let groups ← given.mapM fun (key, value) =>
            if key = "e" then .ok (value.splitOn '\n')
            else match (if value = ['-'] then .ok c.input else c.read value) with
              | .ok t => .ok (linesOf t)
              | .error e => .error (fail (value ++ (": " ++ e.reason).toList))
          pure (groups.flatten, f.operands)
      let kind : String := match kinds.getLast?, grammar with
        | some k, _ => k
        | none, some .lenient => "E"
        | none, some .basic => "G"
        | none, _ => "F"
      let ignoresCase : Bool := f.last? ["i", "no-ignore-case"] = some "i"
      if kind = "P" ∧ 1 < lines.length then
        throw (fail "the -P option only supports a single pattern".toList)
      let warnings := if kind = "E" then lines.flatMap strayOperators else []
      let warningText := warnings.flatMap fun w =>
        "grep: warning: ".toList ++ w ++ " at start of expression\n".toList
      let failWith (message : String) : Finish :=
        { c.finish [] 2 with
          written := [(2, warningText ++ ("grep: " ++ message ++ "\n").toList)] }
      let patterns ← lines.mapM fun line =>
        if kind = "F" then .ok (fixed ignoresCase line)
        else
          let g : Posix.Grammar :=
            if kind = "G" then .basic else if kind = "P" then .perl else .lenient
          if kind ≠ "P" ∧ isLoneClass line then
            .error (failWith "character class syntax is [[:space:]], not [:space:]")
          else match Posix.read { grammar := g, ignoresCase } line with
            | .ok p => .ok p
            | .error e => .error (failWith (if kind = "P" then perlMessage e else e.message))
      let isVain : Bool := (lines.isEmpty && !f.has "v") || limit = some 0
      if isVain then throw (c.finish [] 1)
      let wanted : Wanted :=
        { patterns, wholeWords := f.has "w", wholeLines := f.has "x" }
      /- Files. -/
      let recursive : Bool := f.has "r" || f.has "R" ||
        (f.value? "d").any fun d => d = "recurse".toList
      let skipsDirectories : Bool := (f.value? "d").any fun d => d = "skip".toList
      let globs (key : String) : List Glob := (f.values key).map Glob.ofText
      let skipsDirectory (name : Text) : Bool := (globs "exclude-dir").any (·.accepts name)
      let allows (path : Text) : Bool :=
        ((globs "include").isEmpty || (globs "include").any (·.accepts (baseName path))) &&
          !(globs "exclude").any (·.accepts (baseName path))
      let depth := 100
      let names : List Text :=
        if operands.isEmpty then
          if recursive then (filesUnder c skipsDirectory depth []).filter allows else [['-']]
        else if recursive then
          operands.flatMap fun o =>
            if c.isDirectory o then (filesUnder c skipsDirectory depth o).filter allows else [o]
        else operands
      let named : Bool := match f.last? ["H", "h"] with
        | some "H" => true
        | some _ => false
        | none => 1 < operands.length || (recursive && (operands.isEmpty ||
            operands.any c.isDirectory))
      let lists : Option Bool := match f.last? ["l", "L"] with
        | some "l" => some true
        | some _ => some false
        | none => none
      let before := (before.orElse fun _ => around).getD 0
      let after := (after.orElse fun _ => around).getD 0
      let o : Search.Options :=
        { inverted := f.has "v", counts := f.has "c" && lists.isNone, onlyParts := f.has "o"
          quiet := f.has "q", lists, numbers := f.has "n", offsets := f.has "b", tabs := f.has "T"
          nulls := f.has "Z", before, after, limit, mark := if f.has "z" then '\x00' else '\n'
          separator :=
            if f.has "no-group-separator" then none
            else if 0 < before ∨ 0 < after ∨ around.isSome then
              some ((f.value? "group-separator").getD ['-', '-'])
            else none
          binaries, colored := (f.value? "color").any fun v => v = "always".toList }
      let step (s : List (Nat × Text) × Nat × Bool × Bool) (name : Text) :
          List (Nat × Text) × Nat × Bool × Bool :=
        let (written, count, failed, usedInput) := s
        if o.quiet ∧ 0 < count then s
        else
          let isInput : Bool := name = ['-']
          let label := if isInput then (f.value? "label").getD "(standard input)".toList else name
          let shownName := if named then some label else none
          match if isInput then .ok (if usedInput then [] else c.input) else c.read name with
          | .ok t =>
            let (out, n) := searchText o wanted shownName label t
            (written ++ out, count + n, failed, usedInput || isInput)
          | .error e =>
            if e = .isDirectory ∧ skipsDirectories then s
            else
              let complaint := "grep: ".toList ++ name ++ (": " ++ e.reason ++ "\n").toList
              (if f.has "s" then written else written ++ [(2, complaint)], count, true, usedInput)
      let (written, count, failed, usedInput) := names.foldl step ([], 0, false, false)
      let status := if failed ∧ !(o.quiet && 0 < count) then 2 else if 0 < count then 0 else 1
      return { written := (2, warningText) :: written, status
               unread := if usedInput then [] else c.input }
    match run with
    | .ok r => r
    | .error r => r

end StructuralEdit.Shell
