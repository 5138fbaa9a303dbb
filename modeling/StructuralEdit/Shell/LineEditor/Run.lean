import StructuralEdit.Shell.LineEditor.Reader
import StructuralEdit.Shell.Utility.Basic
/-!
Running the scripts of the line editor over the lines of files.
-/
namespace StructuralEdit.Shell.LineEditor

/-- A line of the input, with the name of its file. -/
structure Line where
  text : Text
  isEnded : Bool
  file : Text
  /-- Whether it is the last line, or the last one of its file if files are apart. -/
  isLast : Bool

inductive Progress where
  | idle
  | active (last : Option Nat)
  | over
  deriving DecidableEq

/-- Something that is written at the end of a round. -/
inductive Pending where
  | text (t : Text)
  | file (path : Text)

/-- What has been written to one place. A last line may lack its end. -/
structure Output where
  parts : List Text := []
  lacksEnd : Bool := false

structure Setting where
  silent : Bool := false
  mark : Char := '\n'
  width : Nat := 70
  apart : Bool := false
  inPlace : Bool := false
  execute : Text → Text := fun _ => []
  read : Text → Option Text

structure State where
  space : Text := []
  isEnded : Bool := true
  held : Text := []
  heldIsEnded : Bool := true
  lines : List Line
  current : Option Line := none
  number : Nat := 0
  ranges : List (Nat × Progress) := []
  substituted : Bool := false
  lastPattern : Option Posix := none
  pending : List Pending := []
  out : Output := {}
  files : List (Text × Output) := []
  sources : List (Text × List Text) := []
  edited : List (Text × Output) := []
  problem : Option Text := none
  status : Option Nat := none

/-! ### Output -/

def Output.completed (mark : Char) (o : Output) : Output :=
  if o.lacksEnd then { parts := [mark] :: o.parts } else o

def Output.line (mark : Char) (t : Text) (isEnded : Bool) (o : Output) : Output :=
  let o := o.completed mark
  { parts := (if isEnded then t ++ [mark] else t) :: o.parts, lacksEnd := !isEnded }

def Output.raw (mark : Char) (t : Text) (o : Output) : Output :=
  let o := o.completed mark
  if t.isEmpty then o else { o with parts := t :: o.parts }

def Output.text (o : Output) : Text := o.parts.reverse.flatten

namespace State

def printLine (g : Setting) (t : Text) (isEnded : Bool) (s : State) : State :=
  { s with out := s.out.line g.mark t isEnded }

def printRaw (g : Setting) (t : Text) (s : State) : State :=
  { s with out := s.out.raw g.mark t }

def isOutput (path : Text) : Bool := path = "/dev/stdout".toList

def writeLine (g : Setting) (path t : Text) (isEnded : Bool) (s : State) : State :=
  if isOutput path ∧ !g.inPlace then s.printLine g t isEnded
  else
    let o := (s.files.lookup path).getD {}
    { s with files := (path, o.line g.mark t isEnded) :: s.files.filter fun f => f.1 ≠ path }

def writePending (g : Setting) (s : State) : State :=
  let s' := s.pending.reverse.foldl (fun s p =>
    match p with
    | .text t => s.printRaw g t
    | .file path =>
      match g.read path with
      | some t => s.printRaw g t
      | none => s.printRaw g []) s
  { s' with pending := [] }

/-! ### Input -/

def endFile (g : Setting) (s : State) : State :=
  match g.inPlace, s.current with
  | true, some line => { s with edited := (line.file, s.out) :: s.edited, out := {} }
  | _, _ => s

/-- Takes the next line, which is added to what is held in the space, or takes its place. -/
def readLine? (g : Setting) (adds : Bool) (s : State) : Option State :=
  match s.lines with
  | [] => none
  | line :: lines =>
    let s := s.writePending g
    let changes : Bool := g.apart && s.current.any fun c => c.isLast
    let s := if changes then s.endFile g else s
    some { s with
      space := if adds then s.space ++ g.mark :: line.text else line.text
      isEnded := line.isEnded, lines, current := some line, substituted := false
      number := if changes then 1 else s.number + 1 }

def isAtLast (s : State) : Bool := s.current.any fun l => l.isLast

def isAtEnd (s : State) : Bool := s.lines.isEmpty

/-! ### Patterns -/

def noPattern (s : State) : State :=
  { s with
    problem := some "-e expression #1, char 0: no previous regular expression".toList
    status := some 1 }

def resolve (p : Pattern) (s : State) : Option Posix × State :=
  match p with
  | some p => (some p, { s with lastPattern := some p })
  | none => match s.lastPattern with
    | some p => (some p, s)
    | none => (none, s.noPattern)

def matchesSpace (p : Pattern) (s : State) : Bool × State :=
  match s.resolve p with
  | (some p, s) => (p.isIn s.space, s)
  | (none, s) => (false, s)

/-! ### Selection -/

def setRange (place : Nat) (p : Progress) (s : State) : State :=
  { s with ranges := (place, p) :: s.ranges.filter fun r => r.1 ≠ place }

def holdsAt (a : Address) (s : State) : Bool × State :=
  match a with
  | .line n => (s.number = n, s)
  | .step first step =>
    (if step = 0 then s.number = first
      else first ≤ s.number && (s.number - first) % step = 0, s)
  | .last => (s.isAtLast, s)
  | .pattern p => s.matchesSpace p

def startRange (place : Nat) (b : Bound) (s : State) : Bool × State :=
  match b with
  | .line n => (true, s.setRange place (if n ≤ s.number then .over else .active (some n)))
  | .more n =>
    (true, s.setRange place (if n = 0 then .over else .active (some (s.number + n))))
  | .multiple n =>
    let last := if n = 0 then s.number else (s.number / n + 1) * n
    (true, s.setRange place (if last ≤ s.number then .over else .active (some last)))
  | .last => (true, s.setRange place (if s.isAtLast then .over else .active none))
  | .pattern _ => (true, s.setRange place (.active none))

def selects (place : Nat) (sel : Selection) (s : State) : Bool × State :=
  match sel with
  | .all => (true, s)
  | .one a => s.holdsAt a
  | .range a b =>
    let progress := match s.ranges.lookup place, a with
      | some p, _ => p
      | none, .line 0 => .active none
      | none, _ => .idle
    match progress with
    | .active (some last) =>
      let isLine : Bool := match b with
        | .line _ => true
        | _ => false
      (!isLine || s.number ≤ last, if last ≤ s.number then s.setRange place .over else s)
    | .active none =>
      let (ends, s) : Bool × State := match b with
        | .pattern p => s.matchesSpace p
        | .last => (s.isAtLast, s)
        | _ => (false, s)
      (true, if ends then s.setRange place .over else s)
    | progress =>
      match a with
      | .line n =>
        if progress = .over ∨ s.number < n then (false, s)
        else match b with
          | .line k =>
            if k ≤ s.number then
              (s.number = n || s.number ≤ k, s.setRange place .over)
            else s.startRange place b
          | _ => s.startRange place b
      | a =>
        let (starts, s) := s.holdsAt a
        if starts then s.startRange place b else (false, s)

/-! ### Substitution -/

/-- The case that text is put in: of all of it, and of its first character. -/
structure Casing where
  all : Option Bool := none
  first : Option Bool := none

def inCase (upper : Bool) (c : Char) : Char := if upper then c.toUpper else c.toLower

def Casing.apply (k : Casing) (t : Text) : Text × Casing :=
  let t := match k.all with
    | some upper => t.map (inCase upper)
    | none => t
  match t, k.first with
  | c :: rest, some upper => (inCase upper c :: rest, { k with first := none })
  | t, _ => (t, k)

def replacementText (parts : List Replacement) (t : Array Char) (m : Posix.Match) : Text :=
  (parts.foldl (fun (out, k) p =>
    let add (x : Text) : List Text × Casing :=
      let (x, k) := k.apply x
      (x :: out, k)
    match p with
    | .text x => add x
    | .group n => add (m.part t n)
    | .case upper => (out, { k with all := upper })
    | .firstCase upper => (out, { k with first := some upper }))
    (([] : List Text), ({} : Casing))).1.reverse.flatten

/-- Replaces matches from a place on. The answer has the text behind that place and whether
something has been replaced. The first argument bounds the number of matches. -/
def replaceFrom (sub : Substitution) (p : Posix) (t : Array Char) :
    Nat → Nat → Nat → Option Nat → List Text → Bool → Text × Bool
  | 0, _, _, _, out, done => (out.reverse.flatten, done)
  | fuel + 1, count, i, before, out, done =>
    let rest : Text := (t.extract i t.size).toList
    let finish : Text × Bool := ((rest :: out).reverse.flatten, done)
    if t.size < i then finish
    else match p.find? t i with
      | none => finish
      | some m =>
        let skipped : Text := (t.extract i m.first).toList
        let isEmpty : Bool := m.first = m.last
        let one : Text := (t.extract m.first (m.first + 1)).toList
        if isEmpty ∧ before = some m.first then
          replaceFrom sub p t fuel count (m.first + 1) none (one :: skipped :: out) done
        else
          let count := count + 1
          let isWanted : Bool := count = sub.number || (sub.everywhere && sub.number ≤ count)
          let whole : Text := (t.extract m.first m.last).toList
          let piece := if isWanted then replacementText sub.replacement t m else whole
          let done := done || isWanted
          if isEmpty then
            if isWanted ∧ !sub.everywhere then
              (((t.extract m.first t.size).toList :: piece :: skipped :: out).reverse.flatten, done)
            else
              replaceFrom sub p t fuel count (m.first + 1) none (one :: piece :: skipped :: out)
                done
          else if isWanted ∧ !sub.everywhere then
            (((t.extract m.last t.size).toList :: piece :: skipped :: out).reverse.flatten, done)
          else
            replaceFrom sub p t fuel count m.last (some m.last) (piece :: skipped :: out) done

def substitute (g : Setting) (sub : Substitution) (s : State) : State :=
  match s.resolve sub.pattern with
  | (none, s) => s
  | (some p, s) =>
    let t := s.space.toArray
    let (space, done) := replaceFrom sub p t (t.size + 2) 0 0 none [] false
    if !done then s
    else
      let s := { s with space, substituted := true }
      let s := if sub.executes then
          let out := g.execute s.space
          { s with space := if out.getLast? = some '\n' then out.dropLast else out }
        else s
      let s := if sub.prints then s.printLine g s.space s.isEnded else s
      match sub.file with
      | some path => s.writeLine g path s.space s.isEnded
      | none => s

/-! ### Commands -/

def listed (c : Char) : Text :=
  match c with
  | '\\' => "\\\\".toList
  | '\x07' => "\\a".toList
  | '\x08' => "\\b".toList
  | '\x0c' => "\\f".toList
  | '\n' => "\\n".toList
  | '\r' => "\\r".toList
  | '\t' => "\\t".toList
  | '\x0b' => "\\v".toList
  | c => if isPrintable c then [c] else '\\' :: padLeft 3 (digitsIn 8 c.toNat) '0'

def listing (mark : Char) (width : Nat) (t : Text) : Text :=
  let (out, _) := t.foldl (fun (out, column) c =>
    let e := listed c
    if 0 < width ∧ width < column + e.length + 1 then
      (e :: ['\\', '\n'] :: out, e.length)
    else (e :: out, column + e.length)) (([] : List Text), 0)
  out.reverse.flatten ++ ['$', mark]

inductive Next where
  | at (place : Nat)
  | finish (prints : Bool)
  | again
  | quit (status : Nat) (prints : Bool)

def firstLine (g : Setting) (s : State) : Text := s.space.takeWhile (· ≠ g.mark)

def perform (g : Setting) (place : Nat) (c : Command) (s : State) : Next × State :=
  let onward (s : State) : Next × State := (.at (place + 1), s)
  let jump : Option Nat → Next
    | some n => .at n
    | none => .finish true
  match c.action with
  | .block _ | .nothing => onward s
  | .append t => onward { s with pending := .text t :: s.pending }
  | .insert t => onward (s.printRaw g t)
  | .change t =>
    let isInside : Bool := match c.selection, s.ranges.lookup place with
      | .range .., some (.active _) => !c.negated
      | _, _ => false
    (.finish false, if isInside then s else s.printRaw g t)
  | .jump _ target => (jump target, s)
  | .jumpIf wanted _ target =>
    let next := if s.substituted == wanted then jump target else .at (place + 1)
    (next, { s with substituted := false })
  | .delete => (.finish false, s)
  | .deleteFirst =>
    if s.space.contains g.mark then
      (.again, { s with space := (s.space.dropWhile (· ≠ g.mark)).tail })
    else (.finish false, s)
  | .execute command =>
    if command.isEmpty then
      let out := g.execute s.space
      onward { s with space := if out.getLast? = some '\n' then out.dropLast else out }
    else onward (s.printRaw g (g.execute command))
  | .fileName => onward (s.printRaw g ((s.current.elim ['-'] (·.file)) ++ ['\n']))
  | .get => onward { s with space := s.held, isEnded := s.heldIsEnded }
  | .getMore =>
    onward { s with
      space := s.space ++ g.mark :: s.held, isEnded := s.isEnded && s.heldIsEnded }
  | .hold => onward { s with held := s.space, heldIsEnded := s.isEnded }
  | .holdMore =>
    onward { s with
      held := s.held ++ g.mark :: s.space, heldIsEnded := s.heldIsEnded && s.isEnded }
  | .exchange =>
    onward { s with
      space := s.held, held := s.space, isEnded := s.heldIsEnded, heldIsEnded := s.isEnded }
  | .list width => onward (s.printRaw g (listing g.mark (width.getD g.width) s.space))
  | .next =>
    if s.isAtEnd then (.quit 0 true, s)
    else
      let s := if g.silent then s else s.printLine g s.space s.isEnded
      match s.readLine? g false with
      | some s => onward s
      | none => (.quit 0 false, s)
  | .nextMore =>
    match s.readLine? g true with
    | some s => onward s
    | none => (.quit 0 true, s)
  | .print => onward (s.printLine g s.space s.isEnded)
  | .printFirst => onward (s.printLine g (s.firstLine g) true)
  | .number => onward (s.printRaw g (shown s.number ++ ['\n']))
  | .quit status quietly => (.quit status !quietly, if quietly then { s with pending := [] } else s)
  | .readFile path => onward { s with pending := .file path :: s.pending }
  | .readLine path =>
    let rows := (s.sources.lookup path).getD (linesOf ((g.read path).getD []))
    match rows with
    | [] => onward s
    | row :: rows =>
      onward { s with
        pending := .text (row ++ ['\n']) :: s.pending
        sources := (path, rows) :: s.sources.filter fun x => x.1 ≠ path }
  | .substitute sub => onward (s.substitute g sub)
  | .replaceChars table => onward { s with space := s.space.map fun c => (table.lookup c).getD c }
  | .writeFile path => onward (s.writeLine g path s.space s.isEnded)
  | .writeFirst path => onward (s.writeLine g path (s.firstLine g) true)
  | .clear => onward { s with space := [] }

def endRound (g : Setting) (prints : Bool) (s : State) : State :=
  let s := if prints ∧ !g.silent then s.printLine g s.space s.isEnded else s
  s.writePending g

def run (g : Setting) (commands : Array Command) : Nat → Nat → State → State
  | 0, _, s => s
  | fuel + 1, place, s =>
    let round (s : State) : State :=
      match s.readLine? g false with
      | some s => run g commands fuel 0 s
      | none => { (s.endFile g) with status := some 0 }
    if s.status.isSome then s
    else match commands[place]? with
      | none => round (s.endRound g true)
      | some c =>
        let (isSelected, s) := s.selects place c.selection
        if s.status.isSome then s
        else if isSelected == c.negated then
          let next := match c.action with
            | .block finish => finish
            | _ => place + 1
          run g commands fuel next s
        else
          let (next, s) := s.perform g place c
          match next with
          | .at n => run g commands fuel n s
          | .finish prints => round (s.endRound g prints)
          | .again => run g commands fuel 0 (s.endRound g false)
          | .quit status prints =>
            let s := s.endRound g prints
            /- The rest of a file that is edited in place stays as it is. -/
            let kept := if g.inPlace then s.lines else []
            let s := kept.foldl (fun s l =>
              let s := if s.current.any fun c => c.isLast then s.endFile g else s
              { s.printLine g l.text l.isEnded with current := some l }) s
            { (s.endFile g) with status := some status }

end State

end StructuralEdit.Shell.LineEditor
