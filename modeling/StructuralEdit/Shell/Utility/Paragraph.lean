import StructuralEdit.Shell.Utility.Basic
/-!
Filling paragraphs: the words of each are put into lines of nearly the same length, so that the
costs of all line ends together are as low as possible.
-/
namespace StructuralEdit.Shell

namespace Filling

structure Style where
  width : Nat := 75
  goal : Nat := 70
  /-- Whether the second line says how far the rest is indented. -/
  crown : Bool := false
  tagged : Bool := false
  splits : Bool := false
  uniform : Bool := false
  mark : Text := []
  lead : Nat := 0
  fullLength : Nat := 0

structure Word where
  text : Text
  space : Nat := 1
  opens : Bool := false
  period : Bool := false
  punctuation : Bool := false
  final : Bool := false

def Word.length (w : Word) : Nat := w.text.length

def Word.ofText (t : Text) : Word :=
  let last := t.getLastD ' '
  let core := (t.tail.reverse.dropWhile fun c => ")]'\"".toList.contains c).reverse
  { text := t
    opens := "(['\x60\"".toList.contains (t.headD ' ')
    punctuation := isPunctuation last
    period := ".?!".toList.contains ((t.take 1 ++ core).getLastD ' ') }

/-! ### Costs -/

/-- A word with the best way to go on from a line that begins with it. -/
structure Cell where
  word : Word
  cost : Int
  line : Nat
  count : Nat
  isLast : Bool

def square (n : Int) : Int := n * n

def shortCost (n : Int) : Int := square (n * 10)

def raggedCost (n : Int) : Int := shortCost n / 2

/-- What it costs to begin a line with a word, given the two words in front of it. -/
def baseCost (before₂ before₁ : Option Word) (w : Word) : Int :=
  let fromBefore : Int := match before₁ with
    | none => 0
    | some b =>
      if b.period then (if b.final then -square 50 else square 600)
      else if b.punctuation then -square 40
      else if before₂.any (·.final) then square 200 / (b.length + 2)
      else 0
  let own : Int :=
    if w.opens then -square 40
    else if w.final then square 150 / (w.length + 2)
    else 0
  square 70 + fromBefore + own

def lineCost (s : Style) (next : Option Cell) (length : Nat) : Int :=
  match next with
  | none => 0
  | some c =>
    shortCost ((s.goal : Int) - length) +
      (if c.isLast then 0 else raggedCost ((length : Int) - c.line))

/-- The best end of a line: its cost, the length of the line and the number of its words. -/
def bestEnd (s : Style) (extra : Nat → Int) :
    List Cell → Word → Nat → Nat → Option (Int × Nat × Nat) → Option (Int × Nat × Nat)
  | rest, w, length, count, best =>
    let cost := lineCost s rest.head? length + (rest.head?.elim 0 (·.cost)) + extra length
    let best := match best with
      | some (c, _) => if cost < c then some (cost, length, count) else best
      | none => some (cost, length, count)
    match rest with
    | [] => best
    | c :: rest =>
      let longer := length + w.space + c.word.length
      if longer < s.width then bestEnd s extra rest c.word longer (count + 1) best else best

/-- The cells of words, where lines but the first have another indentation. The line in front of
the first one counts if it has a length. -/
def plan (s : Style) (first other last : Nat) : Option Word → Option Word → List Word → List Cell
  | _, _, [] => []
  | before₂, before₁, w :: ws =>
    let rest := plan s first other last before₁ (some w) ws
    let isFirst := before₁.isNone
    let extra (length : Nat) : Int :=
      if isFirst ∧ 0 < last then raggedCost ((length : Int) - last) else 0
    let indent := if isFirst then first else other
    let (cost, line, count) :=
      (bestEnd s extra rest w (indent + w.length) 1 none).getD (0, indent + w.length, 1)
    { word := w, cost := cost + baseCost before₂ before₁ w, line, count
      isLast := rest.length < count } :: rest

/-! ### Lines -/

/-- Blanks that lead from one column to another one, with tabs where one is worth two blanks. The
first argument bounds their number. -/
def blanks (stop : Nat) : Nat → Nat → Text
  | 0, _ => []
  | n + 1, column =>
    if stop ≤ column then []
    else if column + 1 < stop / 8 * 8 then '\t' :: blanks stop n ((column / 8 + 1) * 8)
    else ' ' :: blanks stop n (column + 1)

def space (tabs : Bool) (column n : Nat) : Text :=
  if tabs then blanks (column + n) (n + 1) column else List.replicate n ' '

structure State where
  rest : Text
  column : Nat := 0
  indent : Nat := 0
  tabs : Bool := false
  first : Nat := 0
  other : Nat := 0
  markIndent : Nat := 0
  last : Nat := 0
  words : List Word := []
  used : Nat := 0
  out : List Text := []

def State.write (t : Text) (s : State) : State := { s with out := t :: s.out }

def State.writeLine (y : Style) (indent : Nat) (ws : List Word) (s : State) : State :=
  let start := space s.tabs 0 s.markIndent ++ y.mark
  let column := s.markIndent + y.mark.length
  let start := start ++ space s.tabs column (indent - column)
  let (out, column, _) := ws.foldl (fun (out, column, gap) (w : Word) =>
    let out := w.text.reverse ++ ((space s.tabs column gap).reverse ++ out)
    (out, column + gap + w.length, w.space)) (start.reverse, max indent column, 0)
  { s.write (out.reverse ++ ['\n']) with last := column }

def State.writeCells (y : Style) : Nat → Nat → List Cell → State → State
  | 0, _, _, s => s
  | n + 1, indent, cells, s =>
    match cells with
    | [] => s
    | c :: _ =>
      let s := s.writeLine y indent ((cells.take c.count).map (·.word))
      State.writeCells y n s.other (cells.drop c.count) s

def State.cells (y : Style) (s : State) : List Cell :=
  plan y s.first s.other s.last none none s.words.reverse

def State.writeAll (y : Style) (s : State) : State :=
  let cells := s.cells y
  { s.writeCells y (cells.length + 1) s.first cells with words := [], used := 0 }

/-! ### Long paragraphs -/

/-- How many cells come before the best place to break a long paragraph: of the line ends the one
with the lowest cost of its line, where later ones have some credit. The first argument bounds
the number of lines. -/
def breakPlace : Nat → List Cell → Nat → Option Int → Option Nat → Option Nat
  | 0, _, _, _, found => found
  | n + 1, cells, place, best, found =>
    match cells with
    | [] => found
    | c :: _ =>
      let next := cells.drop c.count
      let cost := c.cost - next.head?.elim 0 (·.cost)
      let isBetter : Bool := match best with
        | some b => cost < b
        | none => true
      let best := (if isBetter then cost else best.getD cost) + square 3
      let found := if isBetter then some place else found
      breakPlace n next (place + c.count) (some best) found

/-- Writes the first part of a paragraph that is too long to be planned as a whole. A word that
has begun is written if there is none before it. -/
def State.flush (y : Style) (begun : Text) (s : State) : State × Text :=
  match s.words with
  | [] => ({ s.write begun with used := 0 }, [])
  | _ =>
    let cells := s.cells y
    let first := (cells.head?.elim 1 (·.count))
    let place? := breakPlace (cells.length + 1) (cells.drop first) first none none
    let place := place?.getD cells.length
    let kept := s.words.take (cells.length - place)
    let s := s.writeCells y (cells.length + 1) s.first (cells.take place)
    ({ s with words := kept, used := (kept.map Word.length).foldl (· + ·) begun.length }, begun)

/-! ### Reading -/

def skipBlanks : Text → Nat → Bool → Text × Nat × Bool
  | ' ' :: t, column, tabs => skipBlanks t (column + 1) tabs
  | '\t' :: t, column, _ => skipBlanks t ((column / 8 + 1) * 8) true
  | t, column, tabs => (t, column, tabs)

def State.skip (s : State) : State :=
  let (rest, column, tabs) := skipBlanks s.rest s.column s.tabs
  { s with rest, column, tabs }

def State.skipMark : Text → State → State × Bool
  | [], s => (s, true)
  | c :: mark, s =>
    match s.rest with
    | d :: rest =>
      if c = d then State.skipMark mark { s with rest, column := s.column + 1 } else (s, false)
    | [] => (s, false)

def State.beginLine (y : Style) (s : State) : State :=
  let s := { s with column := 0 }.skip
  if y.mark.isEmpty then { s with indent := min y.lead s.column }
  else
    let (s, isWhole) := { s with indent := s.column }.skipMark y.mark
    if isWhole then s.skip else s

def State.atEnd (s : State) : Bool := s.rest.isEmpty || s.rest.head? = some '\n'

def State.isSame (y : Style) (s : State) : Bool :=
  s.indent = s.markIndent && s.indent + y.fullLength ≤ s.column && !s.atEnd

def State.settleOther (y : Style) (isSame : Bool) (s : State) : State :=
  let other :=
    if y.splits then s.first
    else if y.crown then (if isSame then s.column else s.first)
    else if y.tagged then
      if isSame ∧ s.column ≠ s.first then s.column
      else if s.other = s.first then (if s.first = 0 then 3 else 0)
      else s.other
    else s.first
  { s with other }

/-- Takes the characters of a word, of which the first ones are taken already, in reverse. -/
def State.takeWord (y : Style) : Text → Text → State → State × Text
  | [], begun, s => ({ s with rest := [] }, begun)
  | c :: t, begun, s =>
    if !begun.isEmpty ∧ " \t\n\x0b\x0c\r".toList.contains c then ({ s with rest := c :: t }, begun)
    else
      let (s, begun) :=
        if s.used = 5000 then
          let (s, kept) := (s.settleOther y true).flush y begun.reverse
          (s, kept.reverse)
        else (s, begun)
      State.takeWord y t (c :: begun) { s with used := s.used + 1 }

def State.readWords (y : Style) : Nat → State → State
  | 0, s => s
  | n + 1, s =>
    let before := s.rest
    let (s, begun) := s.takeWord y before []
    let t := begun.reverse
    let start := s.column + t.length
    let s := { s with column := start }.skip
    let w := Word.ofText t
    let gap := s.column - start
    let final : Bool :=
      s.rest.isEmpty || (w.period && (s.rest.head? = some '\n' || 1 < gap))
    let gap := if s.atEnd ∨ y.uniform then (if final then 2 else 1) else gap
    let s := if s.words.length = 998 then ((s.settleOther y true).flush y t).1 else s
    let s := { s with words := { w with space := gap, final } :: s.words }
    if s.atEnd then s else State.readWords y n s

def State.readLine (y : Style) (s : State) : State :=
  let s := s.readWords y (s.rest.length + 1)
  { s with rest := s.rest.tail }.beginLine y

def State.readLines (y : Style) : Nat → State → State
  | 0, s => s
  | n + 1, s =>
    if s.isSame y ∧ s.column = s.other then State.readLines y n (s.readLine y) else s

def State.copyLine (y : Style) (s : State) : State :=
  let line := s.rest.takeWhile (· ≠ '\n')
  let start : Text :=
    if s.indent < s.column ∨ !s.atEnd then
      let mark := y.mark.take (s.column - s.indent)
      let place := s.indent + mark.length
      space s.tabs 0 s.indent ++ mark ++
        (if s.atEnd then [] else space s.tabs place (s.column - place)) ++
        (if s.rest.isEmpty ∧ s.indent + y.mark.length ≤ s.column then ['\n'] else [])
    else []
  { s.write (start ++ line) with rest := s.rest.drop line.length }

def State.isOther (y : Style) (s : State) : Bool :=
  s.atEnd || s.indent < y.lead || s.column < s.indent + y.fullLength

def State.run (y : Style) : Nat → State → State
  | 0, s => s
  | n + 1, s =>
    if s.isOther y then
      let s := s.copyLine y
      match s.rest with
      | [] => s
      | _ :: rest => State.run y n ({ s.write ['\n'] with rest }.beginLine y)
    else
      let s := { s with markIndent := s.indent, first := s.column, last := 0, words := [] }
      let s := s.readLine y
      let isSame := s.isSame y
      let s := s.settleOther y isSame
      let goesOn : Bool :=
        !y.splits && (!y.crown || isSame) && (!y.tagged || (isSame && s.column != s.first))
      let s :=
        if !goesOn then s
        else if y.crown ∨ y.tagged then (s.readLine y).readLines y n
        else s.readLines y n
      let s := { s with words := match s.words with
        | w :: ws => { w with period := true, final := true } :: ws
        | [] => [] }
      State.run y n (s.writeAll y)

def fill (y : Style) (t : Text) : Text :=
  let s := ({ rest := t } : State).beginLine y
  (s.run y (t.length + 2)).out.reverse.flatten

def Style.withMark (t : Text) (y : Style) : Style :=
  let rest := t.dropWhile (· = ' ')
  { y with
    lead := t.length - rest.length, fullLength := rest.length
    mark := (rest.reverse.dropWhile (· = ' ')).reverse }

def width? (limit : Nat) (t : Text) : Except Text Nat :=
  match natural? t with
  | some n =>
    if n ≤ limit then .ok n
    else .error ("invalid width: ".toList ++ quote t ++
      ": Numerical result out of range".toList)
  | none => .error ("invalid width: ".toList ++ quote t)

end Filling

def fillParagraphs : Utility := fun c =>
  let args := match c.args with
    | ('-' :: d :: t) :: args =>
      if d.isDigit then "-w".toList :: (d :: t) :: args else c.args
    | args => args
  withOptions ["c crown-margin", "t tagged-paragraph", "s split-only", "u uniform-spacing",
    "w= width", "g= goal", "p= prefix"] 1 (fun c f =>
    let widths : Except Text (Nat × Nat) := do
      let given ← (f.value? "w").mapM (Filling.width? 2500)
      let goal ← (f.value? "g").mapM (Filling.width? (given.getD 75))
      let width := given.getD (goal.elim 75 (· + 10))
      return (width, goal.getD (width * 187 / 200))
    match widths with
    | .error t => c.complainText t 1
    | .ok (width, goal) =>
      let style : Filling.Style :=
        { width, goal, crown := f.has "c", tagged := f.has "t", splits := f.has "s"
          uniform := f.has "u" }
      let style := style.withMark ((f.value? "p").getD [])
      let reason (e : FileError) (path : Text) : Text :=
        "cannot open ".toList ++ quote path ++ (" for reading: " ++ e.reason).toList
      let g := c.gatherWith reason f.operands
      g.finish c (g.contents.flatMap fun (_, t) => Filling.fill style t) 1) { c with args }

end StructuralEdit.Shell
