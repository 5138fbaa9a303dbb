import StructuralEdit.Regex.Tree.Bracket
/-!
Reading a pattern into its syntax tree. Groups nest, so the reader keeps a stack of the groups
that are open and of the alternatives that are complete.
-/
namespace StructuralEdit.Regex

structure Sequence where
  start : Position
  nodes : List Tree := []

def Sequence.tree (s : Sequence) (stop : Position) : Tree :=
  match s.nodes with
  | [] => .empty ⟨s.start, stop⟩
  | [t] => t
  | _ => .concat ⟨s.start, stop⟩ s.nodes.reverse

/-- A group that is open, or alternatives that wait for the last of them. -/
inductive Frame where
  | group (outer : Sequence) (span : Span) (kind : GroupKind) (ignoreBlanks : Bool)
  | alternatives (start : Position) (branches : List Tree)

def Flag.ofLetter? : Char → Option Flag
  | 'i' => some .caseInsensitive
  | 'm' => some .multiLine
  | 's' => some .dotMatchesNewline
  | 'U' => some .swapGreed
  | 'u' => some .unicode
  | 'R' => some .crlf
  | 'x' => some .ignoreBlanks
  | _ => none

def readFlags (seen : List (FlagItem × Span)) :
    Nat → Cursor → Except Fault (List FlagItem × Cursor)
  | 0, c => fault .flagUnfinished c.here
  | n + 1, c => do
    match c.char? with
    | none => fault .flagUnfinished c.here
    | some ch =>
      if ch = ':' ∨ ch = ')' then
        match seen with
        | (.negation, span) :: _ => fault .flagDanglingNegation span
        | _ => return ((seen.map (·.1)).reverse, c)
      else
        let item ←
          if ch = '-' then pure .negation
          else match Flag.ofLetter? ch with
            | some f => pure (.flag f)
            | none => fault .flagUnrecognized c.charSpan
        match seen.find? fun s => s.1 = item with
        | some (_, span) =>
          let cause := if ch = '-' then .flagRepeatedNegation else .flagDuplicate
          throw { cause, span := c.charSpan, earlier := some span }
        | none =>
          let d := c.bump
          if d.atEnd then fault .flagUnfinished d.here
          else readFlags ((item, c.charSpan) :: seen) n d

/-- Letters of names: those that classes know, and those that version 17 of the Unicode character
database adds. -/
def nameLetters : CharSet :=
  Property.alphabetic.union (.ofTable
    "88F C5C CDC A7CE-A7CF A7D2 A7D4 A7F1 10940-10959 10EC5-10EC7 10EFA-10EFB 11B60-11B67
    11DB0-11DDB 16EA0-16EB8 16EBB-16ED3 16FF2-16FF6 187F8-187FF 18D09-18D1E 18D80-18DF2
    1E6C0-1E6DE 1E6E0-1E6F5 1E6FE-1E6FF 2B73A-2B73F 2CEA2-2CEAD 323B0-33479")

def nameNumbers : CharSet := (CharSet.ofCategories [.nd, .nl, .no]).union (.ofTable "11DE0-11DE9")

def isNameChar (isFirst : Bool) (c : Char) : Bool :=
  c = '_' ||
    if isFirst then nameLetters.contains c
    else c = '.' || c = '[' || c = ']' || nameLetters.contains c || nameNumbers.contains c

def readName (chars : List Char) : Nat → Cursor → Except Fault (List Char × Cursor)
  | 0, c => fault .groupNameUnfinished c.here
  | n + 1, c =>
    match c.char? with
    | none => fault .groupNameUnfinished c.here
    | some ch =>
      if ch = '>' then .ok (chars.reverse, c)
      else if isNameChar chars.isEmpty ch then readName (ch :: chars) n c.bump
      else fault .groupNameInvalid c.charSpan

def readNewName (c : Cursor) : Except Fault (List Char × Cursor) := do
  let (name, d) ← readName [] (c.rest.length + 1) c
  if name.isEmpty then fault .groupNameEmpty c.here
  let span := d.spanFrom c.pos
  match d.names.find? fun e => e.1 = name with
  | some (_, earlier) => throw { cause := .groupNameDuplicate, span, earlier := some earlier }
  | none => return (name, { d.bump with names := d.names ++ [(name, span)] })

inductive Opening where
  | flags (span : Span) (items : List FlagItem)
  | group (span : Span) (kind : GroupKind)

def readGroupOpening (c₀ : Cursor) : Except Fault (Opening × Cursor) := do
  let openSpan := c₀.charSpan
  let c := c₀.bumpAndSkip
  let lookAround := ["?=", "?!", "?<=", "?<!"].findSome? c.bumpIf?
  match lookAround with
  | some d => fault .lookAround (d.spanFrom c₀.pos)
  | none =>
    match (c.bumpIf? "?P<").or (c.bumpIf? "?<") with
    | some d =>
      let d := { d with groups := d.groups + 1 }
      let (name, d) ← readNewName d
      return (.group openSpan (.capture d.groups (some name)), d)
    | none =>
      match c.bumpIf? "?" with
      | some d =>
        if d.atEnd then fault .groupUnclosed openSpan
        let (items, e) ← readFlags [] (d.rest.length + 1) d
        let f := e.bump
        if e.char? = some ':' then return (.group openSpan (.plain items), f)
        else if items.isEmpty then fault .repetitionMissing c.here
        else return (.flags (f.spanFrom c₀.pos) items, f)
      | none =>
        let d := { c with groups := c.groups + 1 }
        return (.group openSpan (.capture d.groups none), d)

def skipBlankChars (c : Cursor) : Nat → Cursor
  | 0 => c
  | n + 1 =>
    match c.char? with
    | some ch => if ch.isBlank then skipBlankChars c.bump n else c
    | none => c

def readDigits (digits : List Char) : Nat → Cursor → List Char × Cursor
  | 0, c => (digits.reverse, c)
  | n + 1, c =>
    match c.char? with
    | some ch =>
      if ch.isDigit then readDigits (ch :: digits) n c.bumpAndSkip else (digits.reverse, c)
    | none => (digits.reverse, c)

/-- Reads a count with any blanks around it. A missing count is no fault by itself, so it comes
back as the second fault to report. -/
def readCount (c : Cursor) : Except Fault Nat × Cursor :=
  let c := skipBlankChars c c.rest.length
  let (digits, d) := readDigits [] c.rest.length c
  let span := d.spanFrom c.pos
  let value : Nat := digits.foldl (fun n ch => 10 * n + (ch.toNat - 48)) 0
  let d := skipBlankChars d d.rest.length
  let count : Except Fault Nat :=
    if digits.isEmpty then fault .repetitionCountMissing span
    else if value < 4294967296 then .ok value
    else fault .decimalInvalid span
  (count, d)

def Sequence.popOperand (s : Sequence) (at_ : Span) : Except Fault (Tree × Sequence) :=
  match s.nodes with
  | [] | .empty _ :: _ | .flags .. :: _ => fault .repetitionMissing at_
  | t :: nodes => .ok (t, { s with nodes })

def Sequence.pushRepetition (s : Sequence) (sub : Tree) (greedy : Bool) (min : Nat)
    (max : Option Nat) (c : Cursor) : Sequence :=
  { s with nodes := .repetition ⟨sub.span.start, c.pos⟩ greedy min max sub :: s.nodes }

def readRepetition (min : Nat) (max : Option Nat) (s : Sequence) (c : Cursor) :
    Except Fault (Sequence × Cursor) := do
  let (sub, s) ← s.popOperand c.here
  let d := c.bump
  let lazy := d.char? = some '?'
  let d := if lazy then d.bump else d
  return (s.pushRepetition sub (!lazy) min max d, d)

def readCounts (start : Position) (c : Cursor) :
    Except Fault ((Nat × Option Nat) × Cursor) := do
  let (low, d) := readCount c
  if d.atEnd then fault .repetitionCountUnclosed (d.spanFrom start)
  if d.char? = some ',' then
    let d := d.bumpAndSkip
    if d.atEnd then fault .repetitionCountUnclosed (d.spanFrom start)
    if d.char? = some '\x7d' then
      return ((← low, none), d)
    else
      let low ← low
      let (high, d) := readCount d
      return ((low, some (← high)), d)
  else
    let low ← low
    return ((low, some low), d)

def readCounted (s : Sequence) (c : Cursor) : Except Fault (Sequence × Cursor) := do
  let (sub, s) ← s.popOperand c.here
  let d := c.bumpAndSkip
  if d.atEnd then fault .repetitionCountUnclosed (d.spanFrom c.pos)
  let ((low, high), d) ← readCounts c.pos d
  if d.char? ≠ some '\x7d' then fault .repetitionCountUnclosed (d.spanFrom c.pos)
  let d := d.bumpAndSkip
  let lazy := d.char? = some '?'
  let d := if lazy then d.bump else d
  if high.any (· < low) then fault .repetitionCountInvalid (d.spanFrom c.pos)
  return (s.pushRepetition sub (!lazy) low high d, d)

def readBar (frames : List Frame) (s : Sequence) (c : Cursor) :
    List Frame × Sequence × Cursor :=
  let branch := s.tree c.pos
  let d := c.bump
  match frames with
  | .alternatives start branches :: frames =>
    (.alternatives start (branch :: branches) :: frames, { start := d.pos }, d)
  | _ => (.alternatives s.start [branch] :: frames, { start := d.pos }, d)

def closeAlternatives (frames : List Frame) (s : Sequence) (stop : Position) :
    Tree × List Frame :=
  match frames with
  | .alternatives start branches :: frames =>
    (.alternation ⟨start, stop⟩ (s.tree stop :: branches).reverse, frames)
  | _ => (s.tree stop, frames)

def readClosing (frames : List Frame) (s : Sequence) (c : Cursor) :
    Except Fault (List Frame × Sequence × Cursor) :=
  let (body, frames) := closeAlternatives frames s c.pos
  match frames with
  | .group outer span kind ignoreBlanks :: frames =>
    let d := { c.bump with ignoreBlanks }
    let group := .group (d.spanFrom span.start) kind body
    .ok (frames, { outer with nodes := group :: outer.nodes }, d)
  | _ => fault .groupUnopened c.charSpan

def readEnd (frames : List Frame) (s : Sequence) (c : Cursor) : Except Fault Tree :=
  let (body, frames) := closeAlternatives frames s c.pos
  match frames with
  | .group _ span .. :: _ => fault .groupUnclosed span
  | _ => .ok body

def readNodes : Nat → List Frame → Sequence → Cursor → Except Fault Tree
  | 0, frames, s, c => readEnd frames s c
  | n + 1, frames, s, c => do
    let c := c.skipBlanks
    match c.char? with
    | none => readEnd frames s c
    | some '(' =>
      let (opening, d) ← readGroupOpening c
      match opening with
      | .flags span items =>
        let d := { d with
          ignoreBlanks := (FlagItem.stateOf .ignoreBlanks true items).getD d.ignoreBlanks }
        readNodes n frames { s with nodes := .flags span items :: s.nodes } d
      | .group span kind =>
        let e := { d with
          ignoreBlanks := (FlagItem.stateOf .ignoreBlanks true kind.flags).getD d.ignoreBlanks }
        readNodes n (.group s span kind d.ignoreBlanks :: frames) { start := e.pos } e
    | some ')' =>
      let (frames, s, d) ← readClosing frames s c
      readNodes n frames s d
    | some '|' =>
      let (frames, s, d) := readBar frames s c
      readNodes n frames s d
    | some '[' =>
      let (t, d) ← readBracketed c
      readNodes n frames { s with nodes := t :: s.nodes } d
    | some '?' =>
      let (s, d) ← readRepetition 0 (some 1) s c
      readNodes n frames s d
    | some '*' =>
      let (s, d) ← readRepetition 0 none s c
      readNodes n frames s d
    | some '+' =>
      let (s, d) ← readRepetition 1 none s c
      readNodes n frames s d
    | some '\x7b' =>
      let (s, d) ← readCounted s c
      readNodes n frames s d
    | some _ =>
      let (p, d) ← readPrimitive c
      readNodes n frames { s with nodes := p.tree :: s.nodes } d

/-! ### Depth -/

def nestingLimit : Nat := 250

mutual

def SetItem.tooDeep? (depth : Nat) : SetItem → Option Span
  | .bracketed span _ set =>
    if nestingLimit < depth + 1 then some span else set.tooDeep? (depth + 1)
  | .union span items =>
    if nestingLimit < depth + 1 then some span else SetItem.anyTooDeep? (depth + 1) items
  | _ => none

def SetItem.anyTooDeep? (depth : Nat) : List SetItem → Option Span
  | [] => none
  | i :: is => (i.tooDeep? depth).or (SetItem.anyTooDeep? depth is)

def SetExpr.tooDeep? (depth : Nat) : SetExpr → Option Span
  | .item i => i.tooDeep? depth
  | .op span _ lhs rhs =>
    if nestingLimit < depth + 1 then some span
    else (lhs.tooDeep? (depth + 1)).or (rhs.tooDeep? (depth + 1))

end

mutual

def Tree.tooDeep? (depth : Nat) : Tree → Option Span
  | .bracketed span _ set =>
    if nestingLimit < depth + 1 then some span else set.tooDeep? (depth + 1)
  | .repetition span _ _ _ sub =>
    if nestingLimit < depth + 1 then some span else sub.tooDeep? (depth + 1)
  | .group span _ sub =>
    if nestingLimit < depth + 1 then some span else sub.tooDeep? (depth + 1)
  | .alternation span subs =>
    if nestingLimit < depth + 1 then some span else Tree.anyTooDeep? (depth + 1) subs
  | .concat span subs =>
    if nestingLimit < depth + 1 then some span else Tree.anyTooDeep? (depth + 1) subs
  | _ => none

def Tree.anyTooDeep? (depth : Nat) : List Tree → Option Span
  | [] => none
  | t :: ts => (t.tooDeep? depth).or (Tree.anyTooDeep? depth ts)

end

def Tree.read (pattern : List Char) : Except Fault Tree := do
  let c : Cursor := { rest := pattern }
  let t ← readNodes (pattern.length + 1) [] { start := c.pos } c
  match t.tooDeep? 0 with
  | some span => fault (.nestedTooDeeply nestingLimit) span
  | none => return t

end StructuralEdit.Regex
