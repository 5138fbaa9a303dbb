import StructuralEdit.Regex.Tree.Escape
/-!
Reading bracketed classes. Brackets nest, so the reader keeps a stack of the brackets that are
open and of the operands that wait for their right-hand side.
-/
namespace StructuralEdit.Regex

structure Elements where
  span : Span
  items : List SetItem := []

namespace Elements

def push (u : Elements) (i : SetItem) : Elements :=
  ⟨⟨if u.items.isEmpty then i.span.start else u.span.start, i.span.stop⟩, i :: u.items⟩

def item (u : Elements) : SetItem :=
  match u.items with
  | [] => .empty u.span
  | [i] => i
  | _ => .union u.span u.items.reverse

end Elements

inductive Pending where
  | bracket (outer : Elements) (span : Span) (negated : Bool)
  | operand (kind : SetOp) (lhs : SetExpr)

/-- The operators bind alike, from the left: a finished operand closes the pending one. -/
def closeOperand (stack : List Pending) (rhs : SetExpr) : SetExpr × List Pending :=
  match stack with
  | .operand kind lhs :: stack =>
    (.op ⟨lhs.span.start, rhs.span.stop⟩ kind lhs rhs, stack)
  | _ => (rhs, stack)

/-- The innermost open bracket is the one reported as unclosed. -/
def unclosedBracket : List Pending → Position → Except Fault α
  | .bracket _ span _ :: _, _ => fault .classUnclosed span
  | .operand .. :: stack, p => unclosedBracket stack p
  | [], p => fault .classUnclosed ⟨p, p⟩

/-- Hyphens that follow the opening bracket stand for themselves. The first argument bounds
their number. -/
def readHyphens (start : Position) : Nat → Elements → Cursor → Except Fault (Elements × Cursor)
  | 0, u, c => .ok (u, c)
  | n + 1, u, c =>
    if c.char? = some '-' then
      let d := c.bumpAndSkip
      if d.atEnd then fault .classUnclosed ⟨start, start⟩
      else readHyphens start n (u.push (.literal ⟨c.charSpan, '-', false⟩)) d
    else .ok (u, c)

def readOpening (c : Cursor) : Except Fault (Span × Bool × Elements × Cursor) := do
  let start := c.pos
  let unclosed (d : Cursor) : Except Fault Unit :=
    if d.atEnd then fault .classUnclosed (d.spanFrom start) else .ok ()
  let d := c.bumpAndSkip
  unclosed d
  let negated := d.char? = some '^'
  let d := if negated then d.bumpAndSkip else d
  unclosed d
  let (u, d) ← readHyphens start d.rest.length { span := d.here } d
  if u.items.isEmpty ∧ d.char? = some ']' then
    let e := d.bumpAndSkip
    unclosed e
    return (e.spanFrom start, negated, u.push (.literal ⟨d.charSpan, ']', false⟩), e)
  else return (d.spanFrom start, negated, u, d)

def AsciiClass.named? : String → Option AsciiClass
  | "alnum" => some .alnum
  | "alpha" => some .alpha
  | "ascii" => some .ascii
  | "blank" => some .blank
  | "cntrl" => some .cntrl
  | "digit" => some .digit
  | "graph" => some .graph
  | "lower" => some .lower
  | "print" => some .print
  | "punct" => some .punct
  | "space" => some .space
  | "upper" => some .upper
  | "word" => some .word
  | "xdigit" => some .xdigit
  | _ => none

def readAsciiClass? (c : Cursor) : Option (SetItem × Cursor) := do
  let body ← c.bumpIf? "[:"
  let negated := body.char? = some '^'
  let body := if negated then body.bump else body
  let name := body.rest.takeWhile (· ≠ ':')
  let d ← (body.bumpMany name.length).bumpIf? ":]"
  let kind ← AsciiClass.named? (.ofList name)
  return (.ascii (d.spanFrom c.pos) negated kind, d)

def readSetPrimitive (c : Cursor) : Except Fault (Primitive × Cursor) :=
  match c.char? with
  | some '\\' => readEscape c
  | ch => .ok (.literal ⟨c.charSpan, ch.getD '\x00', false⟩, c.bump)

/-- Reads an item or a range of characters. A hyphen before the closing bracket or before
another hyphen makes no range. -/
def readSetRange (stack : List Pending) (c : Cursor) : Except Fault (SetItem × Cursor) := do
  let (first, d) ← readSetPrimitive c
  let d := d.skipBlanks
  if d.atEnd then unclosedBracket stack d.pos
  else if d.char? ≠ some '-' ∨ d.peekBlank? = some ']' ∨ d.peekBlank? = some '-' then
    return (← first.setItem, d)
  else
    let d := d.bumpAndSkip
    if d.atEnd then unclosedBracket stack d.pos
    else
      let (second, d) ← readSetPrimitive d
      let span := ⟨first.span.start, second.span.stop⟩
      let lo ← first.rangeEnd
      let hi ← second.rangeEnd
      if lo.char ≤ hi.char then return (.range span lo hi, d)
      else fault .classRangeInvalid span

def readSetOp? (c : Cursor) : Option (SetOp × Cursor) :=
  match c.rest with
  | '&' :: '&' :: _ => some (.intersection, c.bumpMany 2)
  | '-' :: '-' :: _ => some (.difference, c.bumpMany 2)
  | '~' :: '~' :: _ => some (.symmetricDifference, c.bumpMany 2)
  | _ => none

def readElements : Nat → List Pending → Elements → Cursor → Except Fault (Tree × Cursor)
  | 0, stack, _, c => unclosedBracket stack c.pos
  | n + 1, stack, u, c => do
    let c := c.skipBlanks
    match c.char? with
    | none => unclosedBracket stack c.pos
    | some '[' =>
      match (if stack.isEmpty then none else readAsciiClass? c) with
      | some (item, d) => readElements n stack (u.push item) d
      | none =>
        let (span, negated, v, d) ← readOpening c
        readElements n (.bracket u span negated :: stack) v d
    | some ']' =>
      let (set, stack) := closeOperand stack (.item u.item)
      match stack with
      | .bracket outer span negated :: stack =>
        let d := c.bump
        let span := d.spanFrom span.start
        if stack.isEmpty then return (.bracketed span negated set, d)
        else readElements n stack (outer.push (.bracketed span negated set)) d
      | _ => unclosedBracket stack c.pos
    | some _ =>
      match readSetOp? c with
      | some (kind, d) =>
        let (lhs, stack) := closeOperand stack (.item u.item)
        readElements n (.operand kind lhs :: stack) { span := d.here } d
      | none =>
        let (item, d) ← readSetRange stack c
        readElements n stack (u.push item) d

def readBracketed (c : Cursor) : Except Fault (Tree × Cursor) :=
  readElements (c.rest.length + 1) [] { span := c.here } c

end StructuralEdit.Regex
