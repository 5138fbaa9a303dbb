import StructuralEdit.Regex.Tree.Cursor
/-!
Reading single items of a pattern: characters, escape sequences, class names and assertions.
-/
namespace StructuralEdit.Regex

/-- One item, as it stands for itself or as an element of a bracketed class. -/
inductive Primitive where
  | literal (l : Literal)
  | assertion (span : Span) (kind : AssertionKind)
  | dot (span : Span)
  | named (span : Span) (negated : Bool) (name : ClassName)
  | shorthand (span : Span) (negated : Bool) (kind : Shorthand)

namespace Primitive

def span : Primitive → Span
  | literal l => l.span
  | assertion s _ => s
  | dot s => s
  | named s .. => s
  | shorthand s .. => s

def tree : Primitive → Tree
  | literal l => .literal l
  | assertion s k => .assertion s k
  | dot s => .dot s
  | named s n x => .named s n x
  | shorthand s n k => .shorthand s n k

def setItem : Primitive → Except Fault SetItem
  | literal l => .ok (.literal l)
  | named s n x => .ok (.named s n x)
  | shorthand s n k => .ok (.shorthand s n k)
  | p => fault .classEscapeInvalid p.span

def rangeEnd : Primitive → Except Fault Literal
  | literal l => .ok l
  | p => fault .classRangeLiteral p.span

end Primitive

def isMeta (c : Char) : Bool := "\\.+*?()|[]\x7b\x7d^$#&-~".toList.contains c

/-- Characters that a backslash may precede without changing them: all of ASCII but letters,
digits and angle brackets. -/
def isEscapable (c : Char) : Bool :=
  isMeta c || (c.toNat < 128 && !c.isAlphanum && c != '<' && c != '>')

def isHexDigit (c : Char) : Bool :=
  c.isDigit || ('a' ≤ c && c ≤ 'f') || ('A' ≤ c && c ≤ 'F')

def hexDigitValue (c : Char) : Nat :=
  if c.isDigit then c.toNat - 48 else if 'a' ≤ c then c.toNat - 87 else c.toNat - 55

def hexValue (digits : List Char) : Nat := digits.foldl (fun n c => 16 * n + hexDigitValue c) 0

def scalar? (n : Nat) : Option Char := if n.isValidChar then some (Char.ofNat n) else none

def readFixedHex (digits : List Char) : Nat → Cursor → Reading (List Char)
  | 0, c => .ok (digits.reverse, c)
  | n + 1, c =>
    match c.char? with
    | none => fault .escapeUnfinished c.here
    | some d =>
      if isHexDigit d then readFixedHex (d :: digits) n c.bumpAndSkip
      else fault .hexInvalidDigit c.charSpan

def readBracedHex (open_ : Position) (digits : List Char) : Nat → Cursor → Reading (List Char)
  | 0, c => fault .escapeUnfinished (c.spanFrom open_)
  | n + 1, c =>
    match c.char? with
    | none => fault .escapeUnfinished (c.spanFrom open_)
    | some d =>
      if d = '\x7d' then .ok (digits.reverse, c)
      else if isHexDigit d then readBracedHex open_ (d :: digits) n c.bumpAndSkip
      else fault .hexInvalidDigit c.charSpan

/-- Reads a character given by its code point. The cursor stands on the letter after the
backslash, which says how many digits follow when they stand in no braces. -/
def readHex (start : Position) (letter : Char) (c : Cursor) :
    Except Fault (Primitive × Cursor) := do
  let c := c.bumpAndSkip
  match c.char? with
  | none => fault .escapeUnfinished c.here
  | some '\x7b' =>
    let first := c.charSpan.stop
    let (digits, d) ← readBracedHex c.pos [] c.rest.length c.bumpAndSkip
    let e := d.bumpAndSkip
    if digits.isEmpty then fault .hexEmpty (e.spanFrom c.pos)
    match scalar? (hexValue digits) with
    | none => fault .hexInvalid (d.spanFrom first)
    | some ch => return (.literal ⟨e.spanFrom start, ch, false⟩, e)
  | some _ =>
    let count := if letter = 'x' then 2 else if letter = 'u' then 4 else 8
    let (digits, d) ← readFixedHex [] count c
    match scalar? (hexValue digits) with
    | none => fault .hexInvalid (d.spanFrom c.pos)
    | some ch => return (.literal ⟨d.spanFrom start, ch, letter = 'x'⟩, d)

def readBraced (chars : List Char) : Nat → Cursor → Reading (List Char)
  | 0, c => fault .escapeUnfinished c.here
  | n + 1, c =>
    match c.char? with
    | none => fault .escapeUnfinished c.here
    | some ch =>
      if ch = '\x7d' then .ok (chars.reverse, c) else readBraced (ch :: chars) n c.bumpAndSkip

def splitAtWord? (mark : List Char) : List Char → Option (List Char × List Char)
  | [] => none
  | c :: cs =>
    if mark.isPrefixOf (c :: cs) then some ([], (c :: cs).drop mark.length)
    else (splitAtWord? mark cs).map fun (a, b) => (c :: a, b)

/-- A class name as written in braces, and whether all other characters are meant: a property and
its value are separated by one of three marks, the first of which negates. -/
def classNameOf (name : List Char) : ClassName × Bool :=
  match splitAtWord? ['!', '='] name with
  | some (p, v) => (.valued p v, true)
  | none =>
    match splitAtWord? [':'] name with
    | some (p, v) => (.valued p v, false)
    | none =>
      match splitAtWord? ['='] name with
      | some (p, v) => (.valued p v, false)
      | none => (.bare name, false)

def readNamedClass (start : Position) (negated : Bool) (c : Cursor) :
    Except Fault (Primitive × Cursor) := do
  let c := c.bumpAndSkip
  match c.char? with
  | none => fault .escapeUnfinished c.here
  | some '\x7b' =>
    let (name, d) ← readBraced [] c.rest.length c.bumpAndSkip
    let e := d.bump
    let (named, differs) := classNameOf name
    return (.named (e.spanFrom start) (negated != differs) named, e)
  | some '\\' => fault .classNameInvalid c.charSpan
  | some ch =>
    let d := c.bumpAndSkip
    return (.named (d.spanFrom start) negated (.bare [ch]), d)

def isBoundaryNameChar (c : Char) : Bool := c.isAlpha || c = '-'

def readBoundaryName (chars : List Char) : Nat → Cursor → List Char × Cursor
  | 0, c => (chars.reverse, c)
  | n + 1, c =>
    match c.char? with
    | none => (chars.reverse, c)
    | some ch =>
      if isBoundaryNameChar ch then readBoundaryName (ch :: chars) n c.bumpAndSkip
      else (chars.reverse, c)

/-- Reads the rest of a word boundary whose kind is named in braces. The answer is none if the
braces hold a repetition count. -/
def readBoundaryKind? (start : Position) (c : Cursor) :
    Except Fault (Option (AssertionKind × Cursor)) := do
  let inner := c.bumpAndSkip
  match inner.char? with
  | none => fault .wordBoundaryUnfinished (inner.spanFrom start)
  | some ch =>
    if !isBoundaryNameChar ch then return none
    let (name, d) := readBoundaryName [] inner.rest.length inner
    if d.char? ≠ some '\x7d' then fault .wordBoundaryUnclosed (d.spanFrom c.pos)
    let kind ← match String.ofList name with
      | "start" => pure .wordStart
      | "end" => pure .wordEnd
      | "start-half" => pure .wordStartHalf
      | "end-half" => pure .wordEndHalf
      | _ => fault .wordBoundaryUnrecognized (d.spanFrom inner.pos)
    return some (kind, d.bump)

def readEscape (c₀ : Cursor) : Reading Primitive :=
  let start := c₀.pos
  let c := c₀.bump
  match c.char? with
  | none => fault .escapeUnfinished (c.spanFrom start)
  | some ch =>
    let d := c.bump
    let span := d.spanFrom start
    let literal (c : Char) : Reading Primitive := .ok (.literal ⟨span, c, false⟩, d)
    let assertion (kind : AssertionKind) : Reading Primitive := .ok (.assertion span kind, d)
    let shorthand (negated : Bool) (kind : Shorthand) : Reading Primitive :=
      .ok (.shorthand span negated kind, d)
    if ch.isDigit then fault .backreference ⟨start, c.charSpan.stop⟩
    else if isEscapable ch then literal ch
    else match ch with
    | 'x' | 'u' | 'U' => readHex start ch c
    | 'p' | 'P' => readNamedClass start (ch = 'P') c
    | 'd' => shorthand false .digit
    | 'D' => shorthand true .digit
    | 's' => shorthand false .blank
    | 'S' => shorthand true .blank
    | 'w' => shorthand false .word
    | 'W' => shorthand true .word
    | 'a' => literal '\x07'
    | 'f' => literal '\x0c'
    | 't' => literal '\t'
    | 'n' => literal '\n'
    | 'r' => literal '\r'
    | 'v' => literal '\x0b'
    | 'A' => assertion .startText
    | 'z' => assertion .endText
    | 'B' => assertion .notWordBoundary
    | '<' => assertion .wordStart
    | '>' => assertion .wordEnd
    | 'b' =>
      if d.char? = some '\x7b' then
        match readBoundaryKind? start d with
        | .error f => .error f
        | .ok (some (kind, e)) => .ok (.assertion (e.spanFrom start) kind, e)
        | .ok none => assertion .wordBoundary
      else assertion .wordBoundary
    | _ => fault .escapeUnrecognized span

def readPrimitive (c : Cursor) : Reading Primitive :=
  match c.char? with
  | some '\\' => readEscape c
  | some '.' => .ok (.dot c.charSpan, c.bump)
  | some '^' => .ok (.assertion c.charSpan .startLine, c.bump)
  | some '$' => .ok (.assertion c.charSpan .endLine, c.bump)
  | ch => .ok (.literal ⟨c.charSpan, ch.getD '\x00', false⟩, c.bump)

end StructuralEdit.Regex
