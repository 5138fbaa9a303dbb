import StructuralEdit.Regex.Expr
import StructuralEdit.Regex.Tree.Read
import StructuralEdit.Unicode.CaseFolding
/-!
From a pattern as written to what it means. Flags hold from where they stand to the end of the
group around them.
-/
namespace StructuralEdit.Regex

/-- The flags in force. Anchors match at lines unless the pattern says otherwise. -/
structure Flags where
  caseInsensitive : Bool := false
  multiLine : Bool := true
  dotMatchesNewline : Bool := false
  swapGreed : Bool := false
  unicode : Bool := true
  crlf : Bool := false
  deriving DecidableEq, Repr

namespace Flags

def update (f : Flags) (items : List FlagItem) : Flags :=
  let get (flag : Flag) (old : Bool) : Bool := (FlagItem.stateOf flag true items).getD old
  { caseInsensitive := get .caseInsensitive f.caseInsensitive
    multiLine := get .multiLine f.multiLine
    dotMatchesNewline := get .dotMatchesNewline f.dotMatchesNewline
    swapGreed := get .swapGreed f.swapGreed
    unicode := get .unicode f.unicode
    crlf := get .crlf f.crlf }

def alphabet (f : Flags) : Alphabet := if f.unicode then .unicode else .ascii

end Flags

/-! ### Sets of characters -/

def AsciiClass.members : AsciiClass → CharSet
  | .alnum => .ofTable "30-39 41-5A 61-7A"
  | .alpha => .ofTable "41-5A 61-7A"
  | .ascii => .ofTable "0-7F"
  | .blank => .ofTable "9 20"
  | .cntrl => .ofTable "0-1F 7F"
  | .digit => .ofTable "30-39"
  | .graph => .ofTable "21-7E"
  | .lower => .ofTable "61-7A"
  | .print => .ofTable "20-7E"
  | .punct => .ofTable "21-2F 3A-40 5B-60 7B-7E"
  | .space => .ofTable "9-D 20"
  | .upper => .ofTable "41-5A"
  | .word => .ofTable "30-39 41-5A 5F 61-7A"
  | .xdigit => .ofTable "30-39 41-46 61-66"

def Shorthand.asciiMembers : Shorthand → CharSet
  | .digit => AsciiClass.digit.members
  | .blank => AsciiClass.space.members
  | .word => AsciiClass.word.members

def Shorthand.members : Shorthand → CharSet
  | .digit => .ofCategories [.nd]
  | .blank => Property.whiteSpace
  | .word => Property.word

def foldAsciiCase (s : CharSet) : CharSet :=
  let lower := s.inter AsciiClass.upper.members
  let upper := s.inter AsciiClass.lower.members
  .ofRanges (s.ranges ++ (lower.ranges.map fun (a, b) => (a + 32, b + 32)) ++
    upper.ranges.map fun (a, b) => (a - 32, b - 32))

/-- Applies the flags and a negation to a set. Without Unicode a set is one of bytes, and all of
them have to be characters by themselves. -/
def adjustSet (f : Flags) (span : Span) (negated : Bool) (s : CharSet) : Except Fault CharSet :=
  if f.unicode then
    let s := if f.caseInsensitive then s.foldCase else s
    .ok (if negated then s.compl else s)
  else
    let s := if f.caseInsensitive then foldAsciiCase s else s
    if negated then fault .invalidUtf8 span else .ok s

def namedSet (f : Flags) (span : Span) (negated : Bool) (name : ClassName) :
    Except Fault CharSet :=
  if f.unicode then
    match name.members with
    | .ok s => adjustSet f span negated s
    | .error .unknownProperty => fault .unknownProperty span
    | .error .unknownValue => fault .unknownValue span
  else fault .unicodeNotAllowed span

def shorthandSet (f : Flags) (span : Span) (negated : Bool) (kind : Shorthand) :
    Except Fault CharSet :=
  if f.unicode then .ok (if negated then kind.members.compl else kind.members)
  else if negated then fault .invalidUtf8 span
  else .ok kind.asciiMembers

def setChar (f : Flags) (l : Literal) : Except Fault Char :=
  if f.unicode ∨ l.char.toNat < 128 then .ok l.char
  else fault (if l.isByte then .invalidUtf8 else .unicodeNotAllowed) l.span

mutual

def SetItem.members (f : Flags) : SetItem → Except Fault CharSet
  | .empty _ => .ok .empty
  | .literal l => do return .singleton (← setChar f l)
  | .range _ lo hi => do return .interval (← setChar f lo) (← setChar f hi)
  | .ascii span negated kind => adjustSet f span negated kind.members
  | .named span negated name => namedSet f span negated name
  | .shorthand span negated kind => shorthandSet f span negated kind
  | .bracketed span negated set => do adjustSet f span negated (← set.members f)
  | .union _ items => SetItem.allMembers f items

def SetItem.allMembers (f : Flags) : List SetItem → Except Fault CharSet
  | [] => .ok .empty
  | i :: is => do return (← i.members f).union (← SetItem.allMembers f is)

def SetExpr.members (f : Flags) : SetExpr → Except Fault CharSet
  | .item i => do return CharSet.empty.union (← i.members f)
  | .op _ kind lhs rhs => do
    let fold (s : CharSet) : CharSet :=
      if f.caseInsensitive then (if f.unicode then s.foldCase else foldAsciiCase s) else s
    let l ← lhs.members f
    let r ← rhs.members f
    return match kind with
      | .intersection => (fold l).inter (fold r)
      | .difference => (fold l).diff (fold r)
      | .symmetricDifference => (fold l).symmDiff (fold r)

end

/-! ### Expressions -/

def AssertionKind.look (f : Flags) : AssertionKind → Look
  | .startLine =>
    if f.multiLine then if f.crlf then .lineStartCrlf else .lineStart else .textStart
  | .endLine => if f.multiLine then if f.crlf then .lineEndCrlf else .lineEnd else .textEnd
  | .startText => .textStart
  | .endText => .textEnd
  | .wordBoundary => .wordBoundary f.alphabet
  | .notWordBoundary => .notWordBoundary f.alphabet
  | .wordStart => .wordStart f.alphabet
  | .wordEnd => .wordEnd f.alphabet
  | .wordStartHalf => .wordStartHalf f.alphabet
  | .wordEndHalf => .wordEndHalf f.alphabet

def Literal.expr (f : Flags) (l : Literal) : Except Fault Expr :=
  if !f.unicode ∧ l.isByte ∧ 128 ≤ l.char.toNat then fault .invalidUtf8 l.span
  else if f.caseInsensitive then
    let fold := if f.unicode then CharSet.foldCase else foldAsciiCase
    .ok (.ofSet (fold (.singleton l.char)) f.alphabet)
  else .ok (.literal [l.char])

def dotExpr (f : Flags) (span : Span) : Except Fault Expr :=
  if !f.unicode then fault .invalidUtf8 span
  else if f.dotMatchesNewline then .ok (.set .all .unicode)
  else if f.crlf then .ok (.set (CharSet.ofChars ['\n', '\r']).compl .unicode)
  else .ok (.set (CharSet.singleton '\n').compl .unicode)

mutual

/-- The meaning of a tree under the flags in force, with the flags in force after it. -/
def Tree.expr (f : Flags) : Tree → Except Fault (Expr × Flags)
  | .empty _ => .ok (.empty, f)
  | .flags _ items => .ok (.empty, f.update items)
  | .literal l => do return (← l.expr f, f)
  | .dot span => do return (← dotExpr f span, f)
  | .assertion _ kind => .ok (.look (kind.look f), f)
  | .named span negated name => do return (.ofSet (← namedSet f span negated name) f.alphabet, f)
  | .shorthand span negated kind => do
    return (.ofSet (← shorthandSet f span negated kind) f.alphabet, f)
  | .bracketed span negated set => do
    return (.ofSet (← adjustSet f span negated (← set.members f)) f.alphabet, f)
  | .repetition _ greedy min max sub => do
    let (e, g) ← sub.expr f
    return (.ofRepetition min max (greedy != g.swapGreed) e, g)
  | .group _ (.capture index name) sub => do
    let (e, _) ← sub.expr f
    return (.capture index name e, f)
  | .group _ (.plain items) sub => do
    let (e, _) ← sub.expr (f.update items)
    return (e, f)
  | .alternation _ subs => do
    let (es, g) ← Tree.exprs f subs
    return (.ofAlternation es, g)
  | .concat _ subs => do
    let (es, g) ← Tree.exprs f subs
    return (.ofConcat es, g)

def Tree.exprs (f : Flags) : List Tree → Except Fault (List Expr × Flags)
  | [] => .ok ([], f)
  | t :: ts => do
    let (e, g) ← t.expr f
    let (es, h) ← Tree.exprs g ts
    return (e :: es, h)

end

def Expr.ofTree (t : Tree) : Except Fault Expr := do return (← t.expr {}).1

end StructuralEdit.Regex
