import StructuralEdit.Unicode.ClassName
/-!
Patterns as written: a syntax tree in which every node knows the stretch of the pattern it
was read from.
-/
namespace StructuralEdit.Regex

structure Position where
  line : Nat := 1
  column : Nat := 1
  deriving DecidableEq, Repr

def Position.next (p : Position) (c : Char) : Position :=
  if c = '\n' then ⟨p.line + 1, 1⟩ else ⟨p.line, p.column + 1⟩

structure Span where
  start : Position
  stop : Position
  deriving DecidableEq, Repr

inductive Flag where
  | caseInsensitive
  | multiLine
  | dotMatchesNewline
  | swapGreed
  | unicode
  | crlf
  | ignoreBlanks
  deriving DecidableEq, Repr

inductive FlagItem where
  | negation
  | flag (f : Flag)
  deriving DecidableEq, Repr

/-- The state a list of flags puts `f` into: flags after a negation are switched off. -/
def FlagItem.stateOf (f : Flag) : Bool → List FlagItem → Option Bool
  | _, [] => none
  | on, .negation :: items => stateOf f (!on) items
  | on, .flag g :: items => if g = f then some on else stateOf f on items

inductive AssertionKind where
  | startLine
  | endLine
  | startText
  | endText
  | wordBoundary
  | notWordBoundary
  | wordStart
  | wordEnd
  | wordStartHalf
  | wordEndHalf
  deriving DecidableEq, Repr

inductive Shorthand where
  | digit
  | blank
  | word
  deriving DecidableEq, Repr

inductive AsciiClass where
  | alnum
  | alpha
  | ascii
  | blank
  | cntrl
  | digit
  | graph
  | lower
  | print
  | punct
  | space
  | upper
  | word
  | xdigit
  deriving DecidableEq, Repr

/-- A single character. The form with two hexadecimal digits also denotes a byte. -/
structure Literal where
  span : Span
  char : Char
  isByte : Bool := false
  deriving DecidableEq, Repr

inductive SetOp where
  | intersection
  | difference
  | symmetricDifference
  deriving DecidableEq, Repr

mutual

inductive SetItem where
  | empty (span : Span)
  | literal (l : Literal)
  | range (span : Span) (lo hi : Literal)
  | ascii (span : Span) (negated : Bool) (kind : AsciiClass)
  | named (span : Span) (negated : Bool) (name : ClassName)
  | shorthand (span : Span) (negated : Bool) (kind : Shorthand)
  | bracketed (span : Span) (negated : Bool) (set : SetExpr)
  | union (span : Span) (items : List SetItem)

inductive SetExpr where
  | item (i : SetItem)
  | op (span : Span) (kind : SetOp) (lhs rhs : SetExpr)

end

def SetItem.span : SetItem → Span
  | .empty s => s
  | .literal l => l.span
  | .range s .. => s
  | .ascii s .. => s
  | .named s .. => s
  | .shorthand s .. => s
  | .bracketed s .. => s
  | .union s .. => s

def SetExpr.span : SetExpr → Span
  | .item i => i.span
  | .op s .. => s

inductive GroupKind where
  | capture (index : Nat) (name : Option (List Char))
  | plain (flags : List FlagItem)
  deriving DecidableEq, Repr

def GroupKind.flags : GroupKind → List FlagItem
  | .capture .. => []
  | .plain items => items

inductive Tree where
  | empty (span : Span)
  | flags (span : Span) (items : List FlagItem)
  | literal (l : Literal)
  | dot (span : Span)
  | assertion (span : Span) (kind : AssertionKind)
  | named (span : Span) (negated : Bool) (name : ClassName)
  | shorthand (span : Span) (negated : Bool) (kind : Shorthand)
  | bracketed (span : Span) (negated : Bool) (set : SetExpr)
  | repetition (span : Span) (greedy : Bool) (min : Nat) (max : Option Nat) (sub : Tree)
  | group (span : Span) (kind : GroupKind) (sub : Tree)
  | alternation (span : Span) (subs : List Tree)
  | concat (span : Span) (subs : List Tree)

def Tree.span : Tree → Span
  | .empty s => s
  | .flags s _ => s
  | .literal l => l.span
  | .dot s => s
  | .assertion s _ => s
  | .named s .. => s
  | .shorthand s .. => s
  | .bracketed s .. => s
  | .repetition s .. => s
  | .group s .. => s
  | .alternation s _ => s
  | .concat s _ => s

end StructuralEdit.Regex
