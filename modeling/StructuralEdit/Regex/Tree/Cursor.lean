import StructuralEdit.Regex.Fault
import StructuralEdit.Text.Blank
/-!
A place in a pattern being read, with what the reader remembers on its way: whether blanks and
comments are skipped, how many groups were opened and which names they took.
-/
namespace StructuralEdit.Regex

structure Cursor where
  rest : List Char
  pos : Position := {}
  ignoreBlanks : Bool := false
  groups : Nat := 0
  names : List (List Char × Span) := []
  deriving Repr

namespace Cursor

def char? (c : Cursor) : Option Char := c.rest.head?

def atEnd (c : Cursor) : Bool := c.rest.isEmpty

def peek? (c : Cursor) : Option Char := c.rest.tail.head?

def bump (c : Cursor) : Cursor :=
  match c.rest with
  | [] => c
  | ch :: rest => { c with rest, pos := c.pos.next ch }

def bumpMany : Nat → Cursor → Cursor
  | 0, c => c
  | n + 1, c => bumpMany n c.bump

def bumpIf? (c : Cursor) (word : String) : Option Cursor :=
  if word.toList.isPrefixOf c.rest then some (c.bumpMany word.length) else none

def here (c : Cursor) : Span := ⟨c.pos, c.pos⟩

def charSpan (c : Cursor) : Span := ⟨c.pos, c.bump.pos⟩

def spanFrom (c : Cursor) (p : Position) : Span := ⟨p, c.pos⟩

def skipFrom (inComment : Bool) : List Char → Position → List Char × Position
  | [], p => ([], p)
  | ch :: rest, p =>
    if inComment then skipFrom (ch ≠ '\n') rest (p.next ch)
    else if ch.isBlank then skipFrom false rest (p.next ch)
    else if ch = '#' then skipFrom true rest (p.next ch)
    else (ch :: rest, p)

def skipBlanks (c : Cursor) : Cursor :=
  if c.ignoreBlanks then
    let (rest, pos) := skipFrom false c.rest c.pos
    { c with rest, pos }
  else c

def bumpAndSkip (c : Cursor) : Cursor := c.bump.skipBlanks

/-- The first character of `rest` that is no blank and opens no comment; a comment's own
text is not skipped. -/
def peekPast : Bool → List Char → Option Char
  | _, [] => none
  | inComment, ch :: rest =>
    if ch.isBlank then peekPast inComment rest
    else if ch = '#' ∧ !inComment then peekPast true rest
    else some ch

def peekBlank? (c : Cursor) : Option Char :=
  if c.ignoreBlanks then
    match peekPast false c.rest.tail with
    | some ch => some ch
    | none => c.peek?
  else c.peek?

end Cursor

abbrev Reading (α : Type) := Except Fault (α × Cursor)

def fault (cause : Cause) (span : Span) : Except Fault α := .error { cause, span }

end StructuralEdit.Regex
