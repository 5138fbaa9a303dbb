import StructuralEdit.Shell.Octets
/-!
Patterns in which a star stands for any text, a question mark for any character and brackets for
one of a set.
-/
namespace StructuralEdit.Shell

abbrev Quotable := List (Char × Bool)

def Quotable.ofText (quoted : Bool) (t : Text) : Quotable := t.map fun c => (c, quoted)

def Quotable.text (q : Quotable) : Text := q.map (·.1)

/-- A part of a pattern. A group stands for what its choices stand for: for one of them behind
`@`, for one or none behind `?`, for any number behind `*`, for at least one behind `+` and for
everything else behind `!`. -/
inductive Glob.Item where
  | one (p : Char → Bool)
  | many
  | group (mark : Char) (choices : List (List Glob.Item))

abbrev Glob := List Glob.Item

structure Glob.Style where
  marks : Text := ['!', '^']
  groups : Bool := false
  ignoresCase : Bool := false
  /-- Whether names that begin with a period need no period in the pattern. -/
  showsHidden : Bool := false
  /-- Whether a pattern with a period can stand for a directory and for the one above it. -/
  hasDots : Bool := false

namespace Glob

/-- Reads the members of a bracket up to what closes it. A bracket right at the beginning is a
member. -/
def readMembers (first : Bool) : Nat → Quotable → Option ((Char → Bool) × Quotable)
  | 0, _ => none
  | n + 1, q =>
    let more (p : Char → Bool) (rest : Quotable) : Option ((Char → Bool) × Quotable) :=
      (readMembers false n rest).map fun (other, rest) => (fun c => p c || other c, rest)
    match q with
    | [] => none
    | (']', false) :: rest =>
      if first then more (· = ']') rest else some (fun _ => false, rest)
    | ('[', false) :: (':', _) :: rest =>
      let name := rest.takeWhile fun c => c.1.isAlpha
      match kindOf? (String.ofList (Quotable.text name)), rest.drop name.length with
      | some p, (':', _) :: (']', _) :: rest => more p rest
      | _, _ => more (· = '[') ((':', false) :: rest)
    | (lo, _) :: ('-', false) :: (hi, quoted) :: rest =>
      if hi = ']' ∧ !quoted then more (· = lo) (('-', true) :: (hi, quoted) :: rest)
      else more (fun c => lo ≤ c && c ≤ hi) rest
    | (c, _) :: rest => more (· = c) rest

/-- Reads a bracket behind the character that opens it. What it has to begin with to mean all
other characters can be one of several marks. -/
def readBracket (marks : Text) (q : Quotable) : Option ((Char → Bool) × Quotable) :=
  let members (q : Quotable) : Option ((Char → Bool) × Quotable) :=
    readMembers true (q.length + 1) q
  match q with
  | (c, false) :: rest =>
    if marks.contains c then (members rest).map fun (p, rest) => (fun c => !p c, rest)
    else members q
  | _ => members q

/-- Splits the choices of a group up to the parenthesis that closes it, with the choice before them
in reverse. The depth counts the parentheses that are open. -/
def splitChoices : Nat → Quotable → Quotable → Option (List Quotable × Quotable)
  | _, _, [] => none
  | depth, current, (c, quoted) :: q =>
    if quoted then splitChoices depth ((c, quoted) :: current) q
    else if c = ')' ∧ depth = 0 then some ([current.reverse], q)
    else if c = '|' ∧ depth = 0 then
      (splitChoices 0 [] q).map fun (choices, rest) => (current.reverse :: choices, rest)
    else
      let depth := if c = '(' then depth + 1 else if c = ')' then depth - 1 else depth
      splitChoices depth ((c, quoted) :: current) q

def isGroupMark (c : Char) : Bool := "@?*+!".toList.contains c

def read (s : Style) : Nat → Quotable → Glob
  | 0, _ => []
  | _ + 1, [] => []
  | n + 1, (c, quoted) :: rest =>
    let one (p : Char → Bool) : Item :=
      .one (if s.ignoresCase then fun c => p c || p c.toLower || p c.toUpper else p)
    let group : Option (List Quotable × Quotable) := match rest with
      | ('(', false) :: inner =>
        if s.groups && !quoted && isGroupMark c then splitChoices 0 [] inner else none
      | _ => none
    match group with
    | some (choices, rest) => .group c (choices.map (read s n)) :: read s n rest
    | none =>
      if quoted then one (· = c) :: read s n rest
      else if c = '*' then .many :: read s n rest
      else if c = '?' then .one (fun _ => true) :: read s n rest
      else if c = '\\' then
        match rest with
        | (e, _) :: rest => one (· = e) :: read s n rest
        | [] => [one (· = c)]
      else if c = '[' then
        match readBracket s.marks rest with
        | some (p, rest) => one p :: read s n rest
        | none => one (· = c) :: read s n rest
      else one (· = c) :: read s n rest

def ofQuotable (s : Style) (q : Quotable) : Glob := read s (q.length + 1) q

def ofText (t : Text) : Glob := ofQuotable {} (.ofText false t)

def repeated (step : List Nat → List Nat) : Nat → List Nat → List Nat → List Nat
  | 0, known, _ => known
  | n + 1, known, new =>
    let next := (step new).filter fun i => !known.contains i
    if next.isEmpty then known else repeated step n (known ++ next) next

mutual

def Item.ends (t : Array Char) : Item → List Nat → List Nat
  | .one p, s => (s.filter fun i => (t[i]?).any p).map (· + 1)
  | .many, s => match s.min? with
    | some i => (List.range (t.size + 1)).drop i
    | none => []
  | .group mark choices, s =>
    let step := choiceEnds t choices
    if mark = '?' then (s ++ step s).eraseDups
    else if mark = '*' then repeated step (t.size + 1) s s
    else if mark = '+' then repeated step (t.size + 1) (step s) (step s)
    else if mark = '!' then
      (s.flatMap fun i =>
        let taken := step [i]
        ((List.range (t.size + 1)).drop i).filter fun j => !taken.contains j).eraseDups
    else (step s).eraseDups

def ends (t : Array Char) : List Item → List Nat → List Nat
  | [], s => s
  | x :: g, s => ends t g (x.ends t s)

def choiceEnds (t : Array Char) : List (List Item) → List Nat → List Nat
  | [], _ => []
  | g :: gs, s => ends t g s ++ choiceEnds t gs s

end

def isPattern (s : Style) (q : Quotable) : Bool :=
  (q.any fun (c, quoted) => !quoted && (c = '*' || c = '?' || c = '[')) ||
    (s.groups && (q.zip q.tail).any fun ((c, quoted), next) =>
      !quoted && isGroupMark c && next = ('(', false))

def accepts (g : Glob) (t : Text) : Bool := (ends t.toArray g [0]).contains t.length

def matchingPrefix? (g : Glob) (longest : Bool) (t : Text) : Option Nat :=
  let sizes := ends t.toArray g [0]
  if longest then sizes.max? else sizes.min?

def matchingSuffix? (g : Glob) (longest : Bool) (t : Text) : Option Nat :=
  let chars := t.toArray
  let places := List.range (t.length + 1)
  (if longest then places else places.reverse).find? fun n => (ends chars g [n]).contains t.length

end Glob

end StructuralEdit.Shell
