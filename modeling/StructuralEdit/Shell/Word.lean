import StructuralEdit.Shell.Octets
/-!
Words of shell scripts: characters, quotes, and what is expanded in them.
-/
namespace StructuralEdit.Shell

/-- The two languages that shells speak. The second one has arrays and more. -/
inductive Dialect where
  | dash
  | bash
  deriving DecidableEq, Repr

inductive LetterCase where
  | upper
  | lower
  | swapped
  | capital
  deriving DecidableEq, Repr

namespace LetterCase

def changeChar (k : LetterCase) (c : Char) : Char :=
  match k with
  | .upper => c.toUpper
  | .lower => c.toLower
  | .swapped => if c.isUpper then c.toLower else c.toUpper
  | .capital => c

def change (k : LetterCase) (t : Text) : Text :=
  match k, t with
  | .capital, c :: t => c.toUpper :: t.map Char.toLower
  | k, t => t.map k.changeChar

end LetterCase

inductive Operation where
  | value
  | length
  /-- Something else for a parameter without a value, or without one that is not empty. -/
  | default (orEmpty : Bool)
  | assign (orEmpty : Bool)
  | require (orEmpty : Bool)
  | alternative (orEmpty : Bool)
  | trim (suffix longest : Bool)
  | slice
  | replace (everywhere : Bool) (anchor : Option Char)
  | recase (letters : LetterCase) (everywhere : Bool)
  | transform (kind : Char)
  | indirect
  | keys
  | names
  | bad
  deriving DecidableEq, Repr

/-- A part of a word. What an expansion that is not quoted stands for is split into fields. -/
inductive Part where
  | char (c : Char) (quoted : Bool)
  | quotes
  | parameter (name : Text) (subscript : List Part) (operation : Operation)
      (operands : List (List Part)) (quoted : Bool)
  | output (script : Text) (line : Nat) (quoted : Bool)
  | arithmetic (expression : List Part) (quoted : Bool)
  /-- A file that holds what a script writes, or one that the script reads. -/
  | stream (writes : Bool) (script : Text) (line : Nat)

abbrev Word := List Part

namespace Word

def ofText (quoted : Bool) (t : Text) : Word := t.map fun c => .char c quoted

def plain? (w : Word) : Option Text :=
  w.mapM fun (p : Part) => match p with
    | .char c false => some c
    | _ => none

def constant? (w : Word) : Option Text :=
  (w.mapM fun (p : Part) => match p with
    | .char c _ => some [c]
    | .quotes => some []
    | _ => none).map List.flatten

def isQuoted (w : Word) : Bool :=
  w.any fun (p : Part) => match p with
    | .char _ quoted => quoted
    | .quotes => true
    | _ => false

def splitPlain (p : Char → Bool) : Word → Text × Word
  | .char c false :: w =>
    if p c then
      let (t, rest) := splitPlain p w
      (c :: t, rest)
    else ([], .char c false :: w)
  | w => ([], w)

def splitAt? (c : Char) : Word → Option (Word × Word)
  | [] => none
  | p :: w =>
    let later := (splitAt? c w).map fun (a, b) => (p :: a, b)
    match p with
    | .char d false => if c = d then some ([], w) else later
    | _ => later

end Word

inductive Assigned where
  | word (w : Word)
  | items (items : List (Option Word × Word))

structure Assignment where
  name : Text
  subscript : Option Word := none
  appends : Bool := false
  value : Assigned

namespace Word

/-- The assignment that a word makes, if it is one. Only some shells know subscripts and adding to
a value. -/
def assignment? (d : Dialect) (w : Word) : Option Assignment :=
  let (name, rest) := splitPlain isNameChar w
  if !isName name then none
  else
    let (subscript, rest) : Option Word × Word := match d, rest with
      | .bash, .char '[' false :: inner => match splitAt? ']' inner with
        | some (a, b) => (some a, b)
        | none => (none, rest)
      | _, _ => (none, rest)
    match d, rest with
    | _, .char '=' false :: value => some { name, subscript, value := .word value }
    | .bash, .char '+' false :: .char '=' false :: value =>
      some { name, subscript, appends := true, value := .word value }
    | _, _ => none

end Word

end StructuralEdit.Shell
