import StructuralEdit.Files
import StructuralEdit.Shell.Glob
/-!
Fields: how what a word stands for is cut into pieces, and how patterns among them become the names
of files.
-/
namespace StructuralEdit.Shell

inductive Piece where
  | char (c : Char) (quoted : Bool)
  | split (c : Char)
  | quotes
  | border
  deriving DecidableEq, Repr

namespace Piece

def ofText (quoted : Bool) (t : Text) : List Piece :=
  t.map fun c => if quoted then .char c true else .split c

def text (ps : List Piece) : Text :=
  ps.filterMap fun p => match p with
    | .char c _ | .split c => some c
    | .quotes => none
    | .border => some ' '

def quotable (ps : List Piece) : Quotable :=
  ps.filterMap fun p => match p with
    | .char c quoted => some (c, quoted)
    | .split c => some (c, false)
    | .quotes => none
    | .border => some (' ', true)

end Piece

/-- Fields that are put together, in reverse, with the characters of the last one in reverse. -/
structure Fields where
  done : List Quotable := []
  current : Option Quotable := none
  /-- Whether blanks have ended the field before, so that one more mark belongs to that end. -/
  blankEnd : Bool := false

namespace Fields

def close (f : Fields) : Fields :=
  match f.current with
  | some q => { done := q.reverse :: f.done }
  | none => { f with blankEnd := false }

def add (c : Char) (quoted : Bool) (f : Fields) : Fields :=
  { f with current := some ((c, quoted) :: f.current.getD []), blankEnd := false }

def take (separators : Text) (f : Fields) : Piece → Fields
  | .char c quoted => f.add c quoted
  | .quotes => { f with current := some (f.current.getD []), blankEnd := false }
  | .border => f.close
  | .split c =>
    if !separators.contains c then f.add c false
    else if c = ' ' ∨ c = '\t' ∨ c = '\n' then
      if f.current.isSome then { f.close with blankEnd := true } else f
    else if f.current.isSome then f.close
    else if f.blankEnd then { f with blankEnd := false }
    else { f with done := [] :: f.done }

def ofPieces (separators : Text) (ps : List Piece) : List Quotable :=
  ((ps.foldl (take separators) {}).close).done.reverse

end Fields

namespace Glob

def paths (s : Style) (files : Files) (q : Quotable) : List Text :=
  let parts := q.splitOnP fun c => c.1 = '/'
  let absolute : Bool := match q with
    | ('/', _) :: _ => true
    | _ => false
  let step (known : List Text) (part : Quotable) : List Text :=
    if part.isEmpty then
      known.map fun k => if k.getLast? = some '/' ∨ k.isEmpty then k else k ++ ['/']
    else
      let join (k name : Text) : Text :=
        if k.isEmpty ∨ k.getLast? = some '/' then k ++ name else k ++ '/' :: name
      if isPattern s part then
        let g := ofQuotable s part
        let hidden : Bool := match part with
          | ('.', _) :: _ => true
          | _ => false
        known.flatMap fun k =>
          match files.names (decode (if k.isEmpty then ['.'] else k)) with
          | .ok names =>
            let names := if hidden ∧ s.hasDots then ['.'] :: ['.', '.'] :: names else names
            ((names.map encode).filter fun name =>
              (hidden || s.showsHidden || name.head? ≠ some '.') && g.accepts name).map (join k)
          | .error _ => []
      else known.map fun k => join k (Quotable.text part)
  let found := parts.foldl step [if absolute then ['/'] else []]
  found.filter fun p => files.has (decode p)

def fieldNames? (s : Style) (files : Files) (q : Quotable) : Option (List Text) :=
  if isPattern s q then some (paths s files q) else none

end Glob

end StructuralEdit.Shell
