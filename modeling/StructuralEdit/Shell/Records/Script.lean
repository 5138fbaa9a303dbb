import StructuralEdit.Shell.Posix.Search
import StructuralEdit.Shell.Real
/-!
Scripts that process records: rules with patterns and actions, and the functions they use.
-/
namespace StructuralEdit.Shell.Records

inductive Arithmetic where
  | add
  | sub
  | mul
  | div
  | mod
  | pow
  deriving DecidableEq, Repr

inductive Relation where
  | less
  | lessOrEqual
  | equal
  | unequal
  | greater
  | greaterOrEqual
  deriving DecidableEq, Repr

inductive Builtin where
  | length
  | index
  | substr
  | match_
  | split
  | sub
  | gsub
  | sprintf
  | sin
  | cos
  | atan2
  | exp
  | log
  | sqrt
  | int
  | rand
  | srand
  | toupper
  | tolower
  | system
  | close
  | fflush
  | systime
  deriving DecidableEq, Repr

inductive Origin (α : Type) where
  | input
  | file (e : α)
  | command (e : α)

inductive Expr where
  | number (r : Real)
  | text (t : Text)
  | pattern (p : Posix)
  | variable (name : Text)
  | element (array : Text) (subscripts : List Expr)
  | field (e : Expr)
  | assign (op : Option Arithmetic) (target value : Expr)
  /-- Adds one or takes it away. The value is the one before or behind that. -/
  | step (adds before : Bool) (target : Expr)
  | arithmetic (op : Arithmetic) (a b : Expr)
  | negate (a : Expr)
  | plus (a : Expr)
  | not (a : Expr)
  | join (a b : Expr)
  | compare (r : Relation) (a b : Expr)
  | search (wanted : Bool) (a b : Expr)
  | both (a b : Expr)
  | either (a b : Expr)
  | choice (test yes no : Expr)
  | member (subscripts : List Expr) (array : Text)
  | call (name : Text) (arguments : List Expr)
  | builtin (b : Builtin) (arguments : List Expr)
  | getline (origin : Origin Expr) (target : Option Expr)

def Expr.isTarget : Expr → Bool
  | .variable _ | .element .. | .field _ => true
  | _ => false

inductive Sink where
  | file (appends : Bool)
  | command
  deriving DecidableEq, Repr

inductive Action where
  | nothing
  | sequence (a b : Action)
  | evaluate (e : Expr)
  | print (items : List Expr) (sink : Option (Sink × Expr))
  | printf (items : List Expr) (sink : Option (Sink × Expr))
  | conditional (test : Expr) (yes no : Action)
  | loop (test : Expr) (body : Action)
  | repeat (body : Action) (test : Expr)
  | counting (first test next : Option Expr) (body : Action)
  | each (name array : Text) (body : Action)
  | next
  | nextFile
  | exit (status : Option Expr)
  | return (value : Option Expr)
  | break
  | continue
  | delete (array : Text) (subscripts : List Expr)
  | clear (array : Text)

inductive Pattern where
  | atStart
  | atEnd
  | always
  | holds (e : Expr)
  /-- From a record to another one. Ranges are told apart by their number. -/
  | range (number : Nat) (first last : Expr)

structure Rule where
  pattern : Pattern
  action : Action

structure Function where
  name : Text
  parameters : List Text
  body : Action

structure Script where
  rules : List Rule := []
  functions : List Function := []
  lines : Nat := 0

end StructuralEdit.Shell.Records
