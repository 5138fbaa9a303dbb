import StructuralEdit.Shell.Posix.Search
/-!
The commands of an editor that goes through the lines of its input once and holds one line, or a
few, at a time.
-/
namespace StructuralEdit.Shell.LineEditor

/-- A regular expression. Without one the last one used is meant. -/
abbrev Pattern := Option Posix

inductive Address where
  | line (n : Nat)
  | step (first step : Nat)
  | last
  | pattern (p : Pattern)

inductive Bound where
  | line (n : Nat)
  | more (n : Nat)
  | multiple (n : Nat)
  | last
  | pattern (p : Pattern)

inductive Selection where
  | all
  | one (a : Address)
  | range (a : Address) (b : Bound)

/-- A part of what takes the place of a match. -/
inductive Replacement where
  | text (t : Text)
  | group (n : Nat)
  | case (upper : Option Bool)
  | firstCase (upper : Bool)

structure Substitution where
  pattern : Pattern
  replacement : List Replacement
  /-- The number of the match that is replaced, and whether those behind it are too. -/
  number : Nat := 1
  everywhere : Bool := false
  prints : Bool := false
  executes : Bool := false
  file : Option Text := none

inductive Action where
  | block (finish : Nat)
  | nothing
  | append (t : Text)
  | insert (t : Text)
  | change (t : Text)
  | jump (label : Text) (target : Option Nat)
  | jumpIf (wanted : Bool) (label : Text) (target : Option Nat)
  | delete
  | deleteFirst
  | execute (command : Text)
  | fileName
  | get
  | getMore
  | hold
  | holdMore
  | exchange
  | list (width : Option Nat)
  | next
  | nextMore
  | print
  | printFirst
  | number
  | quit (status : Nat) (quietly : Bool)
  | readFile (path : Text)
  | readLine (path : Text)
  | substitute (s : Substitution)
  | replaceChars (table : List (Char × Char))
  | writeFile (path : Text)
  | writeFirst (path : Text)
  | clear

structure Command where
  selection : Selection
  negated : Bool
  action : Action

end StructuralEdit.Shell.LineEditor
