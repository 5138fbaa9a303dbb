import StructuralEdit.Shell.Word
/-!
Shell scripts: commands and what is made of them.
-/
namespace StructuralEdit.Shell

inductive Redirect.Kind where
  | input
  | output
  | clobber
  | append
  | both
  | duplicateInput
  | duplicateOutput
  | allOutput
  | allAppend
  | document
  | line
  deriving DecidableEq, Repr

structure Redirect where
  descriptor : Nat
  kind : Redirect.Kind
  target : Word

inductive Condition where
  | unary (operator : Text) (w : Word)
  | binary (operator : Text) (a b : Word)
  | not (c : Condition)
  | both (a b : Condition)
  | either (a b : Condition)

inductive Script where
  | nothing
  /-- A command on some line. Late assignments are made when the command has run. -/
  | simple (line : Nat) (assignments late : List Assignment) (words : List Word)
      (redirects : List Redirect)
  | pipe (a b : Script)
  | not (s : Script)
  | both (a b : Script)
  | either (a b : Script)
  | sequence (a b : Script)
  | background (s : Script)
  | subshell (s : Script)
  | redirected (line : Nat) (s : Script) (redirects : List Redirect)
  | conditional (test yes no : Script)
  | each (line : Nat) (name : Text) (words : Option (List Word)) (body : Script)
  | menu (line : Nat) (name : Text) (words : Option (List Word)) (body : Script)
  | loop (wanted : Bool) (test body : Script)
  | choice (line : Nat) (subject : Word) (cases : Script)
  /-- A case, which is over at its end or goes on with the next body or the next patterns. -/
  | case (patterns : List Word) (body : Script) (fallsThrough tests : Bool) (rest : Script)
  | function (name : Text) (body : Script)
  | arithmetic (line : Nat) (expression : Word)
  | counting (line : Nat) (first test next : Word) (body : Script)
  | condition (line : Nat) (c : Condition)

namespace Script

def andThen : Script → Script → Script
  | .nothing, s => s
  | s, .nothing => s
  | s, t => .sequence s t

end Script

end StructuralEdit.Shell
