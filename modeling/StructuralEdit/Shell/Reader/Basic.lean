import StructuralEdit.Shell.Script
/-!
Reading scripts: what is left to read, the tokens that it is made of, and what can be wrong with it.
-/
namespace StructuralEdit.Shell

inductive Token where
  | finish
  | newline
  | operator (o : String)
  | redirect (descriptor : Option Nat) (o : String)
  | word (w : Word) (written : Text)

namespace Token

def isOperator (t : Token) (o : String) : Bool :=
  match t with
  | .operator p => o = p
  | _ => false

def isNewline : Token → Bool
  | .newline => true
  | _ => false

def isWord : Token → Bool
  | .word .. => true
  | _ => false

def isFinish : Token → Bool
  | .finish => true
  | _ => false

def plain? : Token → Option String
  | .word w _ => w.plain?.map String.ofList
  | _ => none

def isPlain (t : Token) (s : String) : Bool := t.plain? = some s

def reserved : List String :=
  ["!", "case", "do", "done", "elif", "else", "esac", "fi", "for", "if", "in", "then", "until",
    "while", "\x7b", "\x7d"]

def closing : List String := ["do", "done", "elif", "else", "esac", "fi", "then", "\x7d"]

def endsList (t : Token) : Bool :=
  match t with
  | .finish => true
  | .operator o => o = ")" || o = ";;" || o = ";&" || o = ";;&"
  | _ => (t.plain?.map closing.contains).getD false

end Token

inductive SyntaxError.Cause where
  | unexpected (found : Token) (expecting : Option String)
  | openQuote (mark : Char)
  | openBrace
  | openArithmetic
  | noArithmetic
  | openSubstitution (found : Token)
  | openBackquote
  | badLoopVariable
  | badFunctionName (name : Text)
  | badDescriptor
  | openItems
  | badItem (found : Token)
  | badCondition (found : Token)
  | noOperator (found : Token)
  | noOperand (isBinary : Bool) (found : Token)
  | openCondition (found : Token)
  | longCondition (found : Token)

structure SyntaxError where
  /-- The line on which reading stopped, and the one on which it began. -/
  line : Nat
  start : Nat
  left : Nat
  cause : SyntaxError.Cause

namespace SyntaxError

def tokenName : Token → String
  | .finish => "end of file"
  | .newline => "newline"
  | .operator o => "\"" ++ o ++ "\""
  | .redirect .. => "redirection"
  | t => match t.plain? with
    | some w => if Token.reserved.contains w then "\"" ++ w ++ "\"" else "word"
    | none => "word"

def Cause.message : Cause → String
  | .unexpected found expecting =>
    tokenName found ++ " unexpected" ++ match expecting with
      | some e => " (expecting " ++ e ++ ")"
      | none => ""
  | .openQuote _ => "Unterminated quoted string"
  | .openBrace => "Missing '\x7d'"
  | .openArithmetic | .noArithmetic => "Missing '))'"
  | .openSubstitution found => tokenName found ++ " unexpected (expecting \")\")"
  | .openBackquote => "EOF in backquote substitution"
  | .badLoopVariable => "Bad for loop variable"
  | .badFunctionName _ => "Bad function name"
  | .badDescriptor => "Bad fd number"
  | .openItems => "Missing ')'"
  | .badItem found => tokenName found ++ " unexpected"
  | .badCondition _ | .noOperator _ | .noOperand .. | .openCondition _ | .longCondition _ =>
    "Bad condition"

end SyntaxError

/-- A document whose lines come behind the line that names the mark at its end. -/
structure Document where
  stripsTabs : Bool
  isQuoted : Bool
  mark : Text

/-- What is left of a script, and what is known of what has been read. -/
structure Reader where
  dialect : Dialect
  aliases : List (Text × Text) := []
  groups : Bool := false
  rest : Text
  line : Nat := 1
  pushed : Option Token := none
  /-- Documents whose lines are still to come, the last one first. -/
  pending : List Document := []
  found : List Word := []
  known : List Word := []

abbrev Read := StateT Reader (Except SyntaxError)

/-- Where parts of words are read, which decides what is special there and what ends them. -/
inductive Context where
  | plain
  | double
  | document
  | arithmetic
  | brace (double : Bool)
  | regex
  | bracket
  | group
  deriving DecidableEq

def Context.quotes : Context → Bool
  | .plain | .brace false | .regex | .group => false
  | _ => true

/-- How a list of commands ends: with its line, before a closing word or one that may come at
once. -/
inductive ListKind where
  | line
  | body
  | choice
  deriving DecidableEq

inductive Goal where
  | parts (c : Context)
  | list (k : ListKind)
  | andOr
  | command
  | condition

abbrev Goal.Result : Goal → Type
  | .parts _ => Word
  | .condition => Condition
  | _ => Script

abbrev Readers := (g : Goal) → Read g.Result

namespace Read

def fail (cause : SyntaxError.Cause) : Read α := do
  let r ← get
  throw { line := r.line, start := r.line, left := r.rest.length, cause }

def unexpected (t : Token) (expecting : String) : Read α :=
  fail (.unexpected t (if expecting = "" then none else some expecting))

/-- Fails at a token where the line has to go on. Some shells take the end of the script for the end
of a line there. -/
def unexpectedHere (t : Token) : Read α := do
  let d := (← get).dialect
  unexpected (if d = .bash && t.isFinish then .newline else t) ""

def push (t : Token) : Read Unit := modify fun r => { r with pushed := some t }

def skip (n : Nat) : Read Unit :=
  modify fun r =>
    { r with rest := r.rest.drop n, line := r.line + (r.rest.take n).count '\n' }

def dropJoins : Text → Nat → Text × Nat
  | '\\' :: '\n' :: t, n => dropJoins t (n + 1)
  | t, n => (t, n)

def upcoming : Read Text := do
  let r ← get
  let (rest, joined) := dropJoins r.rest 0
  set { r with rest, line := r.line + joined }
  return rest

def takeWhile (p : Char → Bool) : Read Text := do
  let t := (← upcoming).takeWhile p
  skip t.length
  return t

def isBash : Read Bool := return (← get).dialect = .bash

end Read

end StructuralEdit.Shell
