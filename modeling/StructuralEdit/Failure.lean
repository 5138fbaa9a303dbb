import StructuralEdit.Change
import StructuralEdit.Regex.Program
/-!
Everything that can go wrong between a command and its effect, by cause, and the wording of each.
-/
namespace StructuralEdit

inductive Malformed where
  | commandExpected
  | commandUnknown (found : Char)
  | commandsTooDeep
  | trailing (found : Char)
  | groupUnclosed
  | filterEmpty
  | delimiterExpected (command : Char)
  | delimiterInvalid (found command : Char)
  | unterminated (delimiter : Char)
  | addressExpected
  | addressTooDeep
  | numberExpected
  | numberTooLarge (digits : Text)
  | pattern (source : Text) (error : Regex.PatternError)
  deriving DecidableEq, Repr

def quoteChar (c : Char) : String :=
  let inner :=
    match c with
    | '\n' => "\\n"
    | '\t' => "\\t"
    | '\r' => "\\r"
    | '\\' => "\\\\"
    | ' ' => " "
    | c => "\\u\x7b" ++ .ofList (Nat.toDigits 16 c.toNat) ++ "\x7d"
  "'" ++ inner ++ "'"

def Malformed.message : Malformed → String
  | .commandExpected => "expected command"
  | .commandUnknown c => "unknown command '" ++ c.toString ++ "'"
  | .commandsTooDeep => "commands nested too deeply"
  | .trailing c => "unexpected '" ++ c.toString ++ "' after command"
  | .groupUnclosed => "unclosed '\x7b'"
  | .filterEmpty => "empty pipe command"
  | .delimiterExpected c => "expected delimiter after '" ++ c.toString ++ "'"
  | .delimiterInvalid d c => "invalid delimiter " ++ quoteChar d ++ " after '" ++ c.toString ++ "'"
  | .unterminated d => "unterminated " ++ d.toString ++ "..." ++ d.toString
  | .addressExpected => "expected address after ','"
  | .addressTooDeep => "address nested too deeply"
  | .numberExpected => "expected number"
  | .numberTooLarge digits => "number too large: " ++ .ofList digits
  | .pattern source e => "invalid regular expression: " ++ e.message source

/-- A fault in the text of a command, and the byte of that text where it is noticed. -/
structure ParseError where
  offset : Nat
  why : Malformed
  deriving DecidableEq, Repr

inductive Failure where
  | malformed (e : ParseError)
  | notFound (pattern : Text)
  | filter (command detail : Text)
  | conflict (why : Change.Conflict)
  | emptyCommand
  | noBuffer
  | io (detail : Text)
  deriving DecidableEq, Repr

namespace Failure

def message : Failure → String
  | .malformed e => "syntax error at offset " ++ toString e.offset ++ ": " ++ e.why.message
  | .notFound pattern => "pattern not found: " ++ .ofList pattern
  | .filter command detail =>
    "pipe command `" ++ .ofList command ++ "` failed: " ++ .ofList detail
  | .conflict why => "internal error: " ++ why.message
  | .emptyCommand => "empty command"
  | .noBuffer => "no current buffer"
  | .io detail => "I/O error: " ++ .ofList detail

/-- Whether the failure is no fault of the command's author. -/
def isInternal : Failure → Bool
  | .conflict _ => true
  | _ => false

end Failure

end StructuralEdit
