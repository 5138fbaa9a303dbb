import StructuralEdit.Regex.Tree
import StructuralEdit.Text.Lines
/-!
What can be wrong with a pattern, and the report that shows it: the pattern with marks under
the stretches at fault, then the cause.
-/
namespace StructuralEdit.Regex

inductive Cause where
  | classEscapeInvalid
  | classRangeInvalid
  | classRangeLiteral
  | classUnclosed
  | decimalInvalid
  | hexEmpty
  | hexInvalid
  | hexInvalidDigit
  | escapeUnfinished
  | escapeUnrecognized
  | flagDanglingNegation
  | flagDuplicate
  | flagRepeatedNegation
  | flagUnfinished
  | flagUnrecognized
  | groupNameDuplicate
  | groupNameEmpty
  | groupNameInvalid
  | groupNameUnfinished
  | groupUnclosed
  | groupUnopened
  | nestedTooDeeply (limit : Nat)
  | repetitionCountInvalid
  | repetitionCountMissing
  | repetitionCountUnclosed
  | repetitionMissing
  | wordBoundaryUnclosed
  | wordBoundaryUnrecognized
  | wordBoundaryUnfinished
  | classNameInvalid
  | backreference
  | lookAround
  | unicodeNotAllowed
  | invalidUtf8
  | unknownProperty
  | unknownValue
  deriving DecidableEq, Repr

def Cause.message : Cause → String
  | .classEscapeInvalid => "invalid escape sequence found in character class"
  | .classRangeInvalid => "invalid character class range, the start must be <= the end"
  | .classRangeLiteral => "invalid range boundary, must be a literal"
  | .classUnclosed => "unclosed character class"
  | .decimalInvalid => "decimal literal invalid"
  | .hexEmpty => "hexadecimal literal empty"
  | .hexInvalid => "hexadecimal literal is not a Unicode scalar value"
  | .hexInvalidDigit => "invalid hexadecimal digit"
  | .escapeUnfinished => "incomplete escape sequence, reached end of pattern prematurely"
  | .escapeUnrecognized => "unrecognized escape sequence"
  | .flagDanglingNegation => "dangling flag negation operator"
  | .flagDuplicate => "duplicate flag"
  | .flagRepeatedNegation => "flag negation operator repeated"
  | .flagUnfinished => "expected flag but got end of regex"
  | .flagUnrecognized => "unrecognized flag"
  | .groupNameDuplicate => "duplicate capture group name"
  | .groupNameEmpty => "empty capture group name"
  | .groupNameInvalid => "invalid capture group character"
  | .groupNameUnfinished => "unclosed capture group name"
  | .groupUnclosed => "unclosed group"
  | .groupUnopened => "unopened group"
  | .nestedTooDeeply limit =>
    "exceed the maximum number of nested parentheses/brackets (" ++ toString limit ++ ")"
  | .repetitionCountInvalid => "invalid repetition count range, the start must be <= the end"
  | .repetitionCountMissing => "repetition quantifier expects a valid decimal"
  | .repetitionCountUnclosed => "unclosed counted repetition"
  | .repetitionMissing => "repetition operator missing expression"
  | .wordBoundaryUnclosed =>
    "special word boundary assertion is either unclosed or contains an invalid character"
  | .wordBoundaryUnrecognized =>
    "unrecognized special word boundary assertion, valid choices are: start, end, " ++
      "start-half or end-half"
  | .wordBoundaryUnfinished =>
    "found either the beginning of a special word boundary or a bounded repetition on a \\b " ++
      "with an opening brace, but no closing brace"
  | .classNameInvalid => "invalid Unicode character class"
  | .backreference => "backreferences are not supported"
  | .lookAround => "look-around, including look-ahead and look-behind, is not supported"
  | .unicodeNotAllowed => "Unicode not allowed here"
  | .invalidUtf8 => "pattern can match invalid UTF-8"
  | .unknownProperty => "Unicode property not found"
  | .unknownValue => "Unicode property value not found"

/-- A cause with the stretch of the pattern at fault, and an earlier one it collides with. -/
structure Fault where
  cause : Cause
  span : Span
  earlier : Option Span := none
  deriving DecidableEq, Repr

namespace Fault

def marksFrom (column : Nat) : List Span → List Char
  | [] => []
  | s :: ss =>
    let blanks := s.start.column - 1 - column
    let marks := max 1 (s.stop.column - s.start.column)
    List.replicate blanks ' ' ++ List.replicate marks '^' ++
      marksFrom (column + blanks + marks) ss

def padLeft (width : Nat) (s : String) : String :=
  .ofList (List.replicate (width - s.length) ' ') ++ s

def notateLine (numberWidth : Nat) (spans : List Span) (number : Nat) (line : List Char) :
    String :=
  let lead := if numberWidth = 0 then "    " else padLeft numberWidth (toString number) ++ ": "
  let here := spans.filter fun s => s.start.line = number
  lead ++ .ofList line ++ "\n" ++
    if here.isEmpty then ""
    else .ofList (List.replicate lead.length ' ' ++ marksFrom 0 here) ++ "\n"

def notate (numberWidth : Nat) (spans : List Span) : Nat → List (List Char) → String
  | _, [] => ""
  | n, l :: ls => notateLine numberWidth spans n l ++ notate numberWidth spans (n + 1) ls

def lineNote (s : Span) : String :=
  "on line " ++ toString s.start.line ++ " (column " ++ toString s.start.column ++
    ") through line " ++ toString s.stop.line ++ " (column " ++ toString (s.stop.column - 1) ++
    ")\n"

/-- The report on a pattern. A pattern of several lines is shown between rules with its lines
numbered. -/
def report (pattern : List Char) (f : Fault) : String :=
  let spans := f.earlier.toList ++ [f.span]
  let (single, multiple) := spans.partition fun s => s.start.line = s.stop.line
  let lines := Text.rows pattern
  let count := lines.length + if pattern.getLast? = some '\n' then 1 else 0
  let width := if count ≤ 1 then 0 else (toString count).length
  let shown := notate width single 1 lines
  let rule := String.ofList (List.replicate 79 '~') ++ "\n"
  "regex parse error:\n" ++
    (if '\n' ∈ pattern then rule ++ shown ++ rule ++ .join (multiple.map lineNote) else shown) ++
    "error: " ++ f.cause.message

end Fault

end StructuralEdit.Regex
