import StructuralEdit.Shell.Records.Script
/-!
The tokens of scripts that process records.
-/
namespace StructuralEdit.Shell.Records

inductive Mistake where
  | near (shown : Text)
  | missing (c : Char) (shown : Text)
  | extra (c : Char)
  | stray (c : Char)
  | openText (t : Text)
  | openPattern (t : Text)
  | badPattern (reason : String) (t : Text)
  | wrongKind (kind : String) (name : Text)
  | argumentCount (name : Text)
  | tooManyArguments (name : Text)
  | undefined (name : Text)
  | redefined (name : Text)
  | duplicated (name : Text)
  | noFormat
  | misplaced (what : String)
  deriving DecidableEq

def Mistake.message : Mistake → Text
  | .near shown => "syntax error at or near ".toList ++ shown
  | .missing c shown => "missing ".toList ++ c :: " near ".toList ++ shown
  | .extra c => "extra '".toList ++ [c, '\'']
  | .stray c => "unexpected character '".toList ++ [c, '\'']
  | .openText t => "runaway string constant \"".toList ++ t ++ " ...".toList
  | .openPattern t => "runaway regular expression /".toList ++ t ++ " ...".toList
  | .badPattern reason t =>
    "regular expression compile failed (".toList ++ reason.toList ++ [')', '\n'] ++ t
  | .wrongKind kind name => "illegal reference to ".toList ++ kind.toList ++ ' ' :: name
  | .argumentCount name => "wrong number of arguments in call to ".toList ++ name
  | .tooManyArguments name => "too many arguments in call to ".toList ++ name
  | .undefined name => "function ".toList ++ name ++ " never defined".toList
  | .redefined name => "redefinition of ".toList ++ name
  | .duplicated name => name ++ " is duplicated in argument list".toList
  | .noFormat => "no arguments in call to printf".toList
  | .misplaced what => what.toList

structure Complaint where
  line : Nat
  mistake : Mistake

def Complaint.text (c : Complaint) : Text :=
  let place := match c.mistake with
    | .stray _ => shown c.line
    | _ => "line ".toList ++ shown c.line
  place ++ ':' :: ' ' :: c.mistake.message

inductive Token where
  | number (r : Real)
  | text (t : Text)
  | pattern (t : Text)
  | name (t : Text)
  | function (t : Text)
  | builtin (b : Builtin)
  | sign (s : String)
  | newline
  | implied
  | finish
  | broken (mistake : Mistake)
  deriving DecidableEq

/-- A token with its line and with how a complaint shows it. -/
structure Lexeme where
  token : Token
  line : Nat
  shown : Text
  depth : Nat

structure Scan where
  rest : Text
  line : Nat := 1
  tokens : List Lexeme := []
  parentheses : Nat := 0
  braces : Nat := 0
  functions : List Text := []
  names : List Text := []

namespace Scan

def last? (s : Scan) : Option Token := s.tokens.head?.map (·.token)

def add (token : Token) (shown : Text) (s : Scan) : Scan :=
  { s with
    tokens := { token, line := s.line, shown, depth := s.parentheses } :: s.tokens }

def drop (n : Nat) (s : Scan) : Scan := { s with rest := s.rest.drop n }

def skip (feeds : Bool) : Nat → Scan → Scan
  | 0, s => s
  | n + 1, s =>
    match s.rest with
    | '\\' :: '\n' :: rest => skip feeds n { s with rest, line := s.line + 1 }
    | '\\' :: '\r' :: '\n' :: rest => skip feeds n { s with rest, line := s.line + 1 }
    | '#' :: rest => skip feeds n { s with rest := rest.dropWhile (· ≠ '\n') }
    | '\n' :: rest => if feeds then skip feeds n { s with rest, line := s.line + 1 } else s
    | c :: rest => if isSpace c then skip feeds n { s with rest } else s
    | [] => s

def skipBlanks (s : Scan) : Scan := s.skip false (s.rest.length + 1)

def skipLines (s : Scan) : Scan := s.skip true (s.rest.length + 1)

def skipSemicolon (s : Scan) : Scan :=
  let s := s.skipBlanks
  match s.rest with
  | ';' :: rest => { s with rest }
  | _ => s

def divides (s : Scan) : Bool :=
  match s.last? with
  | some (.number _) | some (.text _) | some (.name _) | some (.pattern _) => true
  | some (.sign w) => [")", "]", "$", "++", "--", "NF"].contains w
  | some (.builtin .length) => true
  | _ => false

def escape (t : Text) : Text × Text :=
  match t with
  | [] => (['\\'], [])
  | 'x' :: rest =>
    let digits := (rest.take 2).takeWhile isHexDigit
    if digits.isEmpty then (['\\', 'x'], rest)
    else ([Char.ofNat (ofDigits 16 digits)], rest.drop digits.length)
  | c :: rest =>
    if isOctalDigit c then
      let digits := ((c :: rest).take 3).takeWhile isOctalDigit
      ([Char.ofNat (ofDigits 8 digits % 256)], (c :: rest).drop digits.length)
    else match ("\"\\abfnrtv".toList.zip "\"\\\x07\x08\x0c\n\r\t\x0b".toList).lookup c with
      | some d => ([d], rest)
      | none => (['\\', c], rest)

def unescape : Nat → Text → Text
  | 0, t => t
  | n + 1, t =>
    match t with
    | '\\' :: rest =>
      let (c, rest) := escape rest
      c ++ unescape n rest
    | c :: rest => c :: unescape n rest
    | [] => []

/-- Text up to the quote that closes it, as it is written, and what is behind that quote. -/
def quoted : Text → Option (Text × Text)
  | '\\' :: '\n' :: rest => quoted rest
  | '\\' :: c :: rest => (quoted rest).map fun (t, rest) => ('\\' :: c :: t, rest)
  | '"' :: rest => some ([], rest)
  | '\n' :: _ | [] => none
  | c :: rest => (quoted rest).map fun (t, rest) => (c :: t, rest)

/-- Where a character of an expression stands: outside of brackets, behind the one that opens a
bracket, further inside, or in the name of a class. -/
inductive Within where
  | nothing
  | opened
  | bracket
  | className
  deriving DecidableEq

/-- An expression up to the slash that closes it. Slashes in brackets do not count. -/
def slashed (w : Within) : Text → Option (Text × Text)
  | [] => none
  | '\\' :: '\n' :: rest => slashed w rest
  | '\\' :: c :: rest =>
    (slashed (if w = .opened then .bracket else w) rest).map fun (t, rest) =>
      (if c = '/' then '/' :: t else '\\' :: c :: t, rest)
  | c :: rest =>
    if c = '\n' then none
    else if c = '/' ∧ w = .nothing then some ([], rest)
    else
      let inside : Within := match w with
        | .nothing => if c = '[' then .opened else .nothing
        | .opened => if c = '^' then .opened else if c = '[' ∧ rest.head? = some ':' then .className
          else .bracket
        | .bracket =>
          if c = ']' then .nothing
          else if c = '[' ∧ rest.head? = some ':' then .className
          else .bracket
        | .className => if c = ']' then .bracket else .className
      (slashed inside rest).map fun (t, rest) => (c :: t, rest)

/-! ### Words -/

def builtins : List (String × Builtin) :=
  [("length", .length), ("index", .index), ("substr", .substr), ("match", .match_),
    ("split", .split), ("sub", .sub), ("gsub", .gsub), ("sprintf", .sprintf), ("sin", .sin),
    ("cos", .cos), ("atan2", .atan2), ("exp", .exp), ("log", .log), ("sqrt", .sqrt),
    ("int", .int), ("rand", .rand), ("srand", .srand), ("toupper", .toupper),
    ("tolower", .tolower), ("system", .system), ("close", .close), ("fflush", .fflush),
    ("systime", .systime)]

def keywords : List String :=
  ["BEGIN", "END", "break", "continue", "delete", "do", "else", "exit", "for", "function",
    "getline", "if", "in", "next", "nextfile", "print", "printf", "return", "while"]

/-- The token for a word. A name is one of a function if it was used as one, or if a parenthesis
is right behind it. -/
def word (w : Text) (s : Scan) : Scan :=
  let name := String.ofList w
  if keywords.contains name then
    let s := s.add (.sign name) w
    if name = "else" ∨ name = "do" then s.skipLines else s
  else match builtins.lookup name with
    | some b => s.add (.builtin b) w
    | none =>
      if name = "NF" then s.add (.sign "NF") ['$']
      else if s.functions.contains w then s.add (.function w) w
      else if s.last? = some (.sign "function") then
        let s := if s.names.contains w then s.add (.broken (.wrongKind "variable" w)) w else s
        { s.add (.function w) w with functions := w :: s.functions }
      else if s.names.contains w then s.add (.name w) w
      else if s.rest.head? = some '(' then
        { s.add (.function w) w with functions := w :: s.functions }
      else { s.add (.name w) w with names := w :: s.names }

def signs : List String :=
  ["&&", "||", "==", "!=", "<=", ">=", "!~", "++", "--", "+=", "-=", "*=", "/=", "%=", "^=",
    ">>", "+", "-", "*", "%", "^", "!", ">", "<", "|", "?", ":", "~", "$", "=", ",", "(", ")", "[",
    "]"]

def number (s : Scan) : Scan :=
  match Real.readPrefix? Real.double false s.rest with
  | some (r, rest) =>
    let shown := s.rest.take (s.rest.length - rest.length)
    { s.add (.number r) shown with rest }
  | none => s

/-- The token for a brace that closes. A statement in front of it is ended first. -/
def closingBrace (s : Scan) : Scan :=
  if s.braces = 0 then
    (s.add (.broken (.extra '\x7d')) ['\x7d']).skipSemicolon
  else
    let isEnded : Bool := match s.last? with
      | some .newline | some .implied | some (.sign ";") | some (.sign "\x7d") => true
      | _ => false
    let s := if isEnded then s else s.add .implied ['\x7d']
    let s := { s.add (.sign "\x7d") ['\x7d'] with braces := s.braces - 1 }
    (if s.braces = 0 then s.skipSemicolon else s).skipLines

def sign (s : Scan) : Scan :=
  match s.rest with
  | '{' :: rest =>
    skipLines { s.add (.sign "\x7b") ['\x7b'] with rest, braces := s.braces + 1 }
  | '\x7d' :: rest => { s with rest }.closingBrace
  | ';' :: rest => skipLines { s.add (.sign ";") [';'] with rest }
  | c :: rest =>
    match signs.find? fun w => w.toList.isPrefixOf s.rest with
    | none => { s.add (.broken (.stray c)) [c] with rest }
    | some w =>
      let s := s.drop w.length
      match w with
      | "(" => { s with parentheses := s.parentheses + 1 }.add (.sign w) w.toList
      | ")" =>
        if s.parentheses = 0 then s.add (.broken (.extra ')')) w.toList
        else { s with parentheses := s.parentheses - 1 }.add (.sign w) w.toList
      | "&&" | "||" | "," => (s.add (.sign w) w.toList).skipLines
      | _ => s.add (.sign w) w.toList
  | [] => s

def token (s : Scan) : Scan :=
  match s.rest with
  | [] => s
  | '\n' :: rest =>
    let s := s.add .newline "end of line".toList
    skipLines { s with rest, line := s.line + 1 }
  | '"' :: rest =>
    match quoted rest with
    | some (t, rest) =>
      { s.add (.text (unescape t.length t)) ('"' :: t ++ ['"']) with rest }
    | none =>
      let shown := (rest.takeWhile (· ≠ '\n')).take 10
      { s.add (.broken (.openText shown)) [] with rest := [] }
  | '/' :: rest =>
    if s.divides then
      match rest with
      | '=' :: rest => { s.add (.sign "/=") "/=".toList with rest }
      | _ => { s.add (.sign "/") ['/'] with rest }
    else match slashed .nothing rest with
      | some (t, rest) => { s.add (.pattern t) ('/' :: t ++ ['/']) with rest }
      | none =>
        let shown := (rest.takeWhile (· ≠ '\n')).take 10
        { s.add (.broken (.openPattern shown)) [] with rest := [] }
  | c :: rest =>
    if isNameStart c then
      let w := s.rest.takeWhile isNameChar
      word w (s.drop w.length)
    else if c.isDigit ∨ (c = '.' ∧ rest.head?.any Char.isDigit) then s.number
    else s.sign

def run : Nat → Scan → Scan
  | 0, s => s
  | n + 1, s =>
    let s := s.skipBlanks
    if s.rest.isEmpty then s else run n s.token

def lexemes (t : Text) : List Lexeme :=
  let s := run (t.length + 2) (skipLines { rest := t ++ ['\n'] })
  (s.add .finish "end of file".toList).tokens.reverse

end Scan

end StructuralEdit.Shell.Records
