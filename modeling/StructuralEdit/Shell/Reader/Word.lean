import StructuralEdit.Shell.Glob
import StructuralEdit.Shell.Reader.Basic
/-!
Reading words: quotes, expansions, and what is nested in them.
-/
namespace StructuralEdit.Shell

def endsWord (c : Char) : Bool := " \t\n;&|<>()".toList.contains c

def isSpecialParameter (c : Char) : Bool := c.isDigit || "$?#!@*-".toList.contains c

def isBackquote (c : Char) : Bool := c = '\x60'

def splitAround (mark : Char → Bool) (t : Text) : Option (Text × Text) :=
  match t.dropWhile fun c => !mark c with
  | [] => none
  | _ :: rest => some (t.takeWhile fun c => !mark c, rest)

/-- The digits of a number in some base at the beginning of text, at most so many. -/
def takeDigits (isDigit : Char → Bool) (n : Nat) (t : Text) : Text := (t.take n).takeWhile isDigit

def readEscapes : Nat → Text → Option (Text × Text)
  | 0, _ => none
  | _ + 1, [] => none
  | n + 1, c :: t =>
    let one (c : Char) (rest : Text) : Option (Text × Text) :=
      (readEscapes n rest).map fun (cs, rest) => (c :: cs, rest)
    let coded (base : Nat) (isDigit : Char → Bool) (most : Nat) (t : Text) :
        Option (Text × Text) :=
      let digits := takeDigits isDigit most t
      one (Char.ofNat (ofDigits base digits % 256)) (t.drop digits.length)
    let point (most : Nat) (t : Text) : Option (Text × Text) :=
      let digits := takeDigits isHexDigit most t
      (readEscapes n (t.drop digits.length)).map fun (cs, rest) =>
        (codePoint (ofDigits 16 digits) ++ cs, rest)
    if c = '\'' then some ([], t)
    else if c ≠ '\\' then one c t
    else match t with
      | [] => none
      | e :: rest =>
        match e with
        | 'n' => one '\n' rest
        | 't' => one '\t' rest
        | 'r' => one '\r' rest
        | 'a' => one '\x07' rest
        | 'b' => one '\x08' rest
        | 'f' => one '\x0c' rest
        | 'v' => one '\x0b' rest
        | 'e' | 'E' => one '\x1b' rest
        | 'x' =>
          if rest.head?.any isHexDigit then coded 16 isHexDigit 2 rest
          else (one 'x' rest).map fun (cs, rest) => ('\\' :: cs, rest)
        | 'u' => point 4 rest
        | 'U' => point 8 rest
        | 'c' => match rest with
          | k :: rest => one (Char.ofNat (k.toUpper.toNat % 32)) rest
          | [] => none
        | _ =>
          if isOctalDigit e then coded 8 isOctalDigit 3 t
          else if e = '\\' ∨ e = '\'' ∨ e = '"' ∨ e = '?' then one e rest
          else (one e rest).map fun (cs, rest) => ('\\' :: cs, rest)

namespace Read

def nested (r : Read α) : Read α := do
  let before ← get
  set { before with pushed := none, pending := [], found := [], known := [] }
  let a ← r
  modify fun after => { after with
    pushed := none, pending := before.pending, found := before.found, known := before.known }
  return a

def apart (t : Text) (r : Read α) : Read α := do
  let before ← get
  set { before with rest := t, pushed := none, pending := [], found := [], known := [] }
  let a ← r
  set before
  return a

def substituted (self : Readers) (token : Read Token) : Read Text := do
  let before := (← get).rest
  let line := (← get).line
  nested do
    let _ ← self (.list .choice)
    let t ← token
    unless t.isOperator ")" do
      let r ← get
      throw { line := r.line, start := line, left := r.rest.length, cause := .openSubstitution t }
  return before.take (before.length - (← get).rest.length - 1)

def backquoted (double : Bool) : Text → Option (Text × Nat)
  | [] => none
  | '\\' :: '\n' :: t => (backquoted double t).map fun (s, n) => (s, n + 2)
  | '\\' :: c :: t =>
    (backquoted double t).map fun (s, n) =>
      if c = '\\' ∨ c = '$' ∨ isBackquote c ∨ (double ∧ c = '"') then (c :: s, n + 2)
      else ('\\' :: c :: s, n + 2)
  | c :: t =>
    if isBackquote c then some ([], 1)
    else (backquoted double t).map fun (s, n) => (c :: s, n + 1)

def failAtEnd (cause : SyntaxError.Cause) : Read α := do
  let start := (← get).line
  skip (← get).rest.length
  throw { line := (← get).line, start, left := 0, cause }

def backquote (self : Readers) (token : Read Token) (double : Bool) : Read Part := do
  let line := (← get).line
  match backquoted double (← get).rest with
  | none => failAtEnd .openBackquote
  | some (script, n) =>
    if !(← isBash) then
      apart script do
        let _ ← self (.list .choice)
        let t ← token
        unless t.isFinish do unexpected t ""
    skip n
    return .output script line double

/-- The operation that the characters behind the name of a parameter mean, and their number. -/
def operation? (d : Dialect) (t : Text) : Option (Operation × Nat) :=
  match t with
  | ':' :: '-' :: _ => some (.default true, 2)
  | ':' :: '=' :: _ => some (.assign true, 2)
  | ':' :: '?' :: _ => some (.require true, 2)
  | ':' :: '+' :: _ => some (.alternative true, 2)
  | '-' :: _ => some (.default false, 1)
  | '=' :: _ => some (.assign false, 1)
  | '?' :: _ => some (.require false, 1)
  | '+' :: _ => some (.alternative false, 1)
  | '#' :: '#' :: _ => some (.trim false true, 2)
  | '#' :: _ => some (.trim false false, 1)
  | '%' :: '%' :: _ => some (.trim true true, 2)
  | '%' :: _ => some (.trim true false, 1)
  | _ =>
    if d = .dash then none
    else match t with
      | ':' :: '\x7d' :: _ => none
      | ':' :: _ => some (.slice, 1)
      | '/' :: '/' :: _ => some (.replace true none, 2)
      | '/' :: '#' :: _ => some (.replace false (some '#'), 2)
      | '/' :: '%' :: _ => some (.replace false (some '%'), 2)
      | '/' :: _ => some (.replace false none, 1)
      | '^' :: '^' :: _ => some (.recase .upper true, 2)
      | '^' :: _ => some (.recase .upper false, 1)
      | ',' :: ',' :: _ => some (.recase .lower true, 2)
      | ',' :: _ => some (.recase .lower false, 1)
      | '~' :: '~' :: _ => some (.recase .swapped true, 2)
      | '~' :: _ => some (.recase .swapped false, 1)
      | '@' :: k :: '\x7d' :: _ => some (.transform k, 2)
      | _ => none

/-- Whether the word of an operation is read as if there were no quotes around it. -/
def readsPlain : Operation → Bool
  | .trim .. | .slice | .replace .. | .recase .. => true
  | _ => false

def operandsOf (o : Operation) (w : Word) : List Word :=
  let around (c : Char) : List Word := match Word.splitAt? c w with
    | some (a, b) => [a, b]
    | none => [w]
  match o with
  | .slice => around ':'
  | .replace .. => around '/'
  | _ => [w]

def parameterName : Read Text := do
  match ← upcoming with
  | c :: _ =>
    if isNameStart c then takeWhile isNameChar
    else if c.isDigit then takeWhile Char.isDigit
    else if isSpecialParameter c then
      skip 1
      return [c]
    else return []
  | [] => return []

def subscript? (self : Readers) : Read Word := do
  match (← get).dialect, ← upcoming with
  | .bash, '[' :: t =>
    match splitAround (· = ']') t with
    | some (inner, _) =>
      let w ← apart inner (self (.parts .document))
      skip (inner.length + 2)
      return w
    | none => return []
  | _, _ => return []

def braced (self : Readers) (double : Bool) : Read Part := do
  let before := (← get).rest
  let bash ← isBash
  let next ← upcoming
  let bad : Read Part := do
    let _ ← self (.parts (.brace double))
    let written := before.take (before.length - (← get).rest.length)
    return .parameter ("$\x7b".toList ++ written) [] .bad [] double
  let isLength : Bool := match next with
    | '#' :: c :: rest =>
      isNameChar c || (isSpecialParameter c && (rest.head? == some '\x7d'))
    | _ => false
  if isLength then
    skip 1
    let name ← parameterName
    let sub ← subscript? self
    match ← upcoming with
    | '\x7d' :: _ =>
      skip 1
      return .parameter name sub .length [] double
    | _ => bad
  else
    let indirect : Bool := match next with
      | '!' :: c :: _ => bash && isNameChar c
      | _ => false
    if indirect then skip 1
    let name ← parameterName
    if name.isEmpty then bad
    else
      let sub ← subscript? self
      let next ← upcoming
      match indirect, next with
      | true, '*' :: '\x7d' :: _ | true, '@' :: '\x7d' :: _ =>
        let all := next.take 1
        skip 2
        return .parameter name [.char (all.headD '*') true] .names [] double
      | true, '\x7d' :: _ =>
        skip 1
        let all : Bool := match sub with
          | [.char '@' _] | [.char '*' _] => true
          | _ => false
        return .parameter name sub (if all then .keys else .indirect) [] double
      | true, _ => bad
      | false, '\x7d' :: _ =>
        skip 1
        return .parameter name sub .value [] double
      | false, _ =>
        match operation? (← get).dialect next with
        | some (o, n) =>
          skip n
          let w ← self (.parts (.brace (double && !readsPlain o)))
          return .parameter name sub o (operandsOf o w) double
        | none => bad

def dollar (self : Readers) (token : Read Token) (context : Context) : Read (List Part) := do
  let double := context.quotes
  match ← upcoming with
  | '(' :: t =>
    let line := (← get).line
    let substitution : Read (List Part) := do
      skip 1
      return [.output (← substituted self token) line double]
    match dropJoins t 0 with
    | ('(' :: _, joined) =>
      let before ← get
      let sum : Read (List Part) := do
        skip (2 + 2 * joined)
        return [.arithmetic (← self (.parts .arithmetic)) double]
      if ← isBash then
        tryCatch sum fun e => do
          match e.cause with
          | .noArithmetic =>
            set before
            substitution
          | _ => throw e
      else sum
    | _ => substitution
  | '{' :: _ =>
    skip 1
    return [← braced self double]
  | '\'' :: t =>
    if (← isBash) && !double then
      match readEscapes (t.length + 1) t with
      | some (cs, rest) =>
        skip (t.length - rest.length + 1)
        return .quotes :: Word.ofText true cs
      | none => failAtEnd (.openQuote '\'')
    else return [.char '$' double]
  | '[' :: _ =>
    if ← isBash then
      skip 1
      return [.arithmetic (← self (.parts .bracket)) double]
    else return [.char '$' double]
  | c :: _ =>
    if c = '"' ∧ !double ∧ (← get).dialect = .bash then return []
    else if isNameStart c then
      return [.parameter (← takeWhile isNameChar) [] .value [] double]
    else if isSpecialParameter c then
      skip 1
      return [.parameter [c] [] .value [] double]
    else return [.char '$' double]
  | [] => return [.char '$' double]

def isEscapable (context : Context) (c : Char) : Bool :=
  c = '\\' || c = '$' || isBackquote c ||
    match context with
    | .double | .arithmetic | .bracket => c = '"'
    | .brace _ => c = '"' || c = '\x7d'
    | _ => false

def quotedParts (w : Word) : Word :=
  let isAll : Part → Bool
    | .parameter name sub o _ _ =>
      o ≠ .length && (name = ['@'] || match sub with
        | [.char '@' _] => true
        | _ => false)
    | _ => false
  match w with
  | [p] => if isAll p then [p] else [.quotes, p]
  | w => .quotes :: w

/-- Reads parts up to what ends them, with those before them in reverse. The depth counts the
parentheses that are open. The first argument bounds the characters. -/
def parts (self : Readers) (token : Read Token) (context : Context) :
    Nat → Nat → Word → Read Word
  | 0, _, w => return w.reverse
  | n + 1, depth, w => do
    let quoted := context.quotes
    let go (depth : Nat) (more : Word) : Read Word :=
      parts self token context n depth (more.reverse ++ w)
    let take (c : Char) : Read Word := do
      skip 1
      go depth [.char c quoted]
    match (← get).rest with
    | [] =>
      match context with
      | .double => failAtEnd (.openQuote '"')
      | .brace _ => failAtEnd .openBrace
      | .arithmetic => failAtEnd .openArithmetic
      | .bracket => failAtEnd (.openQuote ']')
      | .group => failAtEnd (.openQuote ')')
      | _ => return w.reverse
    | c :: t =>
      if c = '\\' then
        match t with
        | [] =>
          skip 1
          go depth [.char c true]
        | '\n' :: _ =>
          skip 2
          go depth []
        | e :: _ =>
          skip 2
          if quoted && !isEscapable context e then go depth [.char c true, .char e true]
          else go depth [.char e true]
      else if c = '$' then
        skip 1
        go depth (← dollar self token context)
      else if isBackquote c then
        skip 1
        go depth [← backquote self token quoted]
      else match context with
        | .document => take c
        | .double =>
          if c = '"' then
            skip 1
            return w.reverse
          else take c
        | .arithmetic =>
          if c = '(' then
            skip 1
            go (depth + 1) [.char c quoted]
          else if c = ')' then
            if 0 < depth then
              skip 1
              go (depth - 1) [.char c quoted]
            else match dropJoins t 0 with
              | (')' :: _, joined) =>
                skip (2 + 2 * joined)
                return w.reverse
              | _ =>
                if ← isBash then fail .noArithmetic
                take c
          else if c = '"' ∧ (← get).dialect = .bash then
            skip 1
            go depth []
          else take c
        | .bracket =>
          if c = '[' then
            skip 1
            go (depth + 1) [.char c quoted]
          else if c = ']' then
            skip 1
            if depth = 0 then return w.reverse else go (depth - 1) [.char c quoted]
          else if c = '"' then
            skip 1
            go depth []
          else take c
        | .brace true =>
          if c = '\x7d' then
            skip 1
            return w.reverse
          else if c = '"' then
            skip 1
            go depth []
          else take c
        | _ =>
          if c = '\'' then
            match splitAround (· = c) t with
            | some (inner, _) =>
              skip (inner.length + 2)
              go depth (.quotes :: Word.ofText true inner)
            | none => failAtEnd (.openQuote c)
          else if c = '"' then
            skip 1
            go depth (quotedParts (← self (.parts .double)))
          else if context = .brace false ∧ c = '\x7d' then
            skip 1
            return w.reverse
          else if context = .plain ∧ (c = '<' ∨ c = '>') ∧ t.head? = some '('
              ∧ (← get).dialect = .bash then
            let line := (← get).line
            skip 2
            go depth [.stream (c = '<') (← substituted self token) line]
          else if context = .plain ∧ (← get).groups ∧ Glob.isGroupMark c ∧ t.head? = some '(' then
            skip 2
            let inner ← self (.parts .group)
            go depth (.char c false :: .char '(' false :: inner ++ [.char ')' false])
          else if context = .plain ∧ endsWord c then return w.reverse
          else if context = .group then
            if c = '(' then
              skip 1
              go (depth + 1) [.char c quoted]
            else if c = ')' then
              skip 1
              if depth = 0 then return w.reverse else go (depth - 1) [.char c quoted]
            else take c
          else if context = .regex then
            if c = '(' then
              skip 1
              go (depth + 1) [.char c quoted]
            else if c = ')' then
              if depth = 0 then return w.reverse
              else
                skip 1
                go (depth - 1) [.char c quoted]
            else if depth = 0 ∧ isSpace c then return w.reverse
            else take c
          else take c

end Read

end StructuralEdit.Shell
