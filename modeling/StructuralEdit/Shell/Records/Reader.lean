import StructuralEdit.Shell.Records.Token
/-!
Reading the scripts that process records.
-/
namespace StructuralEdit.Shell.Records

/-! ### Expressions that are searched for -/

def literalChar (c : Char) : Text :=
  if ".[]()*+?|^$\\\x7b\x7d".toList.contains c then ['\\', c] else [c]

def bracketChar (c : Char) : Text :=
  if c.isAlphanum then [c] else "[.".toList ++ [c] ++ ".]".toList

def patternEscape (t : Text) : Char × Text :=
  match Scan.escape t with
  | ([c], rest) => (c, rest)
  | _ => (t.headD '\\', t.tail)

def isInterval (t : Text) : Bool :=
  let low := t.takeWhile Char.isDigit
  match t.drop low.length with
  | '\x7d' :: _ => !low.isEmpty
  | ',' :: rest =>
    let high := rest.takeWhile Char.isDigit
    (rest.drop high.length).head? == some '\x7d' && !(low.isEmpty && high.isEmpty)
  | _ => false

structure PatternPlace where
  within : Scan.Within := .nothing
  depth : Nat := 0
  operand : Option Char := none

def plainPattern : Nat → PatternPlace → Text → Except String Text
  | 0, _, t => .ok t
  | _ + 1, w, [] =>
    match w.within, w.depth, w.operand with
    | .nothing, 0, some _ => .ok []
    | .nothing, 0, none => .error "missing operand"
    | .nothing, _, _ => .error "missing ')'"
    | _, _, _ => .error "bad class -- [], [^] or ["
  | n + 1, w, c :: rest =>
    let go (w : PatternPlace) (lead : Text) (rest : Text) : Except String Text :=
      (plainPattern n w rest).map (lead ++ ·)
    let operand (lead : Text) (rest : Text) : Except String Text :=
      go { w with operand := some c } lead rest
    match w.within with
    | .nothing =>
      match c with
      | '\\' =>
        if rest.isEmpty then operand ['\\', '\\'] []
        else
          let (d, rest) := patternEscape rest
          operand (literalChar d) rest
      | '[' =>
        match rest with
        | '^' :: rest => go { w with within := .opened, operand := some c } ['[', '^'] rest
        | _ => go { w with within := .opened, operand := some c } ['['] rest
      | '(' => go { w with depth := w.depth + 1, operand := none } [c] rest
      | ')' =>
        if w.depth = 0 then operand ['\\', c] rest
        else if w.operand.isNone then .error "missing operand"
        else go { w with depth := w.depth - 1, operand := some c } [c] rest
      | '|' => if w.operand.isNone then .error "missing operand"
        else go { w with operand := none } [c] rest
      | '*' | '+' | '?' =>
        match w.operand with
        | none => .error "missing operand"
        | some '^' => .error "syntax error ^* or ^+"
        | some _ => go w [c] rest
      | '\x7b' => if isInterval rest then go w [c] rest else operand ['\\', c] rest
      | _ => operand [c] rest
    | .opened =>
      if c = ']' then go { w with within := .bracket } (bracketChar c) rest
      else go { w with within := .bracket } [] (c :: rest)
    | .bracket =>
      if c = '\\' ∧ !rest.isEmpty then
        let (d, rest) := patternEscape rest
        go w (bracketChar d) rest
      else if c = ']' then go { w with within := .nothing } [c] rest
      else if c = '[' ∧ rest.head? = some ':' then go { w with within := .className } [c] rest
      else if c = '-' then go w [c] rest
      else go w (bracketChar c) rest
    | .className => go { w with within := if c = ']' then .bracket else .className } [c] rest

def pattern? (t : Text) : Except String Posix := do
  let plain ← if t.isEmpty then pure [] else plainPattern (2 * t.length + 2) {} t
  match Posix.read { grammar := .extended } plain with
  | .ok p => return p
  | .error .openBracket | .error .badClass => throw "bad class -- [], [^] or ["
  | .error m => throw m.message

/-! ### What has been read -/

/-- How a mistake is left: reading goes on behind it, or it is over. -/
inductive Stop where
  | mistake
  | over

/-- A function whose body is read, with what is known of its parameters. -/
structure Scope where
  parameters : List Text
  kinds : List (Text × Bool) := []

structure Reading where
  rest : List Lexeme
  complaints : List Complaint := []
  kinds : List (Text × Bool)
  scope : Option Scope := none
  /-- How many parentheses were open when reading went on behind a mistake. -/
  settled : Nat := 0
  blocks : Nat := 0
  loops : Nat := 0
  inAction : Bool := false
  ranges : Nat := 0
  calls : List (Text × Nat × Nat) := []
  script : Script := {}

abbrev Reader := ExceptT Stop (StateM Reading)

namespace Reader

def complaintLimit : Nat := 5

def complainAt (line : Nat) (m : Mistake) : Reader Unit := do
  modify fun s => { s with complaints := ⟨line, m⟩ :: s.complaints }
  if complaintLimit ≤ (← get).complaints.length then throw .over

/-- The next token. Marks that close nothing are passed over with a complaint. -/
def peekIn : List Lexeme → Reader Lexeme
  | [] => return { token := .finish, line := 0, shown := [], depth := 0 }
  | l :: rest =>
    match l.token with
    | .broken (.extra c) => do
      modify fun s => { s with rest }
      complainAt l.line (.extra c)
      peekIn rest
    | .broken m => do
      complainAt l.line m
      throw .over
    | _ => return l

def peek : Reader Lexeme := do peekIn (← get).rest

def token : Reader Token := return (← peek).token

def advance : Reader Unit := modify fun s => { s with rest := s.rest.tail }

def fail : Reader α := do
  let l ← peek
  let isEnd : Bool := match l.token with
    | .newline | .implied | .sign ";" | .sign "\x7d" => true
    | _ => false
  let s ← get
  complainAt l.line (match l.token with
    | .finish => if 0 < s.blocks then .missing '\x7d' l.shown else .near l.shown
    | _ => if isEnd && s.settled < l.depth then .missing ')' l.shown else .near l.shown)
  throw .mistake

def complain (m : Mistake) : Reader Unit := do complainAt (← peek).line m

def isNext (s : String) : Reader Bool := return (← token) = .sign s

def expect (s : String) : Reader Unit := do
  if ← isNext s then advance else fail

def accept (s : String) : Reader Bool := do
  if ← isNext s then
    advance
    return true
  else return false

def note (name : Text) (isArray : Bool) : Reader Unit := do
  let s ← get
  let kind (b : Bool) : String := if b then "array" else "variable"
  match s.scope with
  | some scope =>
    if scope.parameters.contains name then
      match scope.kinds.lookup name with
      | some b => if b ≠ isArray then complain (.wrongKind ("local " ++ kind b) name)
      | none =>
        set { s with scope := some { scope with kinds := (name, isArray) :: scope.kinds } }
    else global s kind
  | none => global s kind
where
  global (s : Reading) (kind : Bool → String) : Reader Unit :=
    match s.kinds.lookup name with
    | some b => if b ≠ isArray then complain (.wrongKind (kind b) name) else return
    | none => set { s with kinds := (name, isArray) :: s.kinds }

/-! ### Expressions -/

def argumentBounds : Builtin → Nat × Nat
  | .length | .srand | .fflush => (0, 1)
  | .rand | .systime => (0, 0)
  | .index | .match_ | .atan2 => (2, 2)
  | .substr | .split | .sub | .gsub => (2, 3)
  | .sprintf => (1, 1000)
  | _ => (1, 1)

def builtinName (b : Builtin) : Text :=
  match Scan.builtins.find? fun x => x.2 = b with
  | some (name, _) => name.toList
  | none => []

def assignment? : Token → Option (Option Arithmetic)
  | .sign "=" => some none
  | .sign "+=" => some (some .add)
  | .sign "-=" => some (some .sub)
  | .sign "*=" => some (some .mul)
  | .sign "/=" => some (some .div)
  | .sign "%=" => some (some .mod)
  | .sign "^=" => some (some .pow)
  | _ => none

def relation? (inPrint : Bool) : Token → Option Relation
  | .sign "<" => some .less
  | .sign "<=" => some .lessOrEqual
  | .sign "==" => some .equal
  | .sign "!=" => some .unequal
  | .sign ">" => if inPrint then none else some .greater
  | .sign ">=" => some .greaterOrEqual
  | _ => none

/-- Whether a token can begin an operand that is joined to the one before it. -/
def startsOperand : Token → Bool
  | .number _ | .text _ | .pattern _ | .name _ | .function _ | .builtin _ => true
  | .sign s => ["NF", "$", "!", "(", "++", "--", "getline"].contains s
  | _ => false

def startsTarget : Token → Bool
  | .name _ | .sign "$" | .sign "NF" => true
  | _ => false

def nameOf (s : String) : Expr := .variable s.toList

abbrev Level := Nat

def arrayName : Reader Text := do
  match ← token with
  | .name t =>
    advance
    note t true
    return t
  | _ => fail

mutual

/-- Reads an expression. Behind a print statement some signs end it. The first argument of this
function and those below bounds how deep expressions are nested. -/
def value : Nat → Bool → Reader Expr
  | 0, _ => fail
  | n + 1, p => do
    let test ← binary n p 0
    if ← accept "?" then
      let yes ← value n p
      expect ":"
      return .choice test yes (← value n p)
    else return test

def binary : Nat → Bool → Level → Reader Expr
  | 0, _, _ => fail
  | n + 1, p, level => do
    if level = 8 then unary n p
    else
      let a ← binary n p (level + 1)
      if level = 5 ∧ a.isTarget then
        match assignment? (← token) with
        | some op =>
          advance
          return .assign op a (← value n p)
        | none => binaryRest n p level a
      else binaryRest n p level a

def binaryRest : Nat → Bool → Level → Expr → Reader Expr
  | 0, _, _, _ => fail
  | n + 1, p, level, a => do
    let t ← token
    let operand (f : Expr → Expr) : Reader Expr := do
      advance
      let b ← binary n p (level + 1)
      binaryRest n p level (f b)
    match level, t with
    | 0, .sign "||" => operand (.either a)
    | 1, .sign "&&" => operand (.both a)
    | 2, .sign "in" =>
      advance
      let array ← arrayName
      binaryRest n p level (.member [a] array)
    | 3, .sign "~" => operand (.search true a)
    | 3, .sign "!~" => operand (.search false a)
    | 4, t =>
      match relation? p t with
      | some r => operand (.compare r a)
      | none => return a
    | 5, t =>
      if startsOperand t then
        let b ← binary n p (level + 1)
        binaryRest n p level (.join a b)
      else return a
    | 6, .sign "+" => operand (.arithmetic .add a)
    | 6, .sign "-" => operand (.arithmetic .sub a)
    | 7, .sign "*" => operand (.arithmetic .mul a)
    | 7, .sign "/" => operand (.arithmetic .div a)
    | 7, .sign "%" => operand (.arithmetic .mod a)
    | _, _ => return a

def unary : Nat → Bool → Reader Expr
  | 0, _ => fail
  | n + 1, p => do
    match ← token with
    | .sign "!" => advance; return .not (← unary n p)
    | .sign "-" => advance; return .negate (← unary n p)
    | .sign "+" => advance; return .plus (← unary n p)
    | _ => piped n p (← power n)

def piped : Nat → Bool → Expr → Reader Expr
  | 0, _, _ => fail
  | n + 1, p, a => do
    if !p && (← isNext "|") then
      advance
      expect "getline"
      let t ← optionalTarget n
      piped n p (.getline (.command a) t)
    else return a

def power : Nat → Reader Expr
  | 0 => fail
  | n + 1 => do
    let a ← stepped n
    if ← accept "^" then return .arithmetic .pow a (← exponent n) else return a

def exponent : Nat → Reader Expr
  | 0 => fail
  | n + 1 => do
    match ← token with
    | .sign "-" => advance; return .negate (← exponent n)
    | .sign "+" => advance; return .plus (← exponent n)
    | .sign "!" => advance; return .not (← exponent n)
    | _ => power n

def stepped : Nat → Reader Expr
  | 0 => fail
  | n + 1 => do
    let a ← primary n
    if a.isTarget then
      if ← accept "++" then return .step true false a
      else if ← accept "--" then return .step false false a
      else return a
    else return a

def optionalTarget : Nat → Reader (Option Expr)
  | 0 => fail
  | n + 1 => do
    if startsTarget (← token) then return some (← target n) else return none

def target : Nat → Reader Expr
  | 0 => fail
  | n + 1 => do
    match ← token with
    | .sign "NF" => advance; return nameOf "NF"
    | .sign "$" =>
      advance
      fieldOf n
    | .name t =>
      advance
      named n t
    | _ => fail

def fieldOf : Nat → Reader Expr
  | 0 => fail
  | n + 1 => do
    match ← token with
    | .sign "-" => advance; return .field (.negate (← primary n))
    | .sign "+" => advance; return .field (.plus (← primary n))
    | .sign "!" => advance; return .field (.not (← primary n))
    | _ => return .field (← primary n)

def named : Nat → Text → Reader Expr
  | 0, _ => fail
  | n + 1, t => do
    if ← accept "[" then
      note t true
      let subscripts ← listOf n
      expect "]"
      return .element t subscripts
    else
      note t false
      return .variable t

def listOf : Nat → Reader (List Expr)
  | 0 => fail
  | n + 1 => do
    let e ← value n false
    if ← accept "," then return e :: (← listOf n) else return [e]

/-- Reads arguments. Names alone can be those of arrays. -/
def arguments : Nat → Reader (List Expr)
  | 0 => fail
  | n + 1 => do
    if ← isNext ")" then return []
    let s ← get
    let tokens : List Token := (s.rest.take 2).map (·.token)
    let e ← match tokens with
      | [.name t, .sign ","] | [.name t, .sign ")"] => do
        advance
        pure (Expr.variable t)
      | _ => value n false
    if ← accept "," then
      if ← isNext ")" then fail
      return e :: (← arguments n)
    else return [e]

def primary : Nat → Reader Expr
  | 0 => fail
  | n + 1 => do
    let l ← peek
    match l.token with
    | .number r => advance; return .number r
    | .text t => advance; return .text t
    | .pattern t =>
      advance
      match pattern? t with
      | .ok p => return .pattern p
      | .error reason =>
        complainAt l.line (.badPattern reason t)
        throw .over
    | .name t =>
      advance
      named n t
    | .function t =>
      advance
      expect "("
      let es ← arguments n
      expect ")"
      modify fun s => { s with calls := (t, es.length, l.line) :: s.calls }
      return .call t es
    | .builtin b =>
      advance
      builtin n b
    | .sign "NF" => advance; return nameOf "NF"
    | .sign "$" =>
      advance
      fieldOf n
    | .sign "(" =>
      advance
      let es ← listOf n
      expect ")"
      match es with
      | [e] => return e
      | es =>
        expect "in"
        return .member es (← arrayName)
    | .sign "++" =>
      advance
      return .step true true (← target n)
    | .sign "--" =>
      advance
      return .step false true (← target n)
    | .sign "getline" =>
      advance
      let t ← optionalTarget n
      if ← accept "<" then return .getline (.file (← power n)) t
      else return .getline .input t
    | _ => fail

def builtin : Nat → Builtin → Reader Expr
  | 0, _ => fail
  | n + 1, b => do
    let next ← isNext "("
    match b, next with
    | .length, false => return .builtin b []
    | .length, true =>
      advance
      if ← accept ")" then return .builtin b []
      let tokens : List Token := ((← get).rest.take 2).map (·.token)
      let e ← match tokens with
        | [.name t, .sign ")"] => do
          advance
          pure (Expr.variable t)
        | _ => value n false
      expect ")"
      return .builtin b [e]
    | .sub, _ | .gsub, _ =>
      expect "("
      let p ← value n false
      expect ","
      let r ← value n false
      let es ← if ← accept "," then pure [p, r, ← target n] else pure [p, r]
      expect ")"
      return .builtin b es
    | .split, _ =>
      expect "("
      let e ← value n false
      expect ","
      let array ← arrayName
      let es ← if ← accept "," then pure [e, .variable array, ← value n false]
        else pure [e, .variable array]
      expect ")"
      return .builtin b es
    | .match_, _ =>
      expect "("
      let e ← value n false
      expect ","
      let p ← value n false
      expect ")"
      return .builtin b [e, p]
    | _, _ =>
      expect "("
      let es ← arguments n
      es.forM fun e => match e with
        | .variable t => note t false
        | _ => return
      expect ")"
      let (least, most) := argumentBounds b
      if es.length < least ∨ most < es.length then complain (.argumentCount (builtinName b))
      return .builtin b es

end

end Reader

end StructuralEdit.Shell.Records
