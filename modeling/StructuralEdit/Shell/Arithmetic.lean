import StructuralEdit.Shell.Machine
/-!
Arithmetic expressions over integers of 64 bits.
-/
namespace StructuralEdit.Shell

def wrap (n : Int) : Int :=
  let m := n.emod 18446744073709551616
  if m < 9223372036854775808 then m else m - 18446744073709551616

def saturate (n : Int) : Int := max (-9223372036854775808) (min 9223372036854775807 n)

def bitsOf (n : Int) : Nat := (n.emod 18446744073709551616).toNat

inductive Arithmetic where
  | number (n : Int)
  | reference (name : Text) (subscript : Option Text)
  | unary (o : String) (a : Arithmetic)
  | binary (o : String) (a b : Arithmetic)
  | conditional (test yes no : Arithmetic)
  | assign (o : String) (name : Text) (subscript : Option Text) (a : Arithmetic)
  | step (by_ : Int) (old : Bool) (name : Text) (subscript : Option Text)

namespace Arithmetic

/-- What can be wrong with an expression, with the text from there on. -/
inductive Error where
  | primary (rest : Text)
  | end_ (rest : Text)
  | closing (rest : Text)
  | colon (rest : Text)
  | invalidOperator (rest : Text)
  | tooGreat (digits : Text)
  | notVariable (rest : Text)
  | divisionByZero (rest : Text)
  | negativePower (rest : Text)
  | illegalNumber (t : Text)
  | readOnly (name : Text)
  | unbound (name : Text)
  | tooDeep (rest : Text)

inductive Symbol where
  | number (n : Int)
  | name (name : Text) (subscript : Option Text)
  | operator (o : String)
  | unknown

structure Token where
  symbol : Symbol
  rest : Text

def operators : Dialect → List String
  | .dash => ["<<=", ">>=", "<<", ">>", "<=", ">=", "==", "!=", "&&", "||", "+=", "-=", "*=", "/=",
      "%=", "&=", "^=", "|=", "<", ">", "=", "!", "~", "+", "-", "*", "/", "%", "&", "^", "|", "?",
      ":", "(", ")"]
  | .bash => ["<<=", ">>=", "**", "++", "--", "<<", ">>", "<=", ">=", "==", "!=", "&&", "||", "+=",
      "-=", "*=", "/=", "%=", "&=", "^=", "|=", "<", ">", "=", "!", "~", "+", "-", "*", "/", "%",
      "&", "^", "|", "?", ":", "(", ")", ","]

/-- The number with a prefix for its base, and its length: hexadecimal behind `0x`, octal behind
`0`. -/
def constant (t : Text) : Int × Nat :=
  match t with
  | '0' :: x :: rest =>
    let hex := rest.takeWhile isHexDigit
    if (x = 'x' ∨ x = 'X') ∧ hex ≠ [] then (ofDigits 16 hex, hex.length + 2)
    else
      let octal := t.takeWhile isOctalDigit
      (ofDigits 8 octal, octal.length)
  | _ =>
    let digits := t.takeWhile Char.isDigit
    (ofDigits 10 digits, digits.length)

def wideDigit? (base : Nat) (c : Char) : Option Nat :=
  let v : Nat :=
    if c.isDigit then c.toNat - 48
    else if c.isLower then c.toNat - 87
    else if c.isUpper then if base ≤ 36 then c.toNat - 55 else c.toNat - 29
    else if c = '@' then 62
    else if c = '_' then 63
    else 64
  if v < base then some v else none

/-- The number that digits form, behind the mark of its base if there is one. -/
def constantWithBase? (t : Text) : Option Int :=
  let digitsIn (base : Nat) (ds : Text) : Option Int :=
    (ds.mapM (wideDigit? base)).map fun vs => (vs.foldl (fun n v => base * n + v) 0 : Nat)
  let head := t.takeWhile (· ≠ '#')
  match t.drop head.length with
  | _ :: digits =>
    let base := ofDigits 10 head
    if base < 2 ∨ 64 < base ∨ digits.isEmpty then none else digitsIn base digits
  | [] => match t with
    | '0' :: 'x' :: ds | '0' :: 'X' :: ds => digitsIn 16 ds
    | '0' :: ds => digitsIn 8 ds
    | ds => digitsIn 10 ds

def splitBracket : Nat → Text → Option (Text × Text)
  | _, [] => none
  | depth, c :: t =>
    if c = ']' ∧ depth = 0 then some ([], t)
    else
      let depth := if c = '[' then depth + 1 else if c = ']' then depth - 1 else depth
      (splitBracket depth t).map fun (a, rest) => (c :: a, rest)

def tokens (d : Dialect) : Nat → Text → Except Error (List Token)
  | 0, _ => .ok []
  | n + 1, t =>
    match t.dropWhile isSpace with
    | [] => .ok []
    | c :: rest =>
      let t := c :: rest
      let add (s : Symbol) (length : Nat) : Except Error (List Token) :=
        (tokens d n (t.drop length)).map fun ts => { symbol := s, rest := t } :: ts
      if c.isDigit then
        match d with
        | .dash =>
          let (v, length) := constant t
          add (.number (saturate v)) length
        | .bash =>
          let digits := t.takeWhile fun c => isNameChar c || c = '#' || c = '@'
          match constantWithBase? digits with
          | some v => add (.number (wrap v)) digits.length
          | none => .error (.tooGreat digits)
      else if isNameStart c then
        let name := t.takeWhile isNameChar
        match d, t.drop name.length with
        | .bash, '[' :: inner =>
          match splitBracket 0 inner with
          | some (sub, _) => add (.name name (some sub)) (name.length + sub.length + 2)
          | none => add (.name name none) name.length
        | _, _ => add (.name name none) name.length
      else match (operators d).find? fun o => o.toList.isPrefixOf t with
        | some o => add (.operator o) o.length
        | none => add .unknown 1

/-! ### Reading -/

structure Input where
  tokens : List Token
  last : Text

abbrev Reading := StateT Input (Except Error)

def next? : Reading (Option Symbol) := return (← get).tokens.head?.map (·.symbol)

def advance : Reading Unit :=
  modify fun i =>
    { tokens := i.tokens.tail, last := (i.tokens.head?.map (·.rest)).getD i.last }

def place : Reading Text := return ((← get).tokens.head?.map (·.rest)).getD (← get).last

def accept (o : String) : Reading Bool := do
  match ← next? with
  | some (.operator p) =>
    if o = p then
      advance
      return true
    else return false
  | _ => return false

def levels : List (List String) :=
  [["||"], ["&&"], ["|"], ["^"], ["&"], ["==", "!="], ["<", "<=", ">", ">="], ["<<", ">>"],
    ["+", "-"], ["*", "/", "%"]]

def assignments : List String :=
  ["=", "+=", "-=", "*=", "/=", "%=", "<<=", ">>=", "&=", "^=", "|="]

inductive Level where
  | comma
  | assignment
  | binary (ops : List (List String))
  | power
  | unary

def expression (d : Dialect) : Nat → Level → Reading Arithmetic
  | 0, _ => do throw (.tooDeep (← place))
  | n + 1, level => do
    match level with
    | .comma =>
      let a ← expression d n .assignment
      if ← accept "," then return .binary "," a (← expression d n .comma) else return a
    | .assignment =>
      let before ← get
      match before.tokens with
      | { symbol := .name name sub, .. } :: { symbol := .operator o, .. } :: _ =>
        if assignments.contains o then
          advance
          advance
          return .assign (o.dropEnd 1).toString name sub (← expression d n .assignment)
        else conditional n
      | _ => conditional n
    | .binary [] => expression d n .power
    | .binary (ops :: tighter) =>
      let a ← expression d n (.binary tighter)
      more ops tighter n (← get).tokens.length a
    | .power =>
      let a ← expression d n .unary
      if ← accept "**" then return .binary "**" a (← expression d n .power) else return a
    | .unary => unary n
where
  conditional (n : Nat) : Reading Arithmetic := do
    let test ← expression d n (.binary levels)
    if ← accept "?" then
      let yes ← expression d n .comma
      if !(← accept ":") then throw (.colon (← place))
      return .conditional test yes (← expression d n .assignment)
    else if d = .bash then
      match (← get).tokens with
      | { symbol := .operator o, rest } :: _ =>
        if assignments.contains o then throw (.notVariable rest) else return test
      | _ => return test
    else return test
  more (ops : List String) (tighter : List (List String)) (n : Nat) :
      Nat → Arithmetic → Reading Arithmetic
    | 0, a => return a
    | k + 1, a => do
      match ← next? with
      | some (.operator o) =>
        if ops.contains o then
          advance
          let b ← expression d n (.binary tighter)
          more ops tighter n k (.binary o a b)
        else return a
      | _ => return a
  unary (n : Nat) : Reading Arithmetic := do
    match ← next? with
    | some (.number v) =>
      advance
      return .number v
    | some (.name name sub) =>
      advance
      if ← accept "++" then return .step 1 true name sub
      else if ← accept "--" then return .step (-1) true name sub
      else return .reference name sub
    | some (.operator o) =>
      if o = "(" then
        advance
        let a ← expression d n .comma
        if !(← accept ")") then throw (.closing (← place))
        return a
      else if ["!", "~", "-", "+"].contains o then
        advance
        return .unary o (← expression d n .unary)
      else if o = "++" ∨ o = "--" then
        advance
        match ← next? with
        | some (.name name sub) =>
          advance
          return .step (if o = "++" then 1 else -1) false name sub
        | _ =>
          let a ← expression d n .unary
          return if o = "--" then .unary "-" (.unary "-" a) else a
      else throw (.primary (← place))
    | some .unknown =>
      let i ← get
      if d = .bash ∧ i.last ≠ [] then throw (.invalidOperator (← place))
      else throw (.primary (← place))
    | none => throw (.primary (← place))

/-- Reads an expression. An empty one is zero for some shells. -/
def read (d : Dialect) (t : Text) : Except Error Arithmetic := do
  let ts ← tokens d (t.length + 1) t
  if ts.isEmpty ∧ d = .bash then return .number 0
  let (a, rest) ← (expression d (16 * t.length + 32) .comma).run { tokens := ts, last := [] }
  match rest.tokens with
  | [] => return a
  | { symbol := .unknown, rest } :: _ => .error (.invalidOperator rest)
  | { rest, .. } :: _ => .error (.end_ rest)

/-! ### Evaluation -/

abbrev Evaluating := StateT Machine (Except Error)

def ofBool (b : Bool) : Int := if b then 1 else 0

def apply (o : String) (a b : Int) : Except Error Int :=
  match o with
  | "+" => .ok (wrap (a + b))
  | "-" => .ok (wrap (a - b))
  | "*" => .ok (wrap (a * b))
  | "/" => if b = 0 then .error (.divisionByZero (shownInt b)) else .ok (wrap (a.tdiv b))
  | "%" => if b = 0 then .error (.divisionByZero (shownInt b)) else .ok (wrap (a.tmod b))
  | "**" =>
    if b < 0 then .error (.negativePower (shownInt b))
    else .ok ((List.range b.toNat).foldl (fun x _ => wrap (x * a)) 1)
  | "<<" => .ok (wrap (bitsOf a <<< (bitsOf b % 64) : Nat))
  | ">>" => .ok (a >>> (bitsOf b % 64))
  | "&" => .ok (wrap (bitsOf a &&& bitsOf b : Nat))
  | "|" => .ok (wrap (bitsOf a ||| bitsOf b : Nat))
  | "^" => .ok (wrap (bitsOf a ^^^ bitsOf b : Nat))
  | "==" => .ok (ofBool (a = b))
  | "!=" => .ok (ofBool (a ≠ b))
  | "<" => .ok (ofBool (a < b))
  | "<=" => .ok (ofBool (a ≤ b))
  | ">" => .ok (ofBool (b < a))
  | ">=" => .ok (ofBool (b ≤ a))
  | _ => .ok b

def applyUnary (o : String) (a : Int) : Int :=
  match o with
  | "-" => wrap (-a)
  | "!" => ofBool (a = 0)
  | "~" => -a - 1
  | _ => a

/-- How variables of expressions are read and given values. -/
structure Variables where
  value : Text → Option Text → Evaluating Int
  store : Text → Option Text → Int → Evaluating Unit

def eval (vs : Variables) : Arithmetic → Evaluating Int
  | .number n => return n
  | .reference name sub => vs.value name sub
  | .unary o a => return applyUnary o (← eval vs a)
  | .binary "&&" a b => do
    if (← eval vs a) = 0 then return 0 else return ofBool ((← eval vs b) ≠ 0)
  | .binary "||" a b => do
    if (← eval vs a) ≠ 0 then return 1 else return ofBool ((← eval vs b) ≠ 0)
  | .binary o a b => do
    let x ← eval vs a
    let y ← eval vs b
    liftM (apply o x y)
  | .conditional test yes no => do
    if (← eval vs test) ≠ 0 then eval vs yes else eval vs no
  | .assign o name sub a => do
    let x ← eval vs a
    let v ← if o = "" then pure x
      else do
        let old ← vs.value name sub
        liftM (apply o old x)
    vs.store name sub v
    return v
  | .step by_ old name sub => do
    let x ← vs.value name sub
    let v := wrap (x + by_)
    vs.store name sub v
    return if old then x else v

/-- The number that the value of a variable stands for, where it has to be a constant. -/
def strictNumber (t : Text) : Except Error Int :=
  let inner := t.dropWhile isSpace
  let (negative, digits) : Bool × Text := match inner with
    | '-' :: ds => (true, ds)
    | '+' :: ds => (false, ds)
    | ds => (false, ds)
  let (v, length) := constant digits
  let rest := digits.drop length
  if t.isEmpty then .ok 0
  else if length = 0 ∨ !(rest.all isSpace) then .error (.illegalNumber t)
  else .ok (saturate (if negative then -v else v))

def keyText (sub : Text) : Text :=
  match sub with
  | '"' :: t => if t.getLast? = some '"' then t.dropLast else sub
  | '\'' :: t => if t.getLast? = some '\'' then t.dropLast else sub
  | _ => sub

/-- The place that a subscript stands for. A negative one counts from behind the last item. -/
def placeOf (items : List (Int × Text)) (i : Int) : Int :=
  if 0 ≤ i then i else (items.getLast?.elim 0 fun l => l.1 + 1) + i

def variablesAt (d : Dialect) : Nat → Variables
  | 0 => { value := fun _ _ => throw (.tooDeep []), store := fun _ _ _ => throw (.tooDeep []) }
  | n + 1 =>
    let numberOf (t : Text) : Evaluating Int := do
      match d with
      | .dash => liftM (strictNumber t)
      | .bash =>
        let e ← liftM (read d t)
        eval (variablesAt d n) e
    let subscript (sub : Text) : Evaluating Int := do
      eval (variablesAt d n) (← liftM (read d sub))
    { value := fun name sub => do
        let m ← get
        let text? : Option Text ← match sub, (m.binding? (m.target 10 name)).bind (·.value) with
          | none, _ => pure (m.parameter? name)
          | some sub, some (.associative items) => pure (items.lookup (keyText sub))
          | some sub, some (.indexed items) =>
            let i ← subscript sub
            pure (items.lookup (placeOf items i))
          | some sub, _ =>
            let i ← subscript sub
            pure (if i = 0 then m.parameter? name else none)
        match text? with
        | some t => numberOf t
        | none =>
          if m.has "nounset" ∧ d = .bash then throw (.unbound name) else return 0
      store := fun name sub v => do
        let m ← get
        if m.isReadOnly name then throw (.readOnly name)
        let target := m.target 10 name
        let t := shownInt v
        match sub, (m.binding? target).bind (·.value) with
        | none, _ => set (m.assign name t)
        | some sub, some (.associative items) =>
          let key := keyText sub
          set (m.store target (.associative (items.filter (·.1 ≠ key) ++ [(key, t)])))
        | some sub, old =>
          let items := match old with
            | some (.indexed items) => items
            | some (.text t) => [(0, t)]
            | _ => []
          let i ← subscript sub
          let m ← get
          set (m.store target (.indexed (Machine.setItem items (placeOf items i) t))) }

def Error.message (d : Dialect) (whole : Text) (e : Error) : Text :=
  match d with
  | .dash =>
    let wrong (what : String) : Text :=
      ("arithmetic expression: " ++ what ++ ": \"").toList ++ whole ++ ['"']
    match e with
    | .illegalNumber t => "Illegal number: ".toList ++ t
    | .readOnly name => name ++ ": is read only".toList
    | .divisionByZero _ => wrong "division by zero"
    | .colon _ => wrong "expecting ':'"
    | .closing _ => wrong "expecting ')'"
    | .primary _ | .tooDeep _ => wrong "expecting primary"
    | _ => wrong "expecting EOF"
  | .bash =>
    let wrong (what : String) (token : Text) : Text :=
      whole.dropWhile isSpace ++ (": " ++ what ++ " (error token is \"").toList ++ token ++
        "\")".toList
    match e with
    | .readOnly name => name ++ ": readonly variable".toList
    | .unbound name => name ++ ": unbound variable".toList
    | .divisionByZero t => wrong "division by 0" t
    | .negativePower t => wrong "exponent less than 0" t
    | .colon t => wrong "\x60:' expected for conditional expression" t
    | .closing t => wrong "missing \x60)'" t
    | .primary t => wrong "syntax error: operand expected" t
    | .invalidOperator t => wrong "syntax error: invalid arithmetic operator" t
    | .tooGreat t => t ++ ": value too great for base (error token is \"".toList ++ t ++
        "\")".toList
    | .notVariable t => wrong "attempted assignment to non-variable" t
    | .tooDeep t => wrong "expression recursion level exceeded" t
    | .illegalNumber t | .end_ t => wrong "syntax error in expression" t

end Arithmetic

namespace Machine

def evaluate (t : Text) (m : Machine) : Except Text (Int × Machine) :=
  let result := do
    let e ← Arithmetic.read m.dialect t
    (e.eval (Arithmetic.variablesAt m.dialect 100)).run m
  result.mapError fun e => e.message m.dialect t

end Machine

end StructuralEdit.Shell
