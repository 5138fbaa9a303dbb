import StructuralEdit.Files
import StructuralEdit.Shell.Quoted
import StructuralEdit.Shell.Word
/-!
Conditions on texts, numbers and files.
-/
namespace StructuralEdit.Shell

inductive Testing.Mistake where
  | unexpected (operator : Text)
  | noArgument (operator : Text)
  | noParenthesis
  | illegalNumber (t : Text)
  | unaryExpected (t : Text)
  | binaryExpected (t : Text)
  | tooMany (t : Text)

inductive Tester where
  | shell (d : Dialect)
  | program
  deriving DecidableEq

def Testing.Mistake.message (k : Tester) : Testing.Mistake → Text
  | .unexpected o => o ++ ": unexpected operator".toList
  | .noArgument o => match k with
    | .shell .dash => o ++ ": argument expected".toList
    | .shell .bash => "argument expected".toList
    | .program => "missing argument after ".toList ++ Quoted.diagnostic o
  | .noParenthesis => match k with
    | .shell .dash => "closing paren expected".toList
    | .shell .bash => "\x60)' expected".toList
    | .program => "')' expected".toList
  | .illegalNumber t => match k with
    | .shell .dash => "Illegal number: ".toList ++ t
    | .shell .bash => t ++ ": integer expression expected".toList
    | .program => "invalid integer ".toList ++ Quoted.diagnostic t
  | .unaryExpected t => match k with
    | .program => Quoted.diagnostic t ++ ": unary operator expected".toList
    | _ => t ++ ": unary operator expected".toList
  | .binaryExpected t => match k with
    | .program => Quoted.diagnostic t ++ ": binary operator expected".toList
    | _ => t ++ ": binary operator expected".toList
  | .tooMany t => match k with
    | .program => "extra argument ".toList ++ Quoted.diagnostic t
    | _ => "too many arguments".toList

namespace Testing

abbrev Result := Except Mistake Bool

structure Facts where
  files : Files
  isSet : Text → Bool := fun _ => false
  isOn : Text → Bool := fun _ => false
  isReference : Text → Bool := fun _ => false

def isUnary (k : Tester) (o : Text) : Bool :=
  match o with
  | ['-', c] =>
    "rwxefdcbpugksztnhOGLSN".toList.contains c || (k = .shell .bash && "avoR".toList.contains c)
  | _ => false

def numeric : List String := ["-eq", "-ne", "-lt", "-le", "-gt", "-ge"]

def isBinary (k : Tester) (o : Text) : Bool :=
  let s := String.ofList o
  numeric.contains s || ["=", "!=", "<", ">", "-nt", "-ot", "-ef"].contains s ||
    (s = "==" && k ≠ .shell .dash)

def integer? (t : Text) : Option Int :=
  let inner := ((t.dropWhile isSpace).reverse.dropWhile isSpace).reverse
  let (negative, digits) : Bool × Text := match inner with
    | '-' :: ds => (true, ds)
    | '+' :: ds => (false, ds)
    | ds => (false, ds)
  if digits ≠ [] ∧ digits.all Char.isDigit then
    let n : Int := (ofDigits 10 digits : Nat)
    some (if negative then -n else n)
  else none

def node? (f : Files) (t : Text) : Option FileNode := (f.find (decode t)).toOption

def isDevice (t : Text) : Bool :=
  ["/dev/null", "/dev/zero", "/dev/full", "/dev/random", "/dev/urandom", "/dev/tty"].contains
    (String.ofList t)

def unary (facts : Facts) (o t : Text) : Bool :=
  let f := facts.files
  let n := node? f t
  match o.getD 1 ' ' with
  | 'z' => t.isEmpty
  | 'n' => !t.isEmpty
  | 'f' => !isDevice t && f.isFile (decode t)
  | 'd' => f.isDirectory (decode t)
  | 's' => match n with
    | some (.file content) => !content.isEmpty
    | some (.directory _) => true
    | none => false
  | 'x' => f.isDirectory (decode t)
  | 'c' => isDevice t
  | 'v' => facts.isSet t
  | 'o' => facts.isOn t
  | 'R' => facts.isReference t
  | 'e' | 'r' | 'w' | 'O' | 'G' | 'a' | 'N' => n.isSome || isDevice t
  | _ => false

def compareNumbers (o : Text) (a b : Int) : Bool :=
  match String.ofList o with
  | "-eq" => a = b
  | "-ne" => a ≠ b
  | "-lt" => a < b
  | "-le" => a ≤ b
  | "-gt" => b < a
  | _ => b ≤ a

def binary (facts : Facts) (o a b : Text) : Result :=
  let f := facts.files
  let s := String.ofList o
  if numeric.contains s then
    match integer? a, integer? b with
    | some x, some y => .ok (compareNumbers o x y)
    | none, _ => .error (.illegalNumber a)
    | _, none => .error (.illegalNumber b)
  else
    let same : Bool := match f.locate (decode a), f.locate (decode b) with
      | .ok x, .ok y => x = y && (node? f a).isSome
      | _, _ => false
    .ok (match s with
      | "=" | "==" => a = b
      | "!=" => a ≠ b
      | "<" => decide (a < b)
      | ">" => decide (b < a)
      | "-nt" => (node? f a).isSome && (node? f b).isNone
      | "-ot" => (node? f a).isNone && (node? f b).isSome
      | _ => same)

/-! ### One way: operators are looked for -/

/-- What a word is where a condition is read. -/
inductive Symbol where
  | finish
  | operand
  | unary
  | binary
  | not
  | and
  | or
  | opening
  | closing
  deriving DecidableEq

def plainSymbol (t : Text) : Symbol :=
  match String.ofList t with
  | "!" => .not
  | "-a" => .and
  | "-o" => .or
  | "(" => .opening
  | ")" => .closing
  | _ =>
    if isUnary (.shell .dash) t then .unary
    else if isBinary (.shell .dash) t then .binary
    else .operand

/-- What the next word is. It is an operand if an operator makes no sense there. -/
def symbol : List Text → Symbol
  | [] => .finish
  | t :: rest =>
    let s := plainSymbol t
    let isOperand : Bool := match rest with
      | [] => true
      | [_] => false
      | o :: u :: _ => plainSymbol o = .binary && u ≠ [')']
    if s = .unary ∧ isOperand then .operand
    else if s = .opening ∧ rest.isEmpty then .operand
    else s

inductive Level where
  | or
  | and
  | not

/-- Evaluates a condition whose first word is a symbol. The answer has the words from the last one
on. The second argument bounds the words. -/
def search (f : Facts) : Level → Nat → Symbol → List Text → Except Mistake (Bool × List Text)
  | _, 0, _, ts => .ok (false, ts)
  | .or, n + 1, s, ts => do
    let (a, ts) ← search f .and n s ts
    if symbol ts.tail = .or then
      let rest := ts.drop 2
      let (b, ts) ← search f .or n (symbol rest) rest
      return (a || b, ts)
    else return (a, ts)
  | .and, n + 1, s, ts => do
    let (a, ts) ← search f .not n s ts
    if symbol ts.tail = .and then
      let rest := ts.drop 2
      let (b, ts) ← search f .and n (symbol rest) rest
      return (a && b, ts)
    else return (a, ts)
  | .not, n + 1, s, ts => do
    match s with
    | .not =>
      let (a, rest) ← search f .not n (symbol ts.tail) ts.tail
      return (!a, rest)
    | .finish => return (false, ts)
    | .opening =>
      let inner := ts.tail
      if symbol inner = .closing then return (false, inner)
      let (a, rest) ← search f .or n (symbol inner) inner
      if symbol rest.tail = .closing then return (a, rest.tail) else throw .noParenthesis
    | .unary =>
      match ts with
      | o :: t :: rest => return (Testing.unary f o t, t :: rest)
      | _ => throw (.noArgument (ts.headD []))
    | _ =>
      match ts with
      | a :: o :: rest =>
        if symbol (o :: rest) = .binary then
          match rest with
          | b :: _ => return (← Testing.binary f o a b, rest)
          | [] => throw (.noArgument o)
        else return (!a.isEmpty, ts)
      | _ => return (!(ts.headD []).isEmpty, ts)

def searchAll (f : Facts) (s : Symbol) (ts : List Text) : Result := do
  let (a, rest) ← search f .or (4 * ts.length + 4) s ts
  match rest with
  | t :: _ :: _ => throw (.unexpected t)
  | _ => return a

def bySearch (f : Facts) : Nat → List Text → Result
  | 0, _ => .ok false
  | n + 1, ts =>
    if ts.isEmpty then .ok false
    else
      let comparison : Bool := match ts with
        | [_, o, _] => plainSymbol o = .binary
        | _ => false
      if comparison then searchAll f .operand ts
      else if ts.length = 3 ∨ ts.length = 4 then
        if ts.head? = some ['('] ∧ ts.getLast? = some [')'] then
          let inner := ts.tail.dropLast
          searchAll f (symbol inner) inner
        else if ts.head? = some ['!'] then (bySearch f n ts.tail).map (!·)
        else searchAll f (symbol ts) ts
      else searchAll f (symbol ts) ts

/-! ### Another way: the number of words decides -/

def long (k : Tester) (f : Facts) : Nat → Level → List Text → Except Mistake (Bool × List Text)
  | 0, _, ts => .ok (false, ts)
  | n + 1, .or, ts => do
    let (a, ts) ← long k f n .and ts
    match ts with
    | ['-', 'o'] :: rest =>
      let (b, rest) ← long k f n .or rest
      return (a || b, rest)
    | _ => return (a, ts)
  | n + 1, .and, ts => do
    let (a, ts) ← long k f n .not ts
    match ts with
    | ['-', 'a'] :: rest =>
      let (b, rest) ← long k f n .and rest
      return (a && b, rest)
    | _ => return (a, ts)
  | n + 1, .not, ts => do
    match ts with
    | [] => throw (.noArgument [])
    | ['!'] :: rest =>
      let (a, rest) ← long k f n .not rest
      return (!a, rest)
    | ['('] :: rest =>
      let (a, rest) ← long k f n .or rest
      match rest with
      | [')'] :: rest => return (a, rest)
      | _ => throw .noParenthesis
    | a :: o :: b :: rest =>
      if isBinary k o then return (← Testing.binary f o a b, rest)
      else if isUnary k a then return (Testing.unary f a o, b :: rest)
      else return (!a.isEmpty, o :: b :: rest)
    | [a, b] =>
      if isUnary k a then return (Testing.unary f a b, []) else return (!a.isEmpty, [b])
    | [a] => return (!a.isEmpty, [])

def byCount (k : Tester) (f : Facts) (ts : List Text) : Result :=
  let two (a b : Text) : Result :=
    if a = ['!'] then .ok b.isEmpty
    else if isUnary k a ∨ (a = "-a".toList ∧ k ≠ .program) then .ok (Testing.unary f a b)
    else if k = .program ∧ !(a.length = 2 ∧ a.head? = some '-') then .error (.noArgument b)
    else .error (.unaryExpected a)
  let three (a b c : Text) : Result :=
    if isBinary k b then Testing.binary f b a c
    else if b = "-a".toList then .ok (!a.isEmpty && !c.isEmpty)
    else if b = "-o".toList then .ok (!a.isEmpty || !c.isEmpty)
    else if a = ['!'] then (two b c).map (!·)
    else if a = ['('] ∧ c = [')'] then .ok (!b.isEmpty)
    else .error (.binaryExpected b)
  let general : Result := do
    let (a, rest) ← long k f (4 * ts.length + 4) .or ts
    match rest with
    | [] => return a
    | t :: _ => throw (.tooMany t)
  match ts with
  | [] => .ok false
  | [a] => .ok (!a.isEmpty)
  | [a, b] => two a b
  | [a, b, c] => three a b c
  | [a, b, c, d] =>
    if a = ['!'] then (three b c d).map (!·)
    else if a = ['('] ∧ d = [')'] then two b c
    else general
  | _ => general

def holds (k : Tester) (f : Facts) (ts : List Text) : Result :=
  if k = .shell .dash then bySearch f (ts.length + 1) ts else byCount k f ts

end Testing

end StructuralEdit.Shell
