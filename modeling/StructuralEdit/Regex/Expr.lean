import StructuralEdit.CharSet.Basic
/-!
Patterns by what they mean. The smart constructors keep expressions in a simple form: nested
sequences and alternatives are flat, neighbouring literals are one, alternatives of single
characters are a set, and what all alternatives start with is read once.
-/
namespace StructuralEdit.Regex

/-- What characters are meant: those of Unicode, or only those of ASCII. -/
inductive Alphabet where
  | unicode
  | ascii
  deriving DecidableEq, Repr

inductive Look where
  | textStart
  | textEnd
  | lineStart
  | lineEnd
  | lineStartCrlf
  | lineEndCrlf
  | wordBoundary (k : Alphabet)
  | notWordBoundary (k : Alphabet)
  | wordStart (k : Alphabet)
  | wordEnd (k : Alphabet)
  | wordStartHalf (k : Alphabet)
  | wordEndHalf (k : Alphabet)
  deriving DecidableEq, Repr

inductive Expr where
  | empty
  | literal (chars : List Char)
  | set (s : CharSet) (k : Alphabet)
  | look (l : Look)
  | repetition (min : Nat) (max : Option Nat) (greedy : Bool) (sub : Expr)
  | capture (index : Nat) (name : Option (List Char)) (sub : Expr)
  | concat (subs : List Expr)
  | alternation (subs : List Expr)
  deriving Repr

namespace Expr

mutual

def alike : Expr → Expr → Bool
  | .empty, .empty => true
  | .literal a, .literal b => a = b
  | .set a k, .set b l => a = b && k = l
  | .look a, .look b => a = b
  | .repetition a b c x, .repetition d e f y => a = d && b = e && c = f && alike x y
  | .capture a b x, .capture c d y => a = c && b = d && alike x y
  | .concat xs, .concat ys => allAlike xs ys
  | .alternation xs, .alternation ys => allAlike xs ys
  | _, _ => false

def allAlike : List Expr → List Expr → Bool
  | [], [] => true
  | x :: xs, y :: ys => alike x y && allAlike xs ys
  | _, _ => false

end

mutual

def minLength : Expr → Option Nat
  | .empty => some 0
  | .literal cs => some cs.length
  | .set s _ => if s.isEmpty then none else some 1
  | .look _ => some 0
  | .repetition min _ _ sub => (minLength sub).map (min * ·)
  | .capture _ _ sub => minLength sub
  | .concat subs => sumMinLength subs
  | .alternation subs => leastMinLength subs

def sumMinLength : List Expr → Option Nat
  | [] => some 0
  | x :: xs =>
    match minLength x, sumMinLength xs with
    | some a, some b => some (a + b)
    | _, _ => none

def leastMinLength : List Expr → Option Nat
  | [] => none
  | [x] => minLength x
  | x :: xs =>
    match minLength x, leastMinLength xs with
    | some a, some b => some (min a b)
    | _, _ => none

end

mutual

def isEmptyOnly : Expr → Bool
  | .empty => true
  | .literal _ => false
  | .set _ _ => false
  | .look _ => true
  | .repetition _ _ _ sub => isEmptyOnly sub
  | .capture _ _ sub => isEmptyOnly sub
  | .concat subs => areEmptyOnly subs
  | .alternation subs => areEmptyOnly subs

def areEmptyOnly : List Expr → Bool
  | [] => true
  | x :: xs => isEmptyOnly x && areEmptyOnly xs

end

def never : Expr := .set .empty .ascii

def ofSet (s : CharSet) (k : Alphabet) : Expr :=
  match s.singleton? with
  | some c => .literal [c]
  | none => if s.isEmpty then never else .set s k

/-- A repetition. Expressions that match nothing but the empty text are repeated at most once. -/
def ofRepetition (min : Nat) (max : Option Nat) (greedy : Bool) (sub : Expr) : Expr :=
  let (min, max) :=
    if sub.isEmptyOnly then (Nat.min min 1, some (max.elim 1 fun n => Nat.min n 1))
    else (min, max)
  if min = 0 ∧ max = some 0 then .empty
  else if min = 1 ∧ max = some 1 then sub
  else .repetition min max greedy sub

def flattenConcat (subs : List Expr) : List Expr :=
  subs.flatMap fun x => match x with
    | .concat xs => xs
    | .empty => []
    | x => [x]

def joinLiterals : List Expr → List Expr
  | [] => []
  | .literal a :: xs =>
    match joinLiterals xs with
    | .literal b :: ys => .literal (a ++ b) :: ys
    | ys => .literal a :: ys
  | x :: xs => x :: joinLiterals xs

def ofConcat (subs : List Expr) : Expr :=
  match joinLiterals (flattenConcat subs) with
  | [] => .empty
  | [x] => x
  | xs => .concat xs

def flattenAlternation (subs : List Expr) : List Expr :=
  subs.flatMap fun x => match x with
    | .alternation xs => xs
    | x => [x]

def char? : Expr → Option Char
  | .literal [c] => some c
  | _ => none

def charSet? : Expr → Option CharSet
  | .set s _ => some s
  | _ => none

def asSet? (subs : List Expr) : Option CharSet :=
  match subs.mapM char? with
  | some cs => some (.ofChars cs)
  | none => (subs.mapM charSet?).map fun sets => .ofRanges (sets.flatMap (·.ranges))

def members? : Expr → Option (List Expr)
  | .concat xs => some xs
  | _ => none

def commonLength : List Expr → List Expr → Nat
  | x :: xs, y :: ys => if alike x y then commonLength xs ys + 1 else 0
  | _, _ => 0

def alternationOf : Nat → List Expr → Expr
  | bound, subs =>
    match flattenAlternation subs with
    | [] => never
    | [x] => x
    | x :: xs =>
      match asSet? (x :: xs) with
      | some s => ofSet s .unicode
      | none =>
        match bound, (x :: xs).mapM members? with
        | bound + 1, some (first :: others) =>
          let common := others.foldl (fun n ys => min n (commonLength first ys)) first.length
          if common = 0 then .alternation (x :: xs)
          else
            ofConcat (first.take common ++
              [alternationOf bound ((first :: others).map fun ys => ofConcat (ys.drop common))])
        | _, _ => .alternation (x :: xs)

def ofAlternation (subs : List Expr) : Expr :=
  let sizes := (flattenAlternation subs).map fun x => (members? x).elim 0 (·.length)
  alternationOf (sizes.foldl (· + ·) 1) subs

end Expr

end StructuralEdit.Regex
