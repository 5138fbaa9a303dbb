import StructuralEdit.Shell.Word
/-!
Braces in words: each of the texts between them makes a word of its own.
-/
namespace StructuralEdit.Shell.Brace

def isPlain (c : Char) : Part → Bool
  | .char d false => c = d
  | _ => false

/-- Splits a word behind the brace that closes the one before it, with the commas between them
outside of other braces. The answer has the texts around the commas. -/
def split : Nat → Word → Option (List Word × Word)
  | _, [] => none
  | depth, p :: w =>
    if isPlain '\x7d' p ∧ depth = 0 then some ([[]], w)
    else if isPlain ',' p ∧ depth = 0 then
      (split depth w).map fun (texts, rest) => ([] :: texts, rest)
    else
      let depth := if isPlain '\x7b' p then depth + 1
        else if isPlain '\x7d' p then depth - 1 else depth
      (split depth w).map fun (texts, rest) =>
        match texts with
        | t :: ts => ((p :: t) :: ts, rest)
        | [] => ([[p]], rest)

def integer? (t : Text) : Option Int :=
  let (negative, digits) : Bool × Text := match t with
    | '-' :: ds => (true, ds)
    | '+' :: ds => (false, ds)
    | ds => (false, ds)
  if digits ≠ [] ∧ digits.all Char.isDigit then
    let n : Int := (ofDigits 10 digits : Nat)
    some (if negative then -n else n)
  else none

def isPadded (t : Text) : Bool :=
  match t with
  | '0' :: _ :: _ | '-' :: '0' :: _ :: _ => true
  | _ => false

def count (a b : Int) (step : Nat) : List Int :=
  let step := max step 1
  (List.range ((b - a).natAbs / step + 1)).map fun (i : Nat) =>
    let d : Int := (i * step : Nat)
    if a ≤ b then a + d else a - d

def splitDots : Text → Option (Text × Text)
  | [] => none
  | '.' :: '.' :: t => some ([], t)
  | c :: t => (splitDots t).map fun (a, b) => (c :: a, b)

def sequence? (t : Text) : Option (List Text) :=
  match splitDots t with
  | none => none
  | some (a, rest) =>
    let (b, step) : Text × Option Int := match splitDots rest with
      | some (b, s) => (b, integer? s)
      | none => (rest, some 1)
    match step, integer? a, integer? b with
    | some s, some x, some y =>
      let width := if isPadded a ∨ isPadded b then max a.length b.length else 0
      some ((count x y s.natAbs).map fun n =>
        if n < 0 then '-' :: padLeft (width - 1) (shown n.natAbs) '0'
        else padLeft width (shown n.natAbs) '0')
    | some s, _, _ =>
      match a, b with
      | [c], [d] =>
        if c.isAlpha ∧ d.isAlpha then
          some ((count c.toNat d.toNat s.natAbs).map fun n => [Char.ofNat n.toNat])
        else none
      | _, _ => none
    | none, _, _ => none

def expand : Nat → Word → List Word
  | 0, w => [w]
  | n + 1, w =>
    let before := w.takeWhile fun p => !isPlain '\x7b' p
    match w.drop before.length with
    | [] => [w]
    | brace :: inner =>
      let kept : List Word := (expand n inner).map fun rest => before ++ brace :: rest
      let afterDollar : Bool := before.getLast?.any (isPlain '$')
      if afterDollar then kept
      else match split 0 inner with
        | none => kept
        | some (texts, rest) =>
          match texts with
          | [t] =>
            match (Word.plain? t).bind sequence? with
            | some items =>
              let ends := expand n rest
              items.flatMap fun i => ends.map fun e => before ++ Word.ofText false i ++ e
            | none => kept
          | texts =>
            let ends := expand n rest
            (texts.flatMap (expand n)).flatMap fun t => ends.map fun e => before ++ t ++ e

def words (w : Word) : List Word := expand (w.length + 1) w

end StructuralEdit.Shell.Brace
