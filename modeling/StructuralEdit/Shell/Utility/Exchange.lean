import StructuralEdit.Shell.Glob
import StructuralEdit.Shell.Utility.Basic
/-!
Exchanging characters for others, deleting them and squeezing repetitions of them.
-/
namespace StructuralEdit.Shell

namespace Exchange

inductive Element where
  | char (c : Char)
  | range (first last : Char)
  | kind (name : String) (p : Char → Bool)
  | equivalent (c : Char)
  /-- A character as often as it says; without a number, as often as it takes. -/
  | repeated (c : Char) (count : Option Nat)

/-- Reads escapes. The answer has the characters, with whether they were escaped, and warnings. -/
def readEscapes : Nat → Text → Quotable × List Text
  | 0, _ => ([], [])
  | _ + 1, [] => ([], [])
  | _ + 1, ['\\'] =>
    ([('\\', false)], ["warning: an unescaped backslash at end of string is not portable".toList])
  | n + 1, '\\' :: c :: t =>
    let simple (c : Char) : Quotable × List Text :=
      let (q, ws) := readEscapes n t
      ((c, true) :: q, ws)
    match c with
    | 'a' => simple '\x07'
    | 'b' => simple '\x08'
    | 'f' => simple '\x0c'
    | 'n' => simple '\n'
    | 'r' => simple '\r'
    | 't' => simple '\t'
    | 'v' => simple '\x0b'
    | c =>
      if isOctalDigit c then
        let digits := ((c :: t).take 3).takeWhile isOctalDigit
        let tooBig : Bool := 255 < ofDigits 8 digits
        let used := if tooBig then digits.take 2 else digits
        let warning := if tooBig then
            ["warning: the ambiguous octal escape \\".toList ++ digits ++
              " is being\n\tinterpreted as the 2-byte sequence \\0".toList ++ used ++ ", ".toList ++
              digits.drop 2]
          else []
        let (q, ws) := readEscapes n ((c :: t).drop used.length)
        ((Char.ofNat (ofDigits 8 used), true) :: q, warning ++ ws)
      else simple c
  | n + 1, c :: t =>
    let (q, ws) := readEscapes n t
    ((c, false) :: q, ws)

def enclosed (mark : Char) : Quotable → Option (Text × Quotable)
  | (a, false) :: (']', false) :: t =>
    if a = mark then some ([], t)
    else (enclosed mark ((']', false) :: t)).map fun (s, r) => (a :: s, r)
  | (a, _) :: t => (enclosed mark t).map fun (s, r) => (a :: s, r)
  | [] => none

def repetition (q : Quotable) : Except Text (Option (Element × Quotable)) :=
  match q with
  | (c, _) :: ('*', false) :: t =>
    let inner := t.takeWhile fun x => !x.2 && x.1 ≠ ']'
    match t.drop inner.length with
    | (']', false) :: rest =>
      let digits : Text := inner.map (·.1)
      let base := if digits.head? = some '0' then 8 else 10
      if digits.isEmpty then .ok (some (.repeated c none, rest))
      else if digits.all fun d => if base = 8 then isOctalDigit d else d.isDigit then
        let count := ofDigits base digits
        .ok (some (.repeated c (if count = 0 then none else some count), rest))
      else .error ("invalid repeat count ".toList ++ quote digits ++ " in [c*n] construct".toList)
    | _ => .ok none
  | _ => .ok none

def isRepetition (q : Quotable) : Bool :=
  match q with
  | (_, _) :: ('*', false) :: t =>
    ((t.dropWhile fun x => !x.2 && x.1.isDigit).head?) == some (']', false)
  | _ => false

def printedChar (c : Char) : Text :=
  if isPrintable c then [c] else '\\' :: padLeft 3 (digitsIn 8 c.toNat) '0'

def elements : Nat → Quotable → Except Text (List Element)
  | 0, _ => .ok []
  | n + 1, q => do
    let plain : Except Text (List Element) :=
      match q with
      | (a, _) :: ('-', false) :: (b, _) :: t =>
        if b < a then
          .error ("range-endpoints of '".toList ++ printedChar a ++ '-' :: printedChar b ++
            "' are in reverse collating sequence order".toList)
        else do return .range a b :: (← elements n t)
      | (a, _) :: t => do return .char a :: (← elements n t)
      | [] => .ok []
    let tryRepetition (t : Quotable) (otherwise : Except Text (List Element)) :
        Except Text (List Element) := do
      match ← repetition t with
      | some (e, rest) => return e :: (← elements n rest)
      | none => otherwise
    match q with
    | ('[', false) :: (mark, false) :: t =>
      if (mark = ':' ∨ mark = '=') ∧ t ≠ [] then
        match enclosed mark t with
        | some (name, rest) =>
          let after := (mark, false) :: t
          if name.isEmpty then
            if mark = ':' then .error "missing character class name '[::]'".toList
            else .error "missing equivalence class character '[==]'".toList
          else if mark = ':' then
            match kindOf? (String.ofList name) with
            | some p => return .kind (String.ofList name) p :: (← elements n rest)
            | none =>
              if isRepetition after then tryRepetition after plain
              else .error ("invalid character class ".toList ++ quote name)
          else match name with
            | [c] => return .equivalent c :: (← elements n rest)
            | _ =>
              if isRepetition after then tryRepetition after plain
              else .error (name ++ ": equivalence class operand must be a single character".toList)
        | none => tryRepetition ((mark, false) :: t) plain
      else tryRepetition ((mark, false) :: t) plain
    | ('[', false) :: t => tryRepetition t plain
    | _ => plain

/-- One character of a set, or a whole case of letters. -/
inductive Unit where
  | char (c : Char)
  | upper
  | lower
  deriving DecidableEq

def Unit.size : Unit → Nat
  | .char _ => 1
  | _ => 26

def Unit.chars : Unit → Text
  | .char c => [c]
  | .upper => allOctets.filter Char.isUpper
  | .lower => allOctets.filter Char.isLower

/-- The characters of an element. A repetition without a number is given one. -/
def Element.units (fill : Nat) : Element → List Unit
  | .char c | .equivalent c => [.char c]
  | .range a b => (List.range (b.toNat - a.toNat + 1)).map fun i => .char (Char.ofNat (a.toNat + i))
  | .kind "upper" _ => [.upper]
  | .kind "lower" _ => [.lower]
  | .kind _ p => (allOctets.filter p).map .char
  | .repeated c n => List.replicate (n.getD fill) (.char c)

def sizeOf (us : List Unit) : Nat := us.foldl (fun n u => n + u.size) 0

def Element.isOpen : Element → Bool
  | .repeated _ none => true
  | _ => false

def Element.isKind : Element → Bool
  | .kind .. => true
  | _ => false

/-- Pairs of characters that the units of two sets stand for. A case of letters goes to another
case as a whole. The first argument bounds the size of the sets. -/
def pairs : Nat → List Unit → List Unit → Except Text (List (Char × Char))
  | 0, _, _ => .ok []
  | _ + 1, [], _ => .ok []
  | _ + 1, _, [] => .ok []
  | n + 1, .char a :: us, .char b :: vs => do return (a, b) :: (← pairs n us vs)
  | _ + 1, .char _ :: _, _ :: _ =>
    .error "misaligned [:upper:] and/or [:lower:] construct".toList
  | n + 1, u :: us, .char b :: vs => pairs n (u.chars.map .char ++ us) (.char b :: vs)
  | n + 1, u :: us, v :: vs => do return u.chars.zip v.chars ++ (← pairs n us vs)

def squeeze (p : Char → Bool) : Option Char → Text → Text
  | _, [] => []
  | before, c :: t =>
    if before = some c ∧ p c then squeeze p before t else c :: squeeze p (some c) t

def stretched (us : List Unit) (last? : Option Element) (size : Nat) : Except Text (List Unit) :=
  if size ≤ sizeOf us then .ok us
  else match last?, us.getLast? with
    | some (.kind ..), _ =>
      .error ("when translating with string1 longer than string2,\nthe latter string must not " ++
        "end with a character class").toList
    | _, some u => .ok (us ++ List.replicate (size - sizeOf us) u)
    | _, none => .error "when not truncating set1, string2 must be non-empty".toList

def table (complement truncates : Bool) (first second : List Element) :
    Except Text (List (Char × Char)) := do
  let ones := first.flatMap (Element.units 0)
  let members : Text := ones.flatMap Unit.chars
  let others := allOctets.filter fun c => !members.contains c
  let size := if complement then others.length else sizeOf ones
  let fixed := second.flatMap (Element.units 0)
  if second.any fun e => match e with | .equivalent _ => true | _ => false then
    throw "[=c=] expressions may not appear in string2 when translating".toList
  if second.any fun e => match e with
      | .kind name _ => name ≠ "upper" && name ≠ "lower"
      | _ => false then
    throw ("when translating, the only character classes that may appear in\nstring2 are " ++
      "'upper' and 'lower'").toList
  let twos := second.flatMap (Element.units (size - sizeOf fixed))
  let hasKind : Bool := second.any Element.isKind
  if !complement ∧ hasKind then
    let _ ← pairs (2 * sizeOf ones + 1) ones twos
  let twos ← if truncates then pure twos else stretched twos second.getLast? size
  if complement then
    let targets := (twos.flatMap Unit.chars).take others.length
    let isUniform : Bool := targets.all fun c => some c = targets.head?
    if first.any Element.isKind ∧ !(isUniform && targets.length = others.length) then
      throw ("when translating with complemented character classes,\nstring2 must map all " ++
        "characters in the domain to one").toList
    return others.zip targets
  else pairs (2 * sizeOf ones + 1) ones twos

end Exchange

open Exchange in
def exchangeCharacters : Utility :=
  withLeadingOptions ["c complement", "C", "d delete", "s squeeze-repeats", "t truncate-set1"] 1
    fun c f =>
    let complement := f.has "c" || f.has "C"
    let deletes := f.has "d"
    let squeezes := f.has "s"
    let usual : Bool := deletes = squeezes
    let wanted := if usual then 2 else 1
    let most := if deletes && !squeezes then 1 else 2
    let hint := "\nTry 'tr --help' for more information.".toList
    match f.operands with
    | [] => c.usage "missing operand".toList 1
    | [one] =>
      if wanted = 2 then
        c.complainText ("missing operand after ".toList ++ quote one ++ (if squeezes then
          "\nTwo strings must be given when both deleting and squeezing repeats."
          else "\nTwo strings must be given when translating.").toList ++ hint) 1
      else go c complement deletes squeezes f one none
    | one :: two :: more =>
      let extra := (two :: more).drop (most - 1)
      match extra with
      | e :: _ =>
        c.complainText ("extra operand ".toList ++ quote e ++ (if most = 1 ∧ more = [] then
          "\nOnly one string may be given when deleting without squeezing repeats." else "").toList
          ++ hint) 1
      | [] => go c complement deletes squeezes f one (some two)
where
  go (c : Call) (complement deletes squeezes : Bool) (f : Options) (one : Text)
      (two : Option Text) : Finish :=
    let (q1, w1) := readEscapes (one.length + 1) one
    let (q2, w2) := readEscapes ((two.getD []).length + 1) (two.getD [])
    let warnings := (w1 ++ w2).flatMap c.complaintLine
    let run : Except Text Text := do
      let first ← elements (q1.length + 1) q1
      let second ← elements (q2.length + 1) q2
      if first.any Element.isOpen then
        throw "the [c*] repeat construct may not appear in string1".toList
      if 1 < (second.filter Element.isOpen).length then
        throw "only one [c*] repeat construct may appear in string2".toList
      let members (es : List Element) : Text := es.flatMap fun e => (e.units 0).flatMap Unit.chars
      let ones := members first
      let isIn (x : Char) : Bool := ones.contains x != complement
      let exchanges : Bool := two.isSome && !deletes
      if exchanges then
        let table ← table complement (f.has "t") first second
        let backwards := table.reverse
        let out := c.input.map fun x => (backwards.lookup x).getD x
        let twos := members second ++ table.map (·.2)
        let twos := if second.any Element.isOpen then twos else members second
        return if squeezes then squeeze twos.contains none out else out
      else
        if second.any Element.isOpen then
          throw "the [c*] construct may appear in string2 only when translating".toList
        if deletes then
          let rest := c.input.filter fun x => !isIn x
          let twos := members second
          return if squeezes then squeeze twos.contains none rest else rest
        else return squeeze isIn none c.input
    match run with
    | .error e =>
      { c.finish [] 1 with written := [(2, warnings ++ c.complaintLine e)] }
    | .ok out => { written := [(2, warnings), (1, out)] }

end StructuralEdit.Shell
