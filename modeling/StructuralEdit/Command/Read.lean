import StructuralEdit.Command
import StructuralEdit.Text.Blank
import StructuralEdit.Text.Number
/-!
Reading commands. Blanks may stand between the parts of a command, but not between a letter and
its delimiter. How deep commands and chains of addresses may nest is bounded, and the readers
take the bound as the argument on which they recurse.
-/
namespace StructuralEdit

/-- What is left to read, and the byte at which it starts. -/
structure Input where
  offset : Nat
  rest : Text
  deriving DecidableEq, Repr

namespace Input

def after (i : Input) (part rest : Text) : Input := ⟨i.offset + part.size, rest⟩

def skipBlanks (i : Input) : Input :=
  i.after (i.rest.takeWhile Char.isBlank) (i.rest.dropWhile Char.isBlank)

def atAddress (i : Input) : Bool :=
  match i.rest with
  | c :: _ => c.isDigit || ".,$#/?".toList.contains c
  | [] => false

def atClose (i : Input) : Bool :=
  match i.rest with
  | c :: _ => c = '}'
  | [] => true

def fail (i : Input) (why : Malformed) : Except ParseError α := .error ⟨i.offset, why⟩

end Input

abbrev Reader (α : Type) := Input → Except ParseError (α × Input)

/-- How many commands may nest, and how many addresses may form a chain. -/
def nestingLimit : Nat := 101

def readNumber : Reader Nat := fun i =>
  let digits := i.rest.takeWhile Char.isDigit
  match Text.toNat? digits with
  | none => i.fail .numberExpected
  | some n =>
    if n < numberLimit then .ok (n, i.after digits (i.rest.dropWhile Char.isDigit))
    else i.fail (.numberTooLarge digits)

def readDelimited (opening : Input) (delimiter : Char) : Reader Text := fun i =>
  match unescape delimiter i.rest with
  | none => opening.fail (.unterminated delimiter)
  | some (t, rest) => .ok (t, ⟨i.offset + (i.rest.size - rest.size), rest⟩)

def compilePattern (at_ : Input) (source : Text) : Except ParseError Pattern :=
  match Pattern.ofSource source with
  | .ok p => .ok p
  | .error e => at_.fail (.pattern source e)

def readArgument (letter : Char) : Reader (Input × Text) := fun i =>
  match i.rest with
  | [] => i.fail (.delimiterExpected letter)
  | d :: rest =>
    if d.isBlank ∨ d = '\\' then i.fail (.delimiterInvalid d letter)
    else do
      let (t, j) ← readDelimited i d (i.after [d] rest)
      return ((i, t), j)

def readText (letter : Char) : Reader Text := fun i => do
  let ((_, t), j) ← readArgument letter i
  return (t, j)

def readPattern (letter : Char) : Reader Pattern := fun i => do
  let ((d, source), j) ← readArgument letter i
  return (← compilePattern d source, j)

namespace Address

def readSearch (d : Direction) (opening i : Input) : Except ParseError (Address × Input) := do
  let (source, j) ← readDelimited opening d.delimiter i
  return (.search d (← compilePattern opening source), j)

def readSimple : Reader Address := fun i =>
  match i.rest with
  | '.' :: rest => .ok (.dot, i.after ['.'] rest)
  | '$' :: rest => .ok (.finish, i.after ['$'] rest)
  | '#' :: rest => do
    let (n, j) ← readNumber (i.after ['#'] rest)
    return (.char n, j)
  | '/' :: rest => readSearch .forward i (i.after ['/'] rest)
  | '?' :: rest => readSearch .backward i (i.after ['?'] rest)
  | _ => do
    let (n, j) ← readNumber i
    return (.line n, j)

/-- Reads an address. A comma without an address before it starts at line 0; without one behind
it, it stands for the whole text. -/
def read : Nat → Reader Address
  | 0, i => i.fail .addressTooDeep
  | links + 1, i =>
    match i.rest with
    | ',' :: rest =>
      let j := (i.after [','] rest).skipBlanks
      if j.atAddress then do
        let (b, k) ← read links j
        return (.range (.line 0) b, k)
      else .ok (wholeText, j)
    | _ => do
      let (a, j) ← readSimple i
      let j := j.skipBlanks
      match j.rest with
      | ',' :: rest =>
        let k := (j.after [','] rest).skipBlanks
        if k.atAddress then
          let (b, l) ← read links k
          return (.range a b, l)
        else k.fail .addressExpected
      | _ => return (a, j)

end Address

namespace Command

def readSub (member : Reader Command) : Reader Command := fun i =>
  let j := i.skipBlanks
  -- A command that is left out takes up no level.
  if j.atClose then .ok (.print, j) else member j

/-- Reads the members of a group up to its closing brace. Each takes at least one character, so
the first argument bounds their number. -/
def readMembers (member : Reader Command) (opening : Input) : Nat → Reader (List Command)
  | 0, _ => opening.fail .groupUnclosed
  | bound + 1, i =>
    let i := i.skipBlanks
    match i.rest with
    | [] => opening.fail .groupUnclosed
    | '}' :: rest => .ok ([], i.after ['}'] rest)
    | _ => do
      let (c, j) ← member i
      let (cs, k) ← readMembers member opening bound j
      return (c :: cs, k)

def readFilter (opening : Input) : Reader Command := fun i =>
  let line := i.rest.takeWhile (· ≠ '\n')
  if (Text.trim line).isEmpty then opening.fail .filterEmpty
  else .ok (.filter (Text.trim line), i.after line (i.rest.dropWhile (· ≠ '\n')))

/-- Reads a command without an address. The commands inside it are read by `member`. -/
def readSimple (member : Reader Command) : Reader Command := fun i =>
  match i.rest with
  | [] => i.fail .commandExpected
  | c :: rest =>
    let j := i.after [c] rest
    let extract (inverse : Bool) : Except ParseError (Command × Input) := do
      let (p, k) ← readPattern c j
      let (sub, k) ← readSub member k
      return (.extract inverse p sub, k)
    let guard (inverse : Bool) : Except ParseError (Command × Input) := do
      let (p, k) ← readPattern c j
      let (sub, k) ← readSub member k
      return (.guard inverse p sub, k)
    let text (command : Text → Command) : Except ParseError (Command × Input) := do
      let (t, k) ← readText c j
      return (command t, k)
    match c with
    | 'x' => extract false
    | 'y' => extract true
    | 'g' => guard false
    | 'v' => guard true
    | 'p' => .ok (.print, j)
    | 'd' => .ok (.delete, j)
    | 'c' => text .change
    | 'a' => text .append
    | 'i' => text .insert
    | '|' => readFilter i j
    | '{' => do
      let (cs, k) ← readMembers member i (j.rest.length + 1) j
      return (.group cs, k)
    | c => i.fail (.commandUnknown c)

def readNested : Nat → Reader Command
  | 0, i => i.fail .commandsTooDeep
  | levels + 1, i =>
    let i := i.skipBlanks
    if i.atAddress then do
      let (a, j) ← Address.read nestingLimit i
      let j := j.skipBlanks
      if j.atClose then return (.addressed a .print, j)
      else
        let (c, k) ← readSimple (readNested levels) j
        return (.addressed a c, k)
    else readSimple (readNested levels) i

def read (t : Text) : Except ParseError Command := do
  let (c, i) ← readNested nestingLimit ⟨0, t⟩
  let i := i.skipBlanks
  match i.rest with
  | [] => return c
  | found :: _ => i.fail (.trailing found)

end Command

end StructuralEdit
