import StructuralEdit.Shell.LineEditor.Script
/-!
Reading the scripts of the line editor.
-/
namespace StructuralEdit.Shell.LineEditor

inductive Origin where
  | argument (number : Nat)
  | file (name : Text)

structure ScriptPart where
  origin : Origin
  text : Text

structure Manner where
  extended : Bool := false
  nulls : Bool := false
  sandboxed : Bool := false

structure Reading where
  manner : Manner
  origin : Origin
  whole : Text
  rest : Text
  later : List ScriptPart
  commands : List Command := []
  blocks : List (Nat × Origin) := []
  labels : List (Text × Nat) := []

structure Problem where
  message : Text
  status : Nat

abbrev Reader := StateT Reading (Except Problem)

namespace Reader

def placeOf (o : Origin) (whole rest : Text) : Text :=
  let consumed := whole.length - rest.length
  match o with
  | .argument n =>
    "-e expression #".toList ++ shown n ++ ", char ".toList ++ shown consumed ++ ": ".toList
  | .file name =>
    "file ".toList ++ name ++ " line ".toList ++
      shown ((whole.take consumed).count '\n' + 1) ++ ": ".toList

def fail (message : Text) : Reader α := do
  let s ← get
  throw { message := placeOf s.origin s.whole s.rest ++ message, status := 1 }

def failWith (message : String) : Reader α := fail message.toList

def peek : Reader (Option Char) := return (← get).rest.head?

def skip (n : Nat) : Reader Unit := modify fun s => { s with rest := s.rest.drop n }

def takeWhile (p : Char → Bool) : Reader Text := do
  let t := (← get).rest.takeWhile p
  skip t.length
  return t

def skipBlanks : Reader Unit := do
  let _ ← takeWhile fun c => c ≠ '\n' && isSpace c

def number : Reader Nat := return ofDigits 10 (← takeWhile Char.isDigit)

/-- The end of a command. A brace that closes a block is left. -/
def finish : Reader Unit := do
  skipBlanks
  match ← peek with
  | none | some '\x7d' | some '#' => return
  | some '\n' | some ';' | some '\r' => skip 1
  | some _ =>
    skip 1
    failWith "extra characters after command"

/-! ### Text between marks -/

/-- What stands before a mark, and what is behind it. Marks in brackets do not count in a regular
expression. -/
def before (mark : Char) (isPattern : Bool) : Nat → Text → Option (Text × Text)
  | 0, _ => none
  | _ + 1, [] => none
  | n + 1, c :: t =>
    let add (part : Text) (r : Option (Text × Text)) : Option (Text × Text) :=
      r.map fun (s, rest) => (part ++ s, rest)
    if c = mark then some ([], t)
    else if c = '\n' then none
    else if c = '\\' then
      match t with
      | [] => none
      | d :: t =>
        if d = mark then
          add (if !isPattern ∧ d = '&' then ['\\', d] else [d]) (before mark isPattern n t)
        else if d = 'n' ∧ isPattern then add ['\n'] (before mark isPattern n t)
        else if d = '\n' then
          add (if isPattern then ['\n'] else ['\\', '\n']) (before mark isPattern n t)
        else add ['\\', d] (before mark isPattern n t)
    else if c = '[' ∧ isPattern then
      match bracket t with
      | some (inner, rest) =>
        if inner.contains mark ∧ !inner.contains '\n' then
          add ('[' :: newlines inner) (before mark isPattern n rest)
        else add [c] (before mark isPattern n t)
      | none => none
    else add [c] (before mark isPattern n t)
where
  bracket (t : Text) : Option (Text × Text) :=
    let lead := match t with
      | '^' :: ']' :: _ => 2
      | '^' :: _ => 1
      | ']' :: _ => 1
      | _ => 0
    let rec go : Nat → Text → Option (Text × Text)
      | 0, _ => none
      | _ + 1, [] => none
      | _ + 1, ']' :: t => some ([']'], t)
      | n + 1, '[' :: k :: t =>
        if k = ':' ∨ k = '.' ∨ k = '=' then
          match closing k t with
          | some (name, rest) => (go n rest).map fun (s, r) => ('[' :: k :: name ++ s, r)
          | none => (go n (k :: t)).map fun (s, r) => ('[' :: s, r)
        else (go n (k :: t)).map fun (s, r) => ('[' :: s, r)
      | n + 1, c :: t => (go n t).map fun (s, r) => (c :: s, r)
    (go (t.length + 1) (t.drop lead)).map fun (s, r) => (t.take lead ++ s, r)
  closing (k : Char) : Text → Option (Text × Text)
    | a :: ']' :: t =>
      if a = k then some ([a, ']'], t)
      else (closing k (']' :: t)).map fun (s, r) => (a :: s, r)
    | a :: t => (closing k t).map fun (s, r) => (a :: s, r)
    | [] => none
  newlines : Text → Text
    | '\\' :: 'n' :: t => '\n' :: newlines t
    | c :: t => c :: newlines t
    | [] => []

def fromLineEnd : Text → Text
  | '\\' :: _ :: t => fromLineEnd t
  | '\n' :: t => '\n' :: t
  | _ :: t => fromLineEnd t
  | [] => []

def delimited (mark : Char) (isPattern : Bool) (otherwise : String) : Reader Text := do
  let s ← get
  match if mark = '\n' then none else before mark isPattern (s.rest.length + 1) s.rest with
  | some (t, rest) =>
    set { s with rest }
    return t
  | none =>
    set { s with rest := fromLineEnd s.rest }
    failWith otherwise

/-! ### Escapes -/

/-- The character that an escape with a number or a control letter stands for, and what is behind
it. -/
def numbered? (t : Text) : Option (Char × Text) :=
  let digits (base most : Nat) (p : Char → Bool) (rest : Text) : Option (Char × Text) :=
    let ds := (rest.take most).takeWhile p
    if ds.isEmpty then none
    else some (Char.ofNat (ofDigits base ds % 256), rest.drop ds.length)
  match t with
  | 'a' :: t => some ('\x07', t)
  | 'f' :: t => some ('\x0c', t)
  | 'v' :: t => some ('\x0b', t)
  | 't' :: t => some ('\t', t)
  | 'r' :: t => some ('\r', t)
  | 'd' :: t => digits 10 3 Char.isDigit t
  | 'o' :: t => digits 8 3 isOctalDigit t
  | 'x' :: t => digits 16 2 isHexDigit t
  | 'c' :: c :: t => some (Char.ofNat ((c.toUpper.toNat) ^^^ 64), t)
  | _ => none

def plainPattern : Nat → Text → Text
  | 0, t => t
  | _ + 1, [] => []
  | _ + 1, ['\\', 'c'] => ['\\']
  | n + 1, '\\' :: t =>
    match numbered? t with
    | some (c, rest) => c :: plainPattern n rest
    | none => match t with
      | c :: rest => '\\' :: c :: plainPattern n rest
      | [] => ['\\']
  | n + 1, c :: t => c :: plainPattern n t

def replacement : Nat → Text → List Replacement
  | 0, _ => []
  | _ + 1, [] => []
  | n + 1, '&' :: t => .group 0 :: replacement n t
  | n + 1, '\\' :: t =>
    match t with
    | 'L' :: rest => .case (some false) :: replacement n rest
    | 'U' :: rest => .case (some true) :: replacement n rest
    | 'E' :: rest => .case none :: replacement n rest
    | 'l' :: rest => .firstCase false :: replacement n rest
    | 'u' :: rest => .firstCase true :: replacement n rest
    | 'n' :: rest => .text ['\n'] :: replacement n rest
    | _ =>
      match numbered? t with
      | some (c, rest) => .text [c] :: replacement n rest
      | none => match t with
        | c :: rest =>
          if c.isDigit then .group (c.toNat - 48) :: replacement n rest
          else .text [c] :: replacement n rest
        | [] => [.text ['\\']]
  | n + 1, c :: t => .text [c] :: replacement n t

def plainText : Nat → Text → Text
  | 0, t => t
  | _ + 1, [] => []
  | n + 1, '\\' :: t =>
    match numbered? t with
    | some (c, rest) => c :: plainText n rest
    | none => match t with
      | c :: rest => c :: plainText n rest
      | [] => []
  | n + 1, c :: t => c :: plainText n t

def exchanged : Nat → Text → Text
  | 0, t => t
  | _ + 1, [] => []
  | n + 1, '\\' :: t =>
    match numbered? t with
    | some (c, rest) => c :: exchanged n rest
    | none => match t with
      | 'n' :: rest => '\n' :: exchanged n rest
      | c :: rest => c :: exchanged n rest
      | [] => ['\\']
  | n + 1, c :: t => c :: exchanged n t

/-! ### Addresses -/

def isLoneClass (t : Text) : Bool :=
  match t with
  | '[' :: ':' :: rest =>
    let name := rest.takeWhile Char.isLower
    !name.isEmpty && (rest.drop name.length).take 2 = [':', ']']
  | _ => false

/-- Makes an expression ready. An empty one means the last one used. -/
def pattern (t : Text) (ignoresCase multiline : Bool) : Reader Pattern := do
  if t.isEmpty then return none
  let s ← get
  if isLoneClass t then
    throw {
      message := "character class syntax is [[:space:]], not [:space:]".toList, status := 4 }
  match Posix.read
      { grammar := if s.manner.extended then .extended else .basic, ignoresCase
        multiline := multiline && !s.manner.nulls }
      (plainPattern (t.length + 1) t) with
  | .ok p => return some p
  | .error e => failWith e.message

def addressFlags : Nat → Bool → Bool → Reader (Bool × Bool)
  | 0, i, m => return (i, m)
  | n + 1, i, m => do
    skipBlanks
    match ← peek with
    | some 'I' => skip 1; addressFlags n true m
    | some 'M' => skip 1; addressFlags n i true
    | _ => return (i, m)

def patternAddress (mark : Char) : Reader Pattern := do
  let t ← delimited mark true "unterminated address regex"
  let (i, m) ← addressFlags (t.length + 100) false false
  pattern t i m

def address? : Reader (Option Address) := do
  match ← peek with
  | some '/' =>
    skip 1
    return some (.pattern (← patternAddress '/'))
  | some '\\' =>
    skip 1
    match ← peek with
    | some mark =>
      skip 1
      return some (.pattern (← patternAddress mark))
    | none => failWith "unterminated address regex"
  | some '$' =>
    skip 1
    return some .last
  | some c =>
    if c.isDigit then
      let n ← number
      skipBlanks
      match ← peek with
      | some '~' =>
        skip 1
        skipBlanks
        return some (.step n (← number))
      | _ => return some (.line n)
    else if c = '+' ∨ c = '~' then
      skip 1
      let _ ← number
      if (← peek).isSome then
        let _ ← number
      failWith "invalid usage of +N or ~N as first address"
    else return none
  | none => return none

def bound : Reader Bound := do
  skipBlanks
  match ← peek with
  | some '+' =>
    skip 1
    return .more (← number)
  | some '~' =>
    skip 1
    return .multiple (← number)
  | _ =>
    match ← address? with
    | some (.line n) => return .line n
    | some (.step n _) => return .line n
    | some .last => return .last
    | some (.pattern p) => return .pattern p
    | none =>
      if (← peek).isSome then skip 1
      failWith "unexpected \x60,'"

def checkZero : Selection → Reader Unit
  | .one (.line 0) => do
    if (← peek).isSome then skip 1
    failWith "invalid usage of line address 0"
  | .range (.line 0) (.pattern _) => return
  | .range (.line 0) _ => do
    if (← peek).isSome then skip 1
    failWith "invalid usage of line address 0"
  | _ => return

def selection : Reader Selection := do
  match ← address? with
  | none => return .all
  | some a =>
    skipBlanks
    match ← peek with
    | some ',' =>
      skip 1
      let b ← bound
      skipBlanks
      let s : Selection := .range a b
      checkZero s
      return s
    | _ =>
      let s : Selection := .one a
      checkZero s
      return s

/-! ### Commands -/

def nextPiece : Reader Bool := do
  let s ← get
  match s.later with
  | [] => return false
  | p :: later =>
    set { s with later, origin := p.origin, whole := p.text, rest := p.text }
    return true

/-- Reads lines of text of which every one but the last ends with a backslash. A piece of a script
that ends with a backslash is continued by the next one. -/
def textLines : Nat → Reader Text
  | 0 => return []
  | n + 1 => do
    match ← peek with
    | none => return ['\n']
    | some '\n' =>
      skip 1
      return ['\n']
    | some '\\' =>
      skip 1
      match ← peek with
      | none =>
        if ← nextPiece then return '\n' :: (← textLines n) else return ['\n']
      | some c =>
        skip 1
        return '\\' :: c :: (← textLines n)
    | some c =>
      skip 1
      return c :: (← textLines n)

def sizeLeft : Reader Nat := do
  let s ← get
  return s.later.foldl (fun n p => n + p.text.length + 2) (s.rest.length + 2)

def givenText : Reader Text := do
  skipBlanks
  match ← peek with
  | none => failWith "expected \\ after \x60a', \x60c' or \x60i'"
  | some '\\' =>
    skip 1
    let blanks := (← get).rest.takeWhile isTabOrSpace
    match ((← get).rest.drop blanks.length).head? with
    | some '\n' =>
      skip (blanks.length + 1)
      if !blanks.isEmpty then return []
      let t ← textLines (← sizeLeft)
      return plainText (t.length + 1) t
    | none =>
      skip blanks.length
      if ← nextPiece then
        let t ← textLines (← sizeLeft)
        return plainText (t.length + 1) t
      else return []
    | some _ =>
      let first := (← get).rest.take
        (if blanks.isEmpty ∧ (← peek) ≠ some '\\' then 1 else blanks.length)
      skip first.length
      let t ← textLines (← sizeLeft)
      return first ++ plainText (t.length + 1) t
  | some _ =>
    let t ← textLines (← sizeLeft)
    return plainText (t.length + 1) t

def label : Reader Text := do
  skipBlanks
  takeWhile fun c => !isSpace c && c ≠ ';' && c ≠ '\x7d'

def fileName : Reader Text := do
  skipBlanks
  let t ← takeWhile (· ≠ '\n')
  if t.isEmpty then failWith "missing filename in r/R/w/W commands"
  skip 1
  return t

/-- What the letters behind a substitution have said so far. -/
structure Flags where
  everywhere : Bool := false
  prints : Bool := false
  number : Option Nat := none
  ignoresCase : Bool := false
  multiline : Bool := false
  executes : Bool := false
  file : Option Text := none

def flags : Nat → Flags → Reader Flags
  | 0, f => return f
  | n + 1, f => do
    match ← peek with
    | none => return f
    | some c =>
      if c = '\x7d' ∨ c = '#' then return f
      skip 1
      match c with
      | 'i' | 'I' => flags n { f with ignoresCase := true }
      | 'm' | 'M' => flags n { f with multiline := true }
      | 'e' => flags n { f with executes := true }
      | 'p' =>
        if f.prints then failWith "multiple \x60p' options to \x60s' command"
        flags n { f with prints := true }
      | 'g' =>
        if f.everywhere then failWith "multiple \x60g' options to \x60s' command"
        flags n { f with everywhere := true }
      | 'w' => return { f with file := some (← fileName) }
      | '\n' | ';' => return f
      | ' ' | '\t' | '\r' => flags n f
      | c =>
        if c.isDigit then
          let digits := c :: (← takeWhile Char.isDigit)
          if f.number.isSome then failWith "multiple number options to \x60s' command"
          let k := ofDigits 10 digits
          if k = 0 then failWith "number option to \x60s' command may not be zero"
          flags n { f with number := some k }
        else failWith "unknown option to \x60s'"

def substitution : Reader Action := do
  let unfinished := "unterminated \x60s' command"
  match ← peek with
  | none => failWith unfinished
  | some mark =>
    skip 1
    let left ← delimited mark true unfinished
    let right ← delimited mark false unfinished
    let f ← flags ((← get).rest.length + 1) {}
    let p ← pattern left f.ignoresCase f.multiline
    let r := replacement (right.length + 1) right
    let highest := r.foldl (fun n x => match x with
      | .group k => max n k
      | _ => n) 0
    if p.any fun p => p.groups < highest then
      failWith ("invalid reference \\" ++ toString highest ++ " on \x60s' command's RHS")
    return .substitute {
      pattern := p, replacement := r, number := f.number.getD 1, everywhere := f.everywhere
      prints := f.prints, executes := f.executes, file := f.file }

def exchange : Reader Action := do
  let unfinished := "unterminated \x60y' command"
  match ← peek with
  | none => failWith unfinished
  | some mark =>
    skip 1
    let left ← delimited mark false unfinished
    let right ← delimited mark false unfinished
    let a := exchanged (left.length + 1) left
    let b := exchanged (right.length + 1) right
    if a.length ≠ b.length then
      skipBlanks
      failWith "strings for \x60y' command are different lengths"
    finish
    return .replaceChars (a.zip b)

def perhapsNumber : Reader (Option Nat) := do
  skipBlanks
  if (← peek).any Char.isDigit then return some (← number) else return none

def plain (a : Action) : Reader Action := do
  finish
  return a

def outward (r : Reader Action) : Reader Action := do
  if (← get).manner.sandboxed then failWith "e/r/w commands disabled in sandbox mode"
  r

def oneAddress (s : Selection) : Reader Unit :=
  match s with
  | .range .. => failWith "command only uses one address"
  | _ => return

def action (c : Char) (s : Selection) : Reader Action := do
  match c with
  | '=' => plain .number
  | 'a' => return .append (← givenText)
  | 'i' => return .insert (← givenText)
  | 'c' => return .change (← givenText)
  | 'b' => return .jump (← label) none
  | 't' => return .jumpIf true (← label) none
  | 'T' => return .jumpIf false (← label) none
  | 'd' => plain .delete
  | 'D' => plain .deleteFirst
  | 'e' => outward do
    skipBlanks
    let t ← takeWhile (· ≠ '\n')
    skip 1
    return .execute t
  | 'F' => plain .fileName
  | 'g' => plain .get
  | 'G' => plain .getMore
  | 'h' => plain .hold
  | 'H' => plain .holdMore
  | 'x' => plain .exchange
  | 'l' =>
    let n ← perhapsNumber
    plain (.list n)
  | 'n' => plain .next
  | 'N' => plain .nextMore
  | 'p' => plain .print
  | 'P' => plain .printFirst
  | 'q' | 'Q' =>
    oneAddress s
    let n ← perhapsNumber
    plain (.quit (n.getD 0) (c = 'Q'))
  | 'r' => outward do return .readFile (← fileName)
  | 'R' => outward do return .readLine (← fileName)
  | 'w' => outward do return .writeFile (← fileName)
  | 'W' => outward do return .writeFirst (← fileName)
  | 's' => substitution
  | 'y' => exchange
  | 'z' => plain .clear
  | 'v' =>
    let version ← label
    let numbers := (version.splitOn '.').map fun t => ofDigits 10 (t.takeWhile Char.isDigit)
    let isNewer : Bool := match numbers with
      | major :: minor :: _ => 4 < major || (major = 4 && 9 < minor)
      | [major] => 4 < major
      | [] => false
    if isNewer then failWith "expected newer version of sed"
    finish
    return .nothing
  | c => fail ("unknown command: \x60".toList ++ [c, '\''])

def addCommand (c : Command) : Reader Unit :=
  modify fun s => { s with commands := c :: s.commands }

def commands : Nat → Reader Unit
  | 0 => return
  | n + 1 => do
    let _ ← takeWhile fun c => isSpace c || c = ';'
    match ← peek with
    | none => if ← nextPiece then commands n else return
    | some '#' =>
      skip 1
      let _ ← takeWhile (· ≠ '\n')
      commands n
    | some _ =>
      let s ← selection
      skipBlanks
      let isAddressed : Bool := match s with
        | .all => false
        | _ => true
      let marks ← takeWhile (· = '!')
      let negated := !marks.isEmpty
      if negated then skipBlanks
      if 1 < marks.length then
        modify fun s => { s with rest := marks.drop 2 ++ s.rest }
        failWith "multiple \x60!'s"
      if negated ∧ (← peek) = some '!' then
        skip 1
        failWith "multiple \x60!'s"
      match ← peek with
      | none => failWith "missing command"
      | some c =>
        skip 1
        let place := (← get).commands.length
        match c with
        | '{' =>
          modify fun st => { st with blocks := (place, st.origin) :: st.blocks }
          addCommand { selection := s, negated, action := .block 0 }
        | '\x7d' =>
          let st ← get
          match st.blocks with
          | [] => failWith "unexpected \x60\x7d'"
          | (opened, _) :: outer =>
            if isAddressed then failWith "unexpected \x60\x7d'"
            let index := place - 1 - opened
            let closed := st.commands.modify index fun c => { c with action := .block place }
            set { st with blocks := outer, commands := closed }
            finish
        | '#' =>
          if isAddressed then failWith "comments don't accept any addresses"
          let _ ← takeWhile (· ≠ '\n')
        | ':' =>
          if isAddressed then failWith ": doesn't want any addresses"
          let name ← label
          if name.isEmpty then failWith "\":\" lacks a label"
          modify fun st => { st with labels := (name, place) :: st.labels }
        | c =>
          let a ← action c s
          addCommand { selection := s, negated, action := a }
        commands n

def resolve (labels : List (Text × Nat)) (c : Command) : Except Problem Command :=
  let target (name : Text) : Except Problem (Option Nat) :=
    if name.isEmpty then .ok none
    else match labels.reverse.lookup name with
      | some n => .ok (some n)
      | none =>
        .error {
          message := "can't find label for jump to \x60".toList ++ name ++ ['\''], status := 4 }
  match c.action with
  | .jump name _ => do return { c with action := .jump name (← target name) }
  | .jumpIf wanted name _ => do return { c with action := .jumpIf wanted name (← target name) }
  | _ => .ok c

end Reader

def readScript (manner : Manner) (pieces : List ScriptPart) : Except Problem (List Command) :=
  match pieces with
  | [] => .ok []
  | p :: later => do
    let size := pieces.foldl (fun n p => n + p.text.length + 2) 2
    let ((), s) ← (Reader.commands size).run
      { manner, origin := p.origin, whole := p.text, rest := p.text, later }
    match s.blocks.getLast? with
    | some (_, o) =>
      let place := match o with
        | .argument n => "-e expression #".toList ++ shown n ++ ", char 0: ".toList
        | .file name => "file ".toList ++ name ++ " line 0: ".toList
      throw { message := place ++ "unmatched \x60\x7b'".toList, status := 1 }
    | none => s.commands.reverse.mapM (Reader.resolve s.labels)

end StructuralEdit.Shell.LineEditor
