import StructuralEdit.Shell.Reader.Word
/-!
Reading tokens, and the documents whose lines come behind a line.
-/
namespace StructuralEdit.Shell

def operatorsOf : Dialect → List String
  | .dash => ["&&", "||", ";;", ";", "&", "|", "(", ")"]
  | .bash => ["&&", "||", "|&", ";;&", ";;", ";&", ";", "&", "|", "(", ")"]

def redirectionsOf : Dialect → List String
  | .dash => ["<<-", "<<", "<&", "<>", "<", ">>", ">&", ">|", ">"]
  | .bash => ["<<<", "<<-", "<<", "<&", "<>", "<", "&>>", "&>", ">>", ">&", ">|", ">"]

def Redirect.Kind.ofOperator : String → Redirect.Kind
  | "<" => .input
  | "<>" => .both
  | "<&" => .duplicateInput
  | ">>" => .append
  | ">&" => .duplicateOutput
  | ">|" => .clobber
  | "&>" => .allOutput
  | "&>>" => .allAppend
  | "<<" | "<<-" => .document
  | "<<<" => .line
  | _ => .output

namespace Read

def skipBlanks : Read Unit := do
  let rec go : Nat → Read Unit
    | 0 => return
    | n + 1 => do
      match ← upcoming with
      | c :: t =>
        if isTabOrSpace c then
          skip 1
          go n
        else if c = '#' then skip (1 + (t.takeWhile (· ≠ '\n')).length)
        else return
      | [] => return
  go (← get).rest.length

/-- The lines of a document up to its mark, and what is behind the mark. -/
def documentLines (d : Document) : Nat → Text → Text × Text
  | 0, t => ([], t)
  | n + 1, t =>
    if t.isEmpty then ([], [])
    else
      let line := t.takeWhile (· ≠ '\n')
      let rest := t.drop line.length
      let line := if d.stripsTabs then line.dropWhile (· = '\t') else line
      if line = d.mark then ([], rest.tail)
      else
        let (lines, rest) := documentLines d n rest.tail
        (line ++ '\n' :: lines, rest)

def readDocument (self : Readers) (d : Document) : Read Unit := do
  let t := (← get).rest
  let (body, rest) := documentLines d (t.length + 1) t
  let w ← if d.isQuoted then pure (Word.ofText true body)
    else apart body (self (.parts .document))
  skip (t.length - rest.length)
  modify fun r => { r with found := w :: r.found }

def readDocuments (self : Readers) : Read Unit := do
  let pending := (← get).pending.reverse
  modify fun r => { r with pending := [] }
  for d in pending do readDocument self d

def token (self : Readers) : Nat → Read Token
  | 0 => return .finish
  | n + 1 => do
    match (← get).pushed with
    | some t =>
      modify fun r => { r with pushed := none }
      return t
    | none =>
      skipBlanks
      let d := (← get).dialect
      let before := (← get).rest
      let starts (o : String) : Bool := o.toList.isPrefixOf before
      let streams : Bool := d = .bash && (starts "<(" || starts ">(")
      match before with
      | [] =>
        readDocuments self
        return .finish
      | '\n' :: _ =>
        skip 1
        readDocuments self
        return .newline
      | _ =>
        match if streams then none else (redirectionsOf d).find? starts with
        | some o =>
          skip o.length
          return .redirect none o
        | none =>
          match (operatorsOf d).find? starts with
          | some o =>
            skip o.length
            return .operator o
          | none =>
            let w ← parts self (token self n) .plain (before.length + 1) 0 []
            let rest := (← get).rest
            let written := before.take (before.length - rest.length)
            let isDescriptor : Bool :=
              !written.isEmpty && written.all Char.isDigit &&
                (d = .bash || written.length = 1) &&
                (rest.head? == some '<' || rest.head? == some '>')
            if isDescriptor then
              match (redirectionsOf d).find? fun o => o.toList.isPrefixOf rest with
              | some o =>
                skip o.length
                return .redirect (some (ofDigits 10 written)) o
              | none => return .word w written
            else return .word w written

def nextToken (self : Readers) : Read Token := do token self ((← get).rest.length + 2)

def tokenBehindLines (self : Readers) : Read Token := do
  let rec go : Nat → Read Token
    | 0 => return .finish
    | n + 1 => do
      let t ← nextToken self
      if t.isNewline then go n else return t
  go ((← get).rest.length + 2)

def expandAlias (used : List Text) (t : Token) : Read (Option Text) := do
  match t with
  | .word w _ =>
    match w.plain? with
    | some name =>
      if used.contains name then return none
      match (← get).aliases.lookup name with
      | some value =>
        modify fun r => { r with rest := value ++ r.rest }
        return some name
      | none => return none
    | none => return none
  | _ => return none

def commandToken (self : Readers) (behindLines : Bool) : Read Token := do
  let rec go : Nat → List Text → Read Token
    | 0, _ => nextToken self
    | n + 1, used => do
      let t ← if behindLines then tokenBehindLines self else nextToken self
      match ← expandAlias used t with
      | some name => go n (name :: used)
      | none => return t
  go ((← get).aliases.length + 1) []

end Read

end StructuralEdit.Shell
