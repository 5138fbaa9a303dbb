import StructuralEdit.Shell.Reader.Condition
/-!
Reading commands and lists of commands.
-/
namespace StructuralEdit.Shell

/-- Commands that are part of the shell's language, so that no function can have their name. -/
def specialCommands : List String :=
  [".", ":", "break", "continue", "eval", "exec", "exit", "export", "readonly", "return", "set",
    "shift", "times", "trap", "unset"]

def declaringCommands : List String :=
  ["declare", "typeset", "local", "export", "readonly"]

def Token.isOpening (d : Dialect) (t : Token) : Bool :=
  match t.plain? with
  | some w =>
    Token.reserved.contains w || (d = .bash && ["[[", "function", "select", "time"].contains w)
  | none => false

namespace Read

def redirectTarget (self : Readers) (descriptor : Option Nat) (o : String) : Read Redirect := do
  let kind := Redirect.Kind.ofOperator o
  let usual := if o.startsWith "<" then 0 else 1
  let descriptor := descriptor.getD usual
  match ← nextToken self with
  | .word w written =>
    if kind = .document then
      let mark := if w.isQuoted then (w.constant?.getD []) else written
      let d : Document := { stripsTabs := o = "<<-", isQuoted := w.isQuoted, mark }
      let r ← get
      set { r with pending := d :: r.pending, known := r.known.tail }
      return { descriptor, kind, target := r.known.headD [] }
    else return { descriptor, kind, target := w }
  | t => unexpectedHere t

def redirects (self : Readers) : Read (List Redirect) := do
  let rec go : Nat → Read (List Redirect)
    | 0 => return []
    | n + 1 => do
      match ← nextToken self with
      | .redirect descriptor o =>
        let r ← redirectTarget self descriptor o
        return r :: (← go n)
      | t =>
        push t
        return []
  go ((← get).rest.length + 1)

def items (self : Readers) : Read (List (Option Word × Word)) := do
  let rec go : Nat → Read (List (Option Word × Word))
    | 0 => return []
    | n + 1 => do
      match ← tokenBehindLines self with
      | .word (.char '[' false :: inner) _ =>
        let whole : Option Word × Word := (none, .char '[' false :: inner)
        let item : Option Word × Word := match Word.splitAt? ']' inner with
          | some (sub, .char '=' false :: value) => (some sub, value)
          | _ => whole
        return item :: (← go n)
      | .word w _ => return (none, w) :: (← go n)
      | t =>
        if t.isOperator ")" then return []
        else if t.isFinish then fail .openItems
        else fail (.badItem t)
  go ((← get).rest.length + 1)

def itemsFor (self : Readers) (takesItems : Bool) (a : Assignment) : Read Assignment := do
  if takesItems then
    skip 1
    return { a with value := .items (← items self) }
  else return a

/-- What has been read of a simple command, in reverse. -/
structure Simple where
  assignments : List Assignment := []
  late : List Assignment := []
  words : List Word := []
  redirects : List Redirect := []

def Simple.script (c : Simple) (line : Nat) : Script :=
  .simple line c.assignments.reverse c.late.reverse c.words.reverse c.redirects.reverse

def functionBody (self : Readers) (name : Text) : Read Script := do
  let t ← tokenBehindLines self
  let d := (← get).dialect
  unless d = .dash || t.isOpening d || t.isOperator "(" do unexpected t ""
  push t
  return .function name (← self .command)

def simple (self : Readers) : Read Script := do
  let rec go : Nat → Nat → Simple → Read Script
    | 0, line, c => return c.script line
    | n + 1, line, c => do
      let dialect := (← get).dialect
      let first := c.words.isEmpty
      match ← (if first then commandToken self false else nextToken self) with
      | .redirect descriptor o =>
        let r ← redirectTarget self descriptor o
        go n line { c with redirects := r :: c.redirects }
      | .word w written =>
        let assigned := w.assignment? dialect
        let takesItems : Bool :=
          dialect = .bash && (← get).rest.head? == some '(' && written.getLast? == some '='
        match assigned with
        | some a =>
          let declares : Bool := match c.words.getLast?.bind Word.plain? with
            | some name => declaringCommands.contains (String.ofList name)
            | none => false
          if first || (takesItems && declares) then
            let a ← itemsFor self takesItems a
            if first then go n line { c with assignments := a :: c.assignments }
            else
              let words := Word.ofText false a.name :: c.words
              go n line { c with words, late := a :: c.late }
          else go n line { c with words := w :: c.words }
        | none => go n line { c with words := w :: c.words }
      | t =>
        match t, c.words with
        | .operator "(", [w] =>
          if c.assignments.isEmpty ∧ c.redirects.isEmpty then
            let t ← nextToken self
            unless t.isOperator ")" do unexpected t "\")\""
            let name := (w.constant?.getD [])
            if dialect = .dash ∧
                (!isName name ∨ specialCommands.contains (String.ofList name) ∨ w.isQuoted) then
              fail (.badFunctionName name)
            functionBody self name
          else
            push t
            return c.script line
        | _, _ =>
          push t
          return c.script line
  let r ← get
  go (r.rest.length + 2) r.line {}

def expect (self : Readers) (word : String) : Read Unit := do
  let t ← nextToken self
  unless t.isPlain word do unexpected t ("\"" ++ word ++ "\"")

def conditionalRest (self : Readers) : Nat → Read Script
  | 0 => return .nothing
  | n + 1 => do
    let test ← self (.list .body)
    expect self "then"
    let yes ← self (.list .body)
    let t ← nextToken self
    if t.isPlain "elif" then return .conditional test yes (← conditionalRest self n)
    else if t.isPlain "else" then return .conditional test yes (← self (.list .body))
    else
      push t
      return .conditional test yes .nothing

def loopWords (self : Readers) : Nat → Read (List Word)
  | 0 => return []
  | n + 1 => do
    match ← nextToken self with
    | .word w _ => return w :: (← loopWords self n)
    | t =>
      if t.isNewline || t.isOperator ";" then return [] else unexpected t ""

/-- Reads the body of a loop, from the word that opens it to the one that closes it. -/
def loopBody (self : Readers) : Read Script := do
  let t ← tokenBehindLines self
  if (← isBash) && t.isPlain "\x7b" then
    let body ← self (.list .body)
    expect self "\x7d"
    return body
  unless t.isPlain "do" do unexpected t "\"do\""
  let body ← self (.list .body)
  expect self "done"
  return body

def counting (self : Readers) (line : Nat) : Read Script := do
  let w ← self (.parts .arithmetic)
  let cut (w : Word) : Word × Word :=
    let before := w.takeWhile fun (p : Part) => match p with
      | .char c _ => c ≠ ';'
      | _ => true
    (before, w.drop (before.length + 1))
  let (first, w) := cut w
  let (test, w) := cut w
  let t ← nextToken self
  unless t.isOperator ";" do push t
  return .counting line first test w (← loopBody self)

def eachLoop (self : Readers) : Read Script := do
  let line := (← get).line
  let t ← nextToken self
  if (← isBash) && t.isOperator "(" && (← get).rest.head? == some '(' then
    skip 1
    counting self line
  else match t with
    | .word w _ =>
      let name := w.constant?.getD []
      unless (← isBash) || (!w.isQuoted && isName name) do fail .badLoopVariable
      let t ← tokenBehindLines self
      if t.isPlain "in" then
        let words ← loopWords self ((← get).rest.length + 2)
        return .each line name (some words) (← loopBody self)
      else
        unless t.isOperator ";" do push t
        return .each line name none (← loopBody self)
    | t => if ← isBash then unexpectedHere t else fail .badLoopVariable

def menu (self : Readers) : Read Script := do
  let line := (← get).line
  match ← nextToken self with
  | .word w _ =>
    let name := w.constant?.getD []
    let t ← tokenBehindLines self
    if t.isPlain "in" then
      let words ← loopWords self ((← get).rest.length + 2)
      return .menu line name (some words) (← loopBody self)
    else
      unless t.isOperator ";" do push t
      return .menu line name none (← loopBody self)
  | t => unexpectedHere t

def casePatterns (self : Readers) : Nat → Token → Read (List Word)
  | 0, _ => return []
  | n + 1, t => do
    let w : Word ← match t with
      | .word w _ => pure w
      | t => if ← isBash then unexpected t "" else pure []
    let next ← nextToken self
    if next.isOperator "|" then return w :: (← casePatterns self n (← nextToken self))
    unless next.isOperator ")" do unexpected next "\")\""
    return [w]

def cases (self : Readers) : Nat → Read Script
  | 0 => return .nothing
  | n + 1 => do
    let t ← tokenBehindLines self
    if t.isPlain "esac" then return .nothing
    let t ← if t.isOperator "(" then nextToken self else pure t
    let patterns ← casePatterns self n t
    let body ← self (.list .choice)
    let t ← tokenBehindLines self
    if t.isPlain "esac" then return .case patterns body false false .nothing
    else if t.isOperator ";;" then return .case patterns body false false (← cases self n)
    else if t.isOperator ";&" then return .case patterns body true false (← cases self n)
    else if t.isOperator ";;&" then return .case patterns body false true (← cases self n)
    else unexpected t "\";;\""

def choice (self : Readers) : Read Script := do
  let line := (← get).line
  match ← nextToken self with
  | .word w _ =>
    let t ← tokenBehindLines self
    unless t.isPlain "in" do unexpected t "\"in\""
    return .choice line w (← cases self ((← get).rest.length + 2))
  | t => unexpected t "word"

def withRedirects (self : Readers) (line : Nat) (s : Script) : Read Script := do
  match ← redirects self with
  | [] => return s
  | rs => return .redirected line s rs

/-- Reads an arithmetic command behind its two parentheses, or a part of a script in parentheses
that only looks like one. -/
def arithmeticOrSubshell (self : Readers) (line : Nat) (subshell : Read Script) : Read Script := do
  let before ← get
  let sum : Read Script := do
    skip 1
    return .arithmetic line (← self (.parts .arithmetic))
  tryCatch sum fun e => do
    match e.cause with
    | .noArithmetic =>
      set before
      subshell
    | _ => throw e

def command (self : Readers) : Read Script := do
  let bash ← isBash
  let t ← commandToken self false
  let line := (← get).line
  let ended (s : Script) (word : String) : Read Script := do
    expect self word
    withRedirects self line s
  match t with
  | .redirect .. =>
    push t
    simple self
  | .operator "(" =>
    let subshell : Read Script := do
      let s ← self (.list .body)
      let t ← nextToken self
      unless t.isOperator ")" do unexpected t "\")\""
      return .subshell s
    let s ← if bash && (← get).rest.head? == some '(' then
        arithmeticOrSubshell self line subshell
      else subshell
    withRedirects self line s
  | .word _ _ =>
    match (if t.isOpening (← get).dialect then t.plain?.getD "" else "") with
    | "if" => ended (← conditionalRest self ((← get).rest.length + 1)) "fi"
    | "while" => withRedirects self line (.loop true (← self (.list .body)) (← loopBody self))
    | "until" => withRedirects self line (.loop false (← self (.list .body)) (← loopBody self))
    | "for" => withRedirects self line (← eachLoop self)
    | "select" => withRedirects self line (← menu self)
    | "case" => withRedirects self line (← choice self)
    | "\x7b" => ended (← self (.list .body)) "\x7d"
    | "[[" =>
      let c ← self .condition
      let t ← tokenBehindLines self
      unless t.isPlain "]]" do fail (.longCondition t)
      withRedirects self line (.condition line c)
    | "function" =>
      match ← nextToken self with
      | .word w _ =>
        let t ← nextToken self
        if t.isOperator "(" then
          let t ← nextToken self
          unless t.isOperator ")" do unexpected t "\")\""
        else push t
        functionBody self (w.constant?.getD [])
      | t => unexpected t ""
    | "" =>
      push t
      simple self
    | _ => unexpected t ""
  | t => unexpected t ""

def pipeline (self : Readers) : Read Script := do
  let rec stages : Nat → Script → Read Script
    | 0, s => return s
    | n + 1, s => do
      let t ← nextToken self
      if t.isOperator "|" || t.isOperator "|&" then
        let line := (← get).line
        let errors : Redirect :=
          { descriptor := 2, kind := .duplicateOutput, target := Word.ofText true ['1'] }
        let s := if t.isOperator "|&" then .redirected line s [errors] else s
        let next ← tokenBehindLines self
        push next
        return .pipe s (← stages n (← self .command))
      else
        push t
        return s
  let rec negations : Nat → Read Script
    | 0 => return .nothing
    | n + 1 => do
      let t ← commandToken self false
      if t.isPlain "!" then
        if ← isBash then return .not (← negations n)
        else return .not (← stages ((← get).rest.length + 2) (← self .command))
      else if (← isBash) && t.isPlain "time" then
        let next ← nextToken self
        unless next.isPlain "-p" do push next
        let after ← nextToken self
        push after
        if after.isFinish || after.isNewline || after.isOperator ";" then return .nothing
        else negations n
      else
        push t
        stages ((← get).rest.length + 2) (← self .command)
  negations ((← get).rest.length + 2)

/-- Reads pipelines of which each one may depend on the success of those before it. -/
def andOr (self : Readers) : Read Script := do
  let rec go : Nat → Script → Read Script
    | 0, s => return s
    | n + 1, s => do
      let t ← nextToken self
      if t.isOperator "&&" || t.isOperator "||" then
        let next ← tokenBehindLines self
        push next
        let other ← pipeline self
        go n (if t.isOperator "&&" then .both s other else .either s other)
      else
        push t
        return s
  go ((← get).rest.length + 2) (← pipeline self)

def list (self : Readers) (k : ListKind) : Read Script := do
  let rec go : Nat → Bool → Script → Read Script
    | 0, _, s => return s
    | n + 1, first, s => do
      let t ← if k = .line then commandToken self false else commandToken self true
      if t.isNewline then return s
      else
        push t
        if t.isFinish then return s
        else if t.endsList ∧ k ≠ .line ∧ (!first ∨ k = .choice) then return s
        else
          let s' ← self .andOr
          let t ← nextToken self
          let s' := s.andThen (if t.isOperator "&" then .background s' else s')
          if t.isFinish then
            push t
            return s'
          else if t.isNewline then
            push t
            go n false s'
          else if t.isOperator "&" || t.isOperator ";" then go n false s'
          else if k = .line then unexpected t ""
          else
            push t
            return s'
  go ((← get).rest.length + 2) true .nothing

def step (self : Readers) : Readers
  | .parts c => do parts self (nextToken self) c ((← get).rest.length + 1) 0 []
  | .list k => list self k
  | .andOr => andOr self
  | .command => command self
  | .condition => condition self

def anything : Nat → Readers
  | 0, _ => fail (.unexpected .finish none)
  | n + 1, g => step (anything n) g

end Read

/-- Reads the commands of one line, which can be more than one line if something is open at its
end. There are none at the end of the script. Documents are known from a first reading. -/
def Reader.next? (r : Reader) : Except SyntaxError (Option Script × Reader) := do
  let read (known : List Word) : Except SyntaxError (Script × Reader) :=
    (Read.anything (4 * r.rest.length + 16) (.list .line)).run
      { r with pushed := none, pending := [], found := [], known }
  if r.rest.isEmpty then return (none, r)
  let (s, after) ← read []
  if after.found.isEmpty then return (some s, after)
  let (s, after) ← read after.found.reverse
  return (some s, after)

end StructuralEdit.Shell
