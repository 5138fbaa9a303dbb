import StructuralEdit.Shell.Octets
/-!
Regular expressions of the tools of a system, in their basic and their extended form.
-/
namespace StructuralEdit.Shell.Posix

inductive Node where
  | empty
  | one (p : Char → Bool)
  | start
  | finish
  | lineStart
  | lineFinish
  | edge (wanted : Bool)
  | wordStart
  | wordFinish
  | group (n : Nat) (a : Node)
  | seq (a b : Node)
  | alt (a b : Node)
  | repeat (lazy : Bool) (a : Node) (least : Nat) (most : Option Nat)
  | back (n : Nat)
  | look (ahead wanted : Bool) (a : Node)
  | keep

inductive Grammar where
  | basic
  | extended
  /-- Like extended, but what makes no sense is passed over or stands for itself. -/
  | lenient
  /-- The first way to match is taken instead of the longest one, and there is more to write. -/
  | perl
  deriving DecidableEq

structure Options where
  grammar : Grammar
  ignoresCase : Bool := false
  multiline : Bool := false

inductive Mistake where
  | badExpression
  | openBracket
  | badClass
  | badCollation
  | badRange
  | openGroup
  | closedGroup
  | openInterval
  | badInterval
  | noOperand
  | trailingBackslash
  | badReference
  | tooBig
  deriving DecidableEq

def Mistake.message : Mistake → String
  | .badExpression => "Invalid regular expression"
  | .openBracket => "Unmatched [, [^, [:, [., or [="
  | .badClass => "Invalid character class name"
  | .badCollation => "Invalid collation character"
  | .badRange => "Invalid range end"
  | .openGroup => "Unmatched ( or \\("
  | .closedGroup => "Unmatched ) or \\)"
  | .openInterval => "Unmatched \\\x7b"
  | .badInterval => "Invalid content of \\\x7b\\\x7d"
  | .noOperand => "Invalid preceding regular expression"
  | .trailingBackslash => "Trailing backslash"
  | .badReference => "Invalid back reference"
  | .tooBig => "Regular expression too big"

def isWordChar (c : Char) : Bool := c.isAlphanum || c = '_'

/-- What has been read so far: the rest of the expression and the number of its groups. -/
structure State where
  rest : Text
  groups : Nat := 0
  closed : List Nat := []

abbrev Read := StateT State (Except Mistake)

def caseless (ignoresCase : Bool) (p : Char → Bool) : Char → Bool :=
  if ignoresCase then fun c => p c || p c.toLower || p c.toUpper else p

def literal (o : Options) (c : Char) : Node :=
  .one (caseless o.ignoresCase (· = c))

/-! ### Brackets -/

/-- Reads the name of a class or a character between marks, behind the mark that opens it. -/
def bracketName (mark : Char) : Text → Option (Text × Text)
  | [] => none
  | [_] => none
  | a :: b :: t =>
    if a = mark ∧ b = ']' then some ([], t)
    else (bracketName mark (b :: t)).map fun (name, rest) => (a :: name, rest)

def bracketChar (t : Text) : Except Mistake (Char × Text) :=
  match t with
  | '[' :: '.' :: rest | '[' :: '=' :: rest =>
    match bracketName (t.getD 1 '.') rest with
    | some ([c], rest) => .ok (c, rest)
    | some _ => .error .badCollation
    | none => .error .openBracket
  | c :: rest => .ok (c, rest)
  | [] => .error .openBracket

/-- Reads the members of a bracket. The first one can be the bracket that would close it. -/
def bracketMembers (first : Bool) : Nat → Text → Except Mistake ((Char → Bool) × Text)
  | 0, _ => .error .openBracket
  | n + 1, t => do
    let more (p : Char → Bool) (rest : Text) : Except Mistake ((Char → Bool) × Text) :=
      (bracketMembers false n rest).map fun (q, rest) => (fun c => p c || q c, rest)
    match t with
    | [] => throw .openBracket
    | ']' :: rest => if first then range more ']' rest else return (fun _ => false, rest)
    | '[' :: ':' :: rest =>
      match bracketName ':' rest with
      | none => throw .openBracket
      | some (name, rest) =>
        match kindOf? (String.ofList name) with
        | some p => more p rest
        | none => throw .badClass
    | '[' :: '=' :: rest =>
      match bracketName '=' rest with
      | some ([c], rest) => more (· = c) rest
      | some _ => throw .badCollation
      | none => throw .openBracket
    | _ =>
      let (c, rest) ← bracketChar t
      range more c rest
where
  range (more : (Char → Bool) → Text → Except Mistake ((Char → Bool) × Text)) (lo : Char)
      (t : Text) : Except Mistake ((Char → Bool) × Text) :=
    match t with
    | '-' :: ']' :: _ => more (· = lo) t
    | '-' :: rest => do
      let (hi, rest) ← bracketChar rest
      if hi < lo then throw .badRange else more (fun c => lo ≤ c && c ≤ hi) rest
    | _ => more (· = lo) t

def bracket (o : Options) (t : Text) : Except Mistake (Node × Text) :=
  let read (t : Text) : Except Mistake ((Char → Bool) × Text) :=
    if t.isEmpty then .error .badExpression else bracketMembers true (t.length + 1) t
  match t with
  | '^' :: rest => (read rest).map fun (p, rest) =>
      (.one fun c => !caseless o.ignoresCase p c, rest)
  | _ => (read t).map fun (p, rest) => (.one (caseless o.ignoresCase p), rest)

/-! ### Operators -/

inductive Symbol where
  | finish
  | char (c : Char)
  | any
  | bracket
  | star
  | plus
  | question
  | interval
  | opening
  | closing
  | bar
  | caret
  | dollar
  | back (n : Nat)
  | node (a : Node)
  | trailing

/-- What an escape means in all grammars, if it has a meaning of its own. -/
def commonEscape? (c : Char) : Option Symbol :=
  match c with
  | 'w' => some (.node (.one isWordChar))
  | 'W' => some (.node (.one fun c => !isWordChar c))
  | 's' => some (.node (.one isSpace))
  | 'S' => some (.node (.one fun c => !isSpace c))
  | 'b' => some (.node (.edge true))
  | 'B' => some (.node (.edge false))
  | '<' => some (.node .wordStart)
  | '>' => some (.node .wordFinish)
  | '\x60' => some (.node .start)
  | '\'' => some (.node .finish)
  | _ => if '1' ≤ c ∧ c ≤ '9' then some (.back (c.toNat - 48)) else none

def perlEscape? (t : Text) : Option (Symbol × Text) :=
  match t with
  | 'd' :: rest => some (.node (.one Char.isDigit), rest)
  | 'D' :: rest => some (.node (.one fun c => !c.isDigit), rest)
  | 'h' :: rest => some (.node (.one isTabOrSpace), rest)
  | 'H' :: rest => some (.node (.one fun c => !isTabOrSpace c), rest)
  | 'N' :: rest => some (.node (.one (· ≠ '\n')), rest)
  | 'A' :: rest | 'G' :: rest => some (.node .start, rest)
  | 'z' :: rest | 'Z' :: rest => some (.node .finish, rest)
  | 'K' :: rest => some (.node .keep, rest)
  | 't' :: rest => some (.char '\t', rest)
  | 'n' :: rest => some (.char '\n', rest)
  | 'r' :: rest => some (.char '\r', rest)
  | 'f' :: rest => some (.char '\x0c', rest)
  | 'e' :: rest => some (.char '\x1b', rest)
  | 'x' :: '{' :: rest =>
    let digits := rest.takeWhile isHexDigit
    some (.char (Char.ofNat (ofDigits 16 digits)), rest.drop (digits.length + 1))
  | 'x' :: rest =>
    let digits := (rest.take 2).takeWhile isHexDigit
    some (.char (Char.ofNat (ofDigits 16 digits)), rest.drop digits.length)
  | '<' :: rest => some (.char '<', rest)
  | '>' :: rest => some (.char '>', rest)
  | '\x60' :: rest => some (.char '\x60', rest)
  | '\'' :: rest => some (.char '\'', rest)
  | _ => none

def symbol (g : Grammar) (t : Text) : Symbol × Text :=
  match t with
  | [] => (.finish, [])
  | '\\' :: [] => (.trailing, [])
  | '\\' :: c :: rest =>
    match (if g = .perl then perlEscape? (c :: rest) else none) with
    | some r => r
    | none =>
    match commonEscape? c with
    | some s => (s, rest)
    | none =>
      if g = .basic then
        match c with
        | '(' => (.opening, rest)
        | ')' => (.closing, rest)
        | '{' => (.interval, rest)
        | '|' => (.bar, rest)
        | '+' => (.plus, rest)
        | '?' => (.question, rest)
        | _ => (.char c, rest)
      else (.char c, rest)
  | c :: rest =>
    match c with
    | '.' => (.any, rest)
    | '[' => (.bracket, rest)
    | '*' => (.star, rest)
    | '^' => (.caret, rest)
    | '$' => (.dollar, rest)
    | '\n' => if g = .lenient then (.bar, rest) else (.char c, rest)
    | _ =>
      if g = .basic then (.char c, rest)
      else match c with
        | '(' => (.opening, rest)
        | ')' => (.closing, rest)
        | '{' => (.interval, rest)
        | '|' => (.bar, rest)
        | '+' => (.plus, rest)
        | '?' => (.question, rest)
        | _ => (.char c, rest)

def intervalBounds (g : Grammar) (t : Text) : Except Mistake ((Nat × Option Nat) × Text) :=
  let close (t : Text) : Option Text :=
    match g, t with
    | .basic, '\\' :: '\x7d' :: rest => some rest
    | .basic, _ => none
    | _, '\x7d' :: rest => some rest
    | _, _ => none
  let finish (lo : Nat) (hi : Option Nat) (t : Text) : Except Mistake ((Nat × Option Nat) × Text) :=
    match close t with
    | some rest =>
      if hi.any (· < lo) then .error .badInterval
      else if 32767 < lo ∨ hi.any (32767 < ·) then .error .tooBig
      else .ok ((lo, hi), rest)
    | none =>
      let isOpen : Bool := t.all fun c => c ≠ '\x7d'
      .error (if isOpen then .openInterval else .badInterval)
  let low := t.takeWhile Char.isDigit
  match t.drop low.length with
  | ',' :: rest =>
    let high := rest.takeWhile Char.isDigit
    finish (ofDigits 10 low) (if high.isEmpty then none else some (ofDigits 10 high))
      (rest.drop high.length)
  | rest =>
    if low.isEmpty then
      let isOpen : Bool := t.all fun c => c ≠ '\x7d'
      .error (if isOpen then .openInterval else .badInterval)
    else finish (ofDigits 10 low) (some (ofDigits 10 low)) rest

/-- Whether a dollar sign is at the end of a branch, as far as the text behind it tells. -/
def endsBranch (g : Grammar) (t : Text) : Bool :=
  match (symbol g t).1 with
  | .finish | .closing | .bar => true
  | _ => false

/-! ### Reading -/

def startNode (o : Options) : Node := if o.multiline then .lineStart else .start

def finishNode (o : Options) : Node := if o.multiline then .lineFinish else .finish

/-- What can be read: alternatives, a branch whose first part may have been read, or a part. -/
inductive Level where
  | alternatives (depth : Nat)
  | branch (depth : Nat) (isFirst : Bool)

def setRest (t : Text) : Read Unit := modify fun s => { s with rest := t }

def operators (o : Options) : Nat → Node → Read Node
  | 0, a => return a
  | n + 1, a => do
    let t := (← get).rest
    let (s, rest) := symbol o.grammar t
    let apply (b : Node) (rest : Text) : Read Node := do
      setRest rest
      operators o n b
    let repeat_ (lo : Nat) (hi : Option Nat) (rest : Text) : Read Node :=
      match o.grammar, rest with
      | .perl, '?' :: rest => apply (.repeat true a lo hi) rest
      | .perl, '+' :: rest => apply (.repeat false a lo hi) rest
      | _, rest => apply (.repeat false a lo hi) rest
    match s with
    | .star => repeat_ 0 none rest
    | .plus => repeat_ 1 none rest
    | .question => repeat_ 0 (some 1) rest
    | .interval =>
      match intervalBounds o.grammar rest with
      | .ok ((lo, hi), rest) => repeat_ lo hi rest
      | .error e =>
        if (o.grammar = .lenient ∨ o.grammar = .perl) ∧ e ≠ .tooBig ∧
            (e = .openInterval ∨ rest.head?.any fun c => !c.isDigit && c ≠ ',') then return a
        else throw e
    | _ => return a

def expression (o : Options) : Nat → Level → Read Node
  | 0, _ => throw .tooBig
  | n + 1, .alternatives depth => do
    let a ← expression o n (.branch depth true)
    let t := (← get).rest
    match symbol o.grammar t with
    | (.bar, rest) =>
      setRest rest
      let b ← expression o n (.alternatives depth)
      return .alt a b
    | _ => return a
  | n + 1, .branch depth isFirst => do
    let t := (← get).rest
    let (s, rest) := symbol o.grammar t
    let isBasic : Bool := o.grammar = .basic
    let isLenient : Bool := o.grammar = .lenient
    let isPerl : Bool := o.grammar = .perl
    let go (a : Node) (rest : Text) : Read Node := do
      setRest rest
      let a ← operators o (rest.length + 1) a
      let b ← expression o n (.branch depth false)
      return match b with
        | .empty => a
        | b => .seq a b
    /- An anchor, behind which a star stands for itself. -/
    let anchor (a : Node) (rest : Text) : Read Node := do
      setRest rest
      let b ← expression o n (.branch depth isBasic)
      return match b with
        | .empty => a
        | b => .seq a b
    match s with
    | .finish | .bar => return .empty
    | .trailing => throw .trailingBackslash
    | .closing =>
      if 0 < depth then return .empty
      else if isLenient then go (literal o ')') rest
      else throw .closedGroup
    | .opening =>
      let unnumbered (make : Node → Node) (rest : Text) : Read Node := do
        setRest rest
        let a ← expression o n (.alternatives (depth + 1))
        match symbol o.grammar (← get).rest with
        | (.closing, rest) => go (make a) rest
        | _ => throw .openGroup
      let special := match o.grammar, rest with
        | .perl, '?' :: rest => some rest
        | _, _ => none
      match special with
      | some (':' :: rest) => return ← unnumbered id rest
      | some ('=' :: rest) => return ← unnumbered (.look true true) rest
      | some ('!' :: rest) => return ← unnumbered (.look true false) rest
      | some ('<' :: '=' :: rest) => return ← unnumbered (.look false true) rest
      | some ('<' :: '!' :: rest) => return ← unnumbered (.look false false) rest
      | some ('>' :: rest) => return ← unnumbered id rest
      | _ => pure ()
      let rest := match special with
        | some rest => (rest.dropWhile (· ≠ '>')).tail
        | none => rest
      let number := (← get).groups + 1
      modify fun s => { s with rest, groups := number }
      let a ← expression o n (.alternatives (depth + 1))
      match symbol o.grammar (← get).rest with
      | (.closing, rest) =>
        modify fun s => { s with closed := number :: s.closed }
        go (.group number a) rest
      | _ => throw .openGroup
    | .char c => go (literal o c) rest
    | .any => go (.one fun _ => true) rest
    | .node a => go a rest
    | .bracket =>
      let (a, rest) ← liftM (bracket o rest)
      go a rest
    | .back k =>
      if (← get).closed.contains k then go (.back k) rest else throw .badReference
    | .caret =>
      if !isBasic ∨ isFirst then
        if isBasic then anchor (startNode o) rest
        else match (symbol o.grammar rest).1 with
          | .star | .plus | .question =>
            if isLenient then go (startNode o) rest else throw .noOperand
          | _ => go (startNode o) rest
      else go (literal o '^') rest
    | .dollar =>
      if !isBasic ∨ endsBranch o.grammar rest then go (finishNode o) rest
      else go (literal o '$') rest
    | .star =>
      if isFirst then
        if isBasic then go (literal o '*') rest
        else if isLenient then
          setRest rest
          expression o n (.branch depth true)
        else throw .noOperand
      else go (literal o '*') rest
    | .plus | .question =>
      if isBasic then go (literal o (if t.getD 1 '+' = '+' then '+' else '?')) rest
      else if isLenient then
        setRest rest
        expression o n (.branch depth true)
      else throw .noOperand
    | .interval =>
      if isLenient || isPerl then
        match intervalBounds o.grammar rest with
        | .ok (_, rest) =>
          setRest rest
          expression o n (.branch depth true)
        | .error _ => go (literal o '\x7b') rest
      else throw .noOperand

def Node.looksBack : Node → Bool
  | .back _ => true
  | .group _ a | .repeat _ a _ _ | .look _ _ a => a.looksBack
  | .seq a b | .alt a b => a.looksBack || b.looksBack
  | _ => false

end Posix

structure Posix where
  node : Posix.Node
  groups : Nat
  looksBack : Bool
  ignoresCase : Bool
  takesFirst : Bool

namespace Posix

def read (o : Options) (t : Text) : Except Mistake Posix := do
  let (node, s) ← (expression o (4 * t.length + 8) (.alternatives 0)).run { rest := t }
  return {
    node, groups := s.groups, looksBack := node.looksBack, ignoresCase := o.ignoresCase
    takesFirst := o.grammar = .perl }

end Posix

end StructuralEdit.Shell
