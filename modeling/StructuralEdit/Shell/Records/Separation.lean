import StructuralEdit.Shell.Records.Reader
/-!
Text in parts: records between separators, the fields of a record, and what takes the place of
matches.
-/
namespace StructuralEdit.Shell.Records

inductive Separator where
  | blanks
  | char (c : Char)
  | nothing
  | pattern (p : Posix)

def Separator.ofText (t : Text) : Except String Separator :=
  match t with
  | [' '] => .ok .blanks
  | [] => .ok .nothing
  | [c] => .ok (.char c)
  | t => (pattern? t).map .pattern

def partsBetween (p : Posix) (t : Array Char) : Nat → Nat → Nat → List Text
  | 0, first, _ => [(t.extract first t.size).toList]
  | n + 1, first, i =>
    match p.find? t i with
    | none => [(t.extract first t.size).toList]
    | some m =>
      if m.first = m.last then
        if t.size ≤ m.first then [(t.extract first t.size).toList]
        else partsBetween p t n first (m.first + 1)
      else (t.extract first m.first).toList :: partsBetween p t n m.last m.last

def Separator.parts (s : Separator) (t : Text) : List Text :=
  if t.isEmpty then []
  else match s with
    | .blanks => wordsOf t
    | .char c => t.splitOn c
    | .nothing => t.map fun c => [c]
    | .pattern p => partsBetween p t.toArray (t.length + 1) 0 0

/-! ### Records -/

inductive Terminator where
  | char (c : Char)
  /-- Empty lines. Those in front of a record are passed over. -/
  | emptyLines
  | pattern (p : Posix)

def Terminator.ofText (t : Text) : Except String Terminator :=
  match t with
  | [] => .ok .emptyLines
  | [c] => .ok (.char c)
  | t => (pattern? t).map .pattern

def paragraph : Text → Text × Text
  | '\n' :: '\n' :: rest => ([], rest.dropWhile (· = '\n'))
  | ['\n'] => ([], [])
  | c :: rest =>
    let (t, rest) := paragraph rest
    (c :: t, rest)
  | [] => ([], [])

def Terminator.next? (e : Terminator) (t : Text) : Option (Text × Text) :=
  match e with
  | .char c => if t.isEmpty then none else some (t.takeWhile (· ≠ c), (t.dropWhile (· ≠ c)).tail)
  | .emptyLines =>
    let t := t.dropWhile (· = '\n')
    if t.isEmpty then none else some (paragraph t)
  | .pattern p =>
    if t.isEmpty then none
    else
      let chars := t.toArray
      match firstIn p chars (chars.size + 1) 0 with
      | some m =>
        some ((chars.extract 0 m.first).toList, (chars.extract m.last chars.size).toList)
      | none => some (t, [])
where
  firstIn (p : Posix) (t : Array Char) : Nat → Nat → Option Posix.Match
    | 0, _ => none
    | n + 1, i =>
      match p.find? t i with
      | some m =>
        if m.first < m.last then some m
        else if t.size ≤ m.first then none else firstIn p t n (m.first + 1)
      | none => none

/-! ### Replacing -/

inductive Piece where
  | text (t : Text)
  | whole

/-- The pieces of a replacement. Backslashes only mean something in front of the sign for the
match: two of them are one, and one takes the meaning from the sign. -/
def pieces : Nat → Text → List Piece
  | 0, _ => []
  | _ + 1, [] => []
  | n + 1, '&' :: rest => .whole :: pieces n rest
  | n + 1, c :: rest =>
    if c = '\\' then
      let slashes := (c :: rest).takeWhile (· = '\\')
      let count := slashes.length
      match (c :: rest).drop count with
      | '&' :: rest =>
        let lead := Piece.text (List.replicate (count / 2) '\\')
        if count % 2 = 1 then lead :: .text ['&'] :: pieces n rest
        else lead :: .whole :: pieces n rest
      | rest => .text slashes :: pieces n rest
    else .text [c] :: pieces n rest

def filled (ps : List Piece) (whole : Text) : Text :=
  ps.flatMap fun p => match p with
    | .text t => t
    | .whole => whole

/-- Replaces matches from a place on: all of them, or the first one. The answer has the text in
parts, the last one first, and the number of matches. The first argument bounds that number. -/
def replaceFrom (p : Posix) (ps : List Piece) (all : Bool) (t : Array Char) :
    Nat → Nat → Option Nat → List Text → Nat → List Text × Nat
  | 0, _, _, out, count => (out, count)
  | n + 1, i, before, out, count =>
    let rest : Text := (t.extract i t.size).toList
    if t.size < i ∨ (!all ∧ 0 < count) then (rest :: out, count)
    else match p.find? t i with
      | none => (rest :: out, count)
      | some m =>
        let skipped : Text := (t.extract i m.first).toList
        let one : Text := (t.extract m.first (m.first + 1)).toList
        if m.first = m.last then
          if before = some m.first then
            replaceFrom p ps all t n (m.first + 1) none (one :: skipped :: out) count
          else if all then
            replaceFrom p ps all t n (m.first + 1) none
              (one :: filled ps [] :: skipped :: out) (count + 1)
          else
            ((t.extract m.first t.size).toList :: filled ps [] :: skipped :: out, count + 1)
        else
          let whole : Text := (t.extract m.first m.last).toList
          replaceFrom p ps all t n m.last (some m.last) (filled ps whole :: skipped :: out)
            (count + 1)

def replaced (p : Posix) (replacement : Text) (all : Bool) (t : Text) : Text × Nat :=
  let chars := t.toArray
  let ps := pieces (replacement.length + 1) replacement
  let (out, count) := replaceFrom p ps all chars (chars.size + 2) 0 none [] 0
  (out.reverse.flatten, count)

end StructuralEdit.Shell.Records
