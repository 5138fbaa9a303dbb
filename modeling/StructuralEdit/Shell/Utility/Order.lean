import StructuralEdit.Shell.Real
import StructuralEdit.Shell.Utility.Basic
/-!
Sorting lines, and what can be done with lines that are sorted.
-/
namespace StructuralEdit.Shell

/-! ### Comparing -/

namespace Sorting

def compareText : Text → Text → Ordering
  | [], [] => .eq
  | [], _ => .lt
  | _, [] => .gt
  | a :: as, b :: bs =>
    if a.val < b.val then .lt else if b.val < a.val then .gt else compareText as bs

def withoutBlanks (t : Text) : Text := t.dropWhile fun c => isTabOrSpace c || c = '\n'

/-- A number as its digits before and behind the point, without zeros that mean nothing. -/
structure Digits where
  negative : Bool
  whole : Text
  fraction : Text
  rest : Text

def Digits.ofText (t : Text) : Digits :=
  let t := withoutBlanks t
  let (negative, t) : Bool × Text := match t with
    | '-' :: t => (true, t)
    | t => (false, t)
  let whole := t.takeWhile Char.isDigit
  let behind := t.drop whole.length
  let (fraction, rest) : Text × Text := match behind with
    | '.' :: t => (t.takeWhile Char.isDigit, t.dropWhile Char.isDigit)
    | t => ([], t)
  { negative, rest
    whole := whole.dropWhile (· = '0')
    fraction := (fraction.reverse.dropWhile (· = '0')).reverse }

def Digits.isZero (d : Digits) : Bool := d.whole.isEmpty && d.fraction.isEmpty

def Digits.compareSize (a b : Digits) : Ordering :=
  (compare a.whole.length b.whole.length).then
    ((compareText a.whole b.whole).then (compareText a.fraction b.fraction))

def Digits.compare (a b : Digits) : Ordering :=
  let sign (d : Digits) : Int := if d.isZero then 0 else if d.negative then -1 else 1
  match Ord.compare (sign a) (sign b) with
  | .eq => if a.isZero then .eq else if a.negative then b.compareSize a else a.compareSize b
  | o => o

def Digits.unit (d : Digits) : Int :=
  if d.isZero then 0
  else
    let n : Int := match d.rest with
      | 'k' :: _ => 1
      | c :: _ => match "KMGTPEZY".toList.findIdx? (· = c) with
        | some i => (i : Int) + 1
        | none => 0
      | [] => 0
    if d.negative then -n else n

def monthNumber (t : Text) : Nat :=
  let word := ((withoutBlanks t).take 3).map Char.toUpper
  let months := ["JAN", "FEB", "MAR", "APR", "MAY", "JUN", "JUL", "AUG", "SEP", "OCT", "NOV", "DEC"]
  match months.findIdx? fun m => m.toList = word with
  | some i => i + 1
  | none => 0

/-- Numbers of all kinds: what is no number comes first, then what is not comparable. -/
def compareReals (a b : Text) : Ordering :=
  let read (t : Text) : Option Real :=
    (Real.readPrefix? Real.extended true (t.dropWhile isSpace)).map (·.1)
  match read a, read b with
  | none, none => .eq
  | none, some _ => .lt
  | some _, none => .gt
  | some x, some y =>
    match x.compare? y with
    | some o => o
    | none =>
      let isNumber (r : Real) : Bool := (r.compare? r).isSome
      compare (isNumber x) (isNumber y)

/-! Versions. -/

def versionWeight : Text → Int
  | [] => -1
  | c :: _ =>
    if c.isDigit then 0
    else if c.isAlpha then c.toNat
    else if c = '~' then -2
    else (c.toNat : Int) + 256

def compareWords : Nat → Text → Text → Except Ordering (Text × Text)
  | 0, a, b => .ok (a, b)
  | n + 1, a, b =>
    let goes (t : Text) : Bool := match t with
      | c :: _ => !c.isDigit
      | [] => false
    if goes a || goes b then
      match compare (versionWeight a) (versionWeight b) with
      | .eq => compareWords n a.tail b.tail
      | o => .error o
    else .ok (a, b)

def compareParts : Nat → Text → Text → Ordering
  | 0, _, _ => .eq
  | n + 1, a, b =>
    if a.isEmpty ∧ b.isEmpty then .eq
    else match compareWords (a.length + b.length + 1) a b with
      | .error o => o
      | .ok (a, b) =>
        let a := a.dropWhile (· = '0')
        let b := b.dropWhile (· = '0')
        let x := a.takeWhile Char.isDigit
        let y := b.takeWhile Char.isDigit
        match (compare x.length y.length).then (compareText x y) with
        | .eq => compareParts n (a.drop x.length) (b.drop y.length)
        | o => o

def withoutEndings (t : Text) : Text :=
  let isLetter (c : Char) : Bool := c.isAlpha || c = '~'
  let rec go : Nat → Text → Text
    | 0, t => t
    | n + 1, t =>
      let ending := t.reverse.takeWhile fun c => c.isAlphanum || c = '~'
      let size := ending.length
      let before := t.take (t.length - size)
      match before.reverse, ending.reverse with
      | '.' :: base, c :: _ => if isLetter c ∧ !base.isEmpty then go n base.reverse else t
      | _, _ => t
  go t.length t

def compareVersions (a b : Text) : Ordering :=
  let special (t : Text) : Nat :=
    if t.isEmpty then 0 else if t = ['.'] then 1 else if t = ['.', '.'] then 2
    else if t.head? = some '.' then 3 else 4
  match compare (special a) (special b) with
  | .eq =>
    let n := a.length + b.length + 1
    (compareParts n (withoutEndings a) (withoutEndings b)).then (compareParts n a b)
  | o => o

end Sorting

/-! ### Keys -/

structure SortOrder where
  blanksBefore : Bool := false
  blanksAfter : Bool := false
  dictionary : Bool := false
  folds : Bool := false
  general : Bool := false
  human : Bool := false
  printing : Bool := false
  month : Bool := false
  numeric : Bool := false
  random : Bool := false
  reverse : Bool := false
  version : Bool := false
  deriving DecidableEq

/-- A part of a line: fields and characters in them, counted from 0, with the end left out. -/
structure SortKey where
  field : Nat := 0
  char : Nat := 0
  lastField : Option Nat := none
  lastChar : Nat := 0
  order : SortOrder := {}

namespace Sorting

/-- Adds the meaning of a letter, which may hold for one end of a key only. -/
def SortOrder.add? (o : SortOrder) (c : Char) (first last : Bool) : Option SortOrder :=
  match c with
  | 'b' => some { o with
      blanksBefore := o.blanksBefore || first, blanksAfter := o.blanksAfter || last }
  | 'd' => some { o with dictionary := true }
  | 'f' => some { o with folds := true }
  | 'g' => some { o with general := true }
  | 'h' => some { o with human := true }
  | 'i' => some { o with printing := true }
  | 'M' => some { o with month := true }
  | 'n' => some { o with numeric := true }
  | 'R' => some { o with random := true }
  | 'r' => some { o with reverse := true }
  | 'V' => some { o with version := true }
  | _ => none

def addLetters (first last : Bool) : SortOrder → Text → SortOrder × Text
  | o, [] => (o, [])
  | o, c :: t => match SortOrder.add? o c first last with
    | some o => addLetters first last o t
    | none => (o, c :: t)

def readKey (t : Text) : Except Text SortKey := do
  let spec (message : String) : Text :=
    (message ++ ": invalid field specification ").toList ++ quote t
  let count (message : String) (t : Text) : Except Text (Nat × Text) :=
    let ds := t.takeWhile Char.isDigit
    if ds.isEmpty then
      .error ((message ++ ": invalid count at start of ").toList ++ quote t)
    else .ok (ofDigits 10 ds, t.drop ds.length)
  let (field, rest) ← count "invalid number at field start" t
  if field = 0 then throw (spec "field number is zero")
  let (char, rest) ← match rest with
    | '.' :: rest =>
      let (n, rest) ← count "invalid number after '.'" rest
      if n = 0 then throw (spec "character offset is zero")
      pure (n - 1, rest)
    | rest => pure (0, rest)
  let (order, rest) := addLetters true false {} rest
  let (last, lastChar, order, rest) ← match rest with
    | ',' :: rest =>
      let (n, rest) ← count "invalid number after ','" rest
      if n = 0 then throw (spec "field number is zero")
      let (c, rest) ← match rest with
        | '.' :: rest => count "invalid number after '.'" rest
        | rest => pure (0, rest)
      let (order, rest) := addLetters false true order rest
      pure (some (n - 1), c, order, rest)
    | rest => pure (none, 0, order, rest)
  if !rest.isEmpty then throw (spec "stray character in field spec")
  return { field := field - 1, char, lastField := last, lastChar, order }

def conflict? (o : SortOrder) : Option Text :=
  let b (x : Bool) : Nat := if x then 1 else 0
  let kinds := b o.numeric + b o.general + b o.human + b o.month +
    b (o.version || o.random || o.dictionary || o.printing)
  if kinds ≤ 1 then none
  else
    some ([(o.dictionary, 'd'), (o.folds, 'f'), (o.general, 'g'), (o.human, 'h'),
      (o.printing, 'i'), (o.month, 'M'), (o.numeric, 'n'), (o.random, 'R'),
      (o.version, 'V')].filterMap fun (x, c) => if x then some c else none)

def dropFields (tab : Option Char) : Nat → Text → Text
  | 0, t => t
  | n + 1, t =>
    match tab with
    | some c => dropFields tab n ((t.dropWhile (· ≠ c)).drop 1)
    | none =>
      dropFields tab n ((t.dropWhile isTabOrSpace).dropWhile fun c => !isTabOrSpace c)

def limit (tab : Option Char) (k : SortKey) (t : Text) : Nat :=
  match k.lastField with
  | none => t.length
  | some field =>
    if k.lastChar = 0 then
      /- All of the field. -/
      match tab with
      | some c =>
        let before := dropFields tab field t
        let reached : Bool := field ≤ t.count c
        if reached then t.length - (before.dropWhile (· ≠ c)).length else t.length
      | none => t.length - (dropFields tab (field + 1) t).length
    else
      let before := dropFields tab field t
      let before := if k.order.blanksAfter then before.dropWhile isTabOrSpace else before
      min t.length (t.length - before.length + k.lastChar)

def keyText (tab : Option Char) (k : SortKey) (t : Text) : Text :=
  let before := dropFields tab k.field t
  let before := if k.order.blanksBefore then before.dropWhile isTabOrSpace else before
  let start := min t.length (t.length - before.length + k.char)
  (t.take (limit tab k t)).drop start

def compareBy (o : SortOrder) (a b : Text) : Ordering :=
  let r :=
    if o.numeric then (Digits.ofText a).compare (Digits.ofText b)
    else if o.general then compareReals a b
    else if o.human then
      let x := Digits.ofText a
      let y := Digits.ofText b
      (compare x.unit y.unit).then (x.compare y)
    else if o.month then compare (monthNumber a) (monthNumber b)
    else if o.version then compareVersions a b
    else
      let kept (c : Char) : Bool :=
        if o.dictionary then isTabOrSpace c || c.isAlphanum
        else if o.printing then isPrintable c
        else true
      let shape (t : Text) : Text :=
        let t := if o.dictionary || o.printing then t.filter kept else t
        if o.folds then t.map Char.toUpper else t
      compareText (shape a) (shape b)
  if o.reverse then r.swap else r

def compareLines (keys : List SortKey) (reverse unique stable : Bool) (a b : List Text × Text) :
    Ordering :=
  let byKeys := ((keys.zip a.1).zip b.1).foldl (fun o ((k, x), y) =>
    if o = .eq then compareBy k.order x y else o) Ordering.eq
  if byKeys ≠ .eq ∨ (!keys.isEmpty ∧ (unique ∨ stable)) then byKeys
  else
    let o := compareText a.2 b.2
    if reverse then o.swap else o

end Sorting

open Sorting in
def sortLines : Utility :=
  withOptions ["b ignore-leading-blanks", "d dictionary-order", "f ignore-case",
    "g general-numeric-sort", "h human-numeric-sort", "i ignore-nonprinting", "M month-sort",
    "n numeric-sort", "R random-sort", "r reverse", "V version-sort", "sort=", "c check=?", "C",
    "k= key", "m merge", "o= output", "s stable", "S= buffer-size", "t= field-separator",
    "T= temporary-directory", "u unique", "z zero-terminated", "parallel=", "batch-size=",
    "compress-program=", "random-source=", "files0-from=", "debug"] 2 fun c f =>
    let run : Except (Text × Nat) Finish := do
      let fail (t : Text) : Except (Text × Nat) Unit := .error (t, 2)
      let tab : Option Char ← match f.value? "t" with
        | none => pure none
        | some [] => throw ("empty tab".toList, 2)
        | some [x] => pure (some x)
        | some ['\\', '0'] => pure (some '\x00')
        | some t => throw ("multi-character tab ".toList ++ quote t, 2)
      let letters := f.flags.filterMap fun x =>
        if x.1.length = 1 ∧ "bdfghiMnRrV".toList.contains (x.1.toList.headD ' ') then
          x.1.toList.head?
        else if x.1 = "sort" then
          match String.ofList x.2 with
          | "general-numeric" => some 'g'
          | "human-numeric" => some 'h'
          | "month" => some 'M'
          | "numeric" => some 'n'
          | "random" => some 'R'
          | "version" => some 'V'
          | _ => none
        else none
      let global := (addLetters true true {} letters).1
      let keys ← (f.values "k").mapM fun t => match readKey t with
        | .ok k => .ok k
        | .error e => .error (e, 2)
      let keys := keys.map fun k => if k.order = {} then { k with order := global } else k
      let keys := if keys.isEmpty ∧ ({ global with reverse := false } : SortOrder) ≠ {} then
          [{ order := global }] else keys
      for o in global :: keys.map (·.order) do
        match conflict? o with
        | some letters => fail ("options '-".toList ++ letters ++ "' are incompatible".toList)
        | none => pure ()
      let mark := if f.has "z" then '\x00' else '\n'
      let unique := f.has "u"
      let stable := f.has "s"
      let operands := if f.operands.isEmpty then [['-']] else f.operands
      let checks : Option Bool := match f.last? ["c", "C"] with
        | some "c" =>
          if (f.value? "c").any fun v => v = "quiet".toList || v = "silent".toList then some true
          else some false
        | some _ => some true
        | none => none
      match checks, operands.drop 1 with
      | some _, o :: _ =>
        fail ("extra operand ".toList ++ quote o ++ " not allowed with -c".toList)
      | _, _ => pure ()
      let (texts, used) ← operands.foldlM (fun (ts, used) (o : Text) =>
        if o = ['-'] then .ok ((if used then [] else c.input) :: ts, true)
        else match c.read o with
          | .ok t => .ok (t :: ts, used || o = "/dev/stdin".toList)
          | .error .isDirectory =>
            .error ("read failed: ".toList ++ o ++ ": Is a directory".toList, 2)
          | .error e =>
            let what := if checks.isSome then "open failed: " else "cannot read: "
            .error (what.toList ++ o ++ (": " ++ e.reason).toList, 2)) (([] : List Text), false)
      let unread : Text := if used then [] else c.input
      let lines := texts.reverse.flatMap (linesBy mark)
      let keyed := lines.map fun l => (keys.map fun k => keyText tab k l, l)
      let compare := compareLines keys global.reverse unique stable
      match checks with
      | some quiet =>
        let bad? := (keyed.zip keyed.tail).zipIdx.find? fun ((a, b), _) =>
          compare a b = .gt || (unique && compare a b = .eq)
        match bad? with
        | some ((_, b), i) =>
          let message := "sort: ".toList ++ operands.headD [] ++ ':' :: shown (i + 2) ++
            ": disorder: ".toList ++ b.2 ++ ['\n']
          return { written := [(2, if quiet then [] else message)], status := 1, unread }
        | none => return { unread }
      | none =>
        let sorted := if f.has "m" ∧ operands.length = 1 then keyed
          else keyed.mergeSort fun a b => compare a b ≠ .gt
        let kept := if unique then
            (sorted.foldl (fun (out, last?) x =>
              let same : Bool := match last? with
                | some l => compare l x = .eq
                | none => false
              if same then (out, last?) else (x :: out, some x))
              (([] : List (List Text × Text)), (none : Option (List Text × Text)))).1.reverse
          else sorted
        let out := unlinesBy mark (kept.map (·.2))
        match f.value? "o" with
        | none => return { written := [(1, out)], unread }
        | some path =>
          match c.files.write (decode path) (Text.octets out) with
          | .ok files => return { files := some files, unread }
          | .error e =>
            throw ("open failed: ".toList ++ path ++ (": " ++ e.reason).toList, 2)
    match run with
    | .ok r => r
    | .error (e, status) => c.complainText e status

/-! ### Repeated lines -/

def groupLines (same : Text → Text → Bool) (lines : List Text) : List (List Text) :=
  (lines.foldr (fun l groups => match groups with
    | (x :: xs) :: rest => if same l x then (l :: x :: xs) :: rest else [l] :: (x :: xs) :: rest
    | _ => [[l]]) [])

def withOldSkips (args : List Text) : List Text :=
  args.map fun a => match a with
    | '-' :: d :: t => if (d :: t).all Char.isDigit then "-f".toList ++ d :: t else a
    | '+' :: d :: t => if (d :: t).all Char.isDigit then "-s".toList ++ d :: t else a
    | a => a

def mergeRepeated : Utility := fun c =>
  withOptions ["c count", "d repeated", "D all-repeated=?", "f= skip-fields", "group=?",
    "i ignore-case", "s= skip-chars", "u unique", "z zero-terminated", "w= check-chars"] 1
    (fun c f =>
    let run : Except Finish Finish := do
      let number (key what : String) : Except Finish (Option Nat) :=
        match f.value? key with
        | none => .ok none
        | some t => match natural? t with
          | some n => .ok (some n)
          | none => .error (c.complainText (t ++ (": invalid number of " ++ what).toList) 1)
      let fields ← number "f" "fields to skip"
      let chars ← number "s" "bytes to skip"
      let width ← number "w" "bytes to compare"
      let choice (key : String) (allowed : List String) (usual : String) :
          Except Finish String :=
        let v := String.ofList ((f.value? key).getD [])
        if v = "" then .ok usual
        else if allowed.contains v then .ok v
        else
          .error (c.usage (("invalid argument '" ++ v ++ "' for '--" ++
            (if key = "D" then "all-repeated" else key) ++
            "'\nValid arguments are:").toList ++
            allowed.flatMap fun a => ("\n  - '" ++ a ++ "'").toList) 1)
      let grouping ← choice "group" ["prepend", "append", "separate", "both"] "separate"
      let repeating ← choice "D" ["none", "prepend", "separate"] "none"
      let groups := f.has "group"
      if groups ∧ ["c", "d", "D", "u"].any f.has then
        throw (c.usage "--group is mutually exclusive with -c/-d/-D/-u".toList 1)
      if f.has "D" ∧ f.has "c" then
        throw (c.usage ("printing all duplicated lines and repeat counts is " ++
          "meaningless").toList 1)
      match f.operands.drop 2 with
      | o :: _ => throw (c.usage ("extra operand ".toList ++ quote o) 1)
      | [] => pure ()
      let mark := if f.has "z" then '\x00' else '\n'
      let rec skipFields : Nat → Text → Text
        | 0, t => t
        | n + 1, t =>
          skipFields n ((t.dropWhile isTabOrSpace).dropWhile fun c => !isTabOrSpace c)
      let key (l : Text) : Text :=
        let t := (skipFields (min (fields.getD 0) l.length) l).drop (chars.getD 0)
        let t := match width with
          | some n => t.take n
          | none => t
        if f.has "i" then t.map Char.toUpper else t
      let operand := f.operands.headD ['-']
      let (text, unread) ← if operand = ['-'] then pure (c.input, ([] : Text))
        else match c.read operand with
          | .ok t => pure (t, c.input)
          | .error e => throw (c.complainText (pathReason e operand) 1)
      let all := groupLines (fun a b => key a = key b) (linesBy mark text)
      let line (t : Text) : Text := t ++ [mark]
      let out :=
        if groups then
          let bodies := all.map fun g => g.flatMap line
          let before : Bool := grouping = "prepend" || grouping = "both"
          let after : Bool := grouping = "append" || grouping = "both"
          (if before ∧ !bodies.isEmpty then [mark] else []) ++ joinWith [mark] bodies ++
            if after ∧ !bodies.isEmpty then [mark] else []
        else if f.has "D" then
          let bodies := (all.filter fun g => 1 < g.length).map fun g => g.flatMap line
          match repeating with
          | "prepend" => bodies.flatMap fun b => mark :: b
          | "separate" => joinWith [mark] bodies
          | _ => bodies.flatten
        else
          let wanted := all.filter fun g =>
            (!f.has "d" || 1 < g.length) && (!f.has "u" || g.length = 1)
          wanted.flatMap fun g =>
            (if f.has "c" then padLeft 7 (shown g.length) ' ' ++ [' '] else []) ++
              line (g.headD [])
      match f.operands[1]? with
      | none => return { written := [(1, out)], unread }
      | some path =>
        if path = ['-'] then return { written := [(1, out)], unread }
        else match c.files.write (decode path) (Text.octets out) with
          | .ok files => return { files := some files, unread }
          | .error e => throw (c.complainText (pathReason e path) 1)
    match run with
    | .ok r => r
    | .error r => r) { c with args := withOldSkips c.args }

/-! ### Two sorted files -/

def Call.twoTexts (c : Call) (a b : Text) : Except Finish (Text × Text) := do
  let one (o : Text) : Except Finish Text :=
    if o = ['-'] then .ok c.input
    else match c.read o with
      | .ok t => .ok t
      | .error e => .error (c.complainText (pathReason e o) 1)
  return (← one a, ← one b)

def Call.twoOperands (c : Call) (operands : List Text) : Except Finish (Text × Text) :=
  match operands with
  | [] => .error (c.usage "missing operand".toList 1)
  | [a] => .error (c.usage ("missing operand after ".toList ++ quote a) 1)
  | [a, b] => .ok (a, b)
  | _ :: _ :: x :: _ => .error (c.usage ("extra operand ".toList ++ quote x) 1)

/-- A line of the comparison of two files: in the first one, in the second one or in both. -/
inductive Shared where
  | first (t : Text)
  | second (t : Text)
  | both (t : Text)

def mergeLines : Nat → List Text → List Text → List Shared
  | 0, _, _ => []
  | _ + 1, [], bs => bs.map .second
  | _ + 1, as, [] => as.map .first
  | n + 1, a :: as, b :: bs =>
    match Sorting.compareText a b with
    | .lt => .first a :: mergeLines n as (b :: bs)
    | .gt => .second b :: mergeLines n (a :: as) bs
    | .eq => .both a :: mergeLines n as bs

def firstDisorder? (lines : List Text) : Option Nat :=
  (lines.zip lines.tail).findIdx? fun (a, b) => Sorting.compareText a b = .gt

def compareSorted : Utility :=
  withOptions ["1", "2", "3", "check-order", "nocheck-order", "output-delimiter=", "total",
    "z zero-terminated"] 1 fun c f =>
    let run : Except Finish Finish := do
      let (a, b) ← c.twoOperands f.operands
      let (x, y) ← c.twoTexts a b
      let mark := if f.has "z" then '\x00' else '\n'
      let xs := linesBy mark x
      let ys := linesBy mark y
      let merged := mergeLines (xs.length + ys.length + 1) xs ys
      let tab := (f.value? "output-delimiter").getD ['\t']
      let shows (k : String) : Bool := !f.has k
      let indent (n : Nat) : Text := (List.replicate n tab).flatten
      let second := if shows "1" then 1 else 0
      let third := second + if shows "2" then 1 else 0
      let line : Shared → Text
        | .first t => if shows "1" then t ++ [mark] else []
        | .second t => if shows "2" then indent second ++ t ++ [mark] else []
        | .both t => if shows "3" then indent third ++ t ++ [mark] else []
      let count (p : Shared → Bool) : Text := shown (merged.filter p).length
      let total := if f.has "total" then
          count (fun | .first _ => true | _ => false) ++ tab ++
            count (fun | .second _ => true | _ => false) ++ tab ++
            count (fun | .both _ => true | _ => false) ++ tab ++ "total".toList ++ [mark]
        else []
      let unread : Text := if a = ['-'] ∨ b = ['-'] then [] else c.input
      let disorder : Text :=
        (if (firstDisorder? xs).isSome then c.complaintLine "file 1 is not in sorted order".toList
          else []) ++
        if (firstDisorder? ys).isSome then c.complaintLine "file 2 is not in sorted order".toList
          else []
      let hasPartners : Bool := merged.any fun
        | .both _ => false
        | _ => true
      let faulty : Bool := !disorder.isEmpty && !f.has "nocheck-order" &&
        (f.has "check-order" || hasPartners)
      let out := merged.flatMap line ++ total
      if faulty then
        return {
          written := [(1, out), (2, disorder ++ (if f.has "check-order" then []
            else c.complaintLine "input is not in sorted order".toList))]
          status := 1, unread }
      return { written := [(1, out)], unread }
    match run with
    | .ok r => r
    | .error r => r

/-! ### Joining -/

structure Joining.Row where
  line : Text
  fields : List Text

def Joining.Row.ofLine (tab : Option Char) (line : Text) : Joining.Row :=
  { line, fields := match tab with
      | some c => line.splitOn c
      | none => (line.splitOnP isTabOrSpace).filter (· ≠ []) }

/-- Which field is shown: that of the key, or one of a file. -/
inductive Joining.Field where
  | key
  | of (second : Bool) (index : Nat)

namespace Joining

def group (key : Row → Text) : Nat → List Row → List (Text × List Row)
  | 0, _ => []
  | _ + 1, [] => []
  | n + 1, r :: rs =>
    let same := rs.takeWhile fun x => key x = key r
    (key r, r :: same) :: group key n (rs.drop same.length)

def merge : Nat → List (Text × List Row) → List (Text × List Row) →
    List (List Row × List Row)
  | 0, _, _ => []
  | _ + 1, [], bs => bs.map fun b => ([], b.2)
  | _ + 1, as, [] => as.map fun a => (a.2, [])
  | n + 1, a :: as, b :: bs =>
    match Sorting.compareText a.1 b.1 with
    | .lt => (a.2, []) :: merge n as (b :: bs)
    | .gt => ([], b.2) :: merge n (a :: as) bs
    | .eq => (a.2, b.2) :: merge n as bs

def readField (t : Text) : Except Text Field :=
  match t with
  | ['0'] => .ok .key
  | '1' :: '.' :: n | '2' :: '.' :: n =>
    match natural? n with
    | some (k + 1) => .ok (.of (t.head? = some '2') k)
    | _ => .error ("invalid field number: ".toList ++ quote n)
  | _ => .error ((if (t.head?.any fun c => c = '0' || c = '1' || c = '2') then
      "invalid field specifier: " else "invalid file number in field spec: ").toList ++ quote t)

end Joining

open Joining in
def joinLines : Utility :=
  withOptions ["a=", "e=", "i ignore-case", "j=", "o=", "t=", "v=", "1=", "2=", "check-order",
    "nocheck-order", "header", "z zero-terminated"] 1 fun c f =>
    let run : Except Finish Finish := do
      let fail (t : Text) : Except Finish Unit := .error (c.complainText t 1)
      let number (t : Text) : Except Finish Nat :=
        match natural? t with
        | some (n + 1) => .ok n
        | _ => .error (c.complainText ("invalid field number: ".toList ++ quote t) 1)
      let common ← (f.value? "j").mapM number
      let first ← (f.value? "1").mapM number
      let second ← (f.value? "2").mapM number
      let k1 := (first.orElse fun _ => common).getD 0
      let k2 := (second.orElse fun _ => common).getD 0
      for v in f.values "a" ++ f.values "v" do
        if v ≠ ['1'] ∧ v ≠ ['2'] then fail ("invalid field number: ".toList ++ quote v)
      let tab : Option Char ← match f.value? "t" with
        | none => pure none
        | some [] => pure (some '\n')
        | some [x] => pure (some x)
        | some ['\\', '0'] => pure (some '\x00')
        | some t => throw (c.complainText ("multi-character tab ".toList ++ quote t) 1)
      let specs := (f.values "o").flatMap fun t =>
        (t.splitOnP fun x => x = ',' || isTabOrSpace x).filter (· ≠ [])
      let isAuto : Bool := specs = ["auto".toList]
      let fields ← if isAuto then pure [] else specs.mapM fun t => match readField t with
        | .ok x => .ok x
        | .error e => .error (c.complainText e 1)
      let (a, b) ← c.twoOperands f.operands
      let (x, y) ← c.twoTexts a b
      let mark := if f.has "z" then '\x00' else '\n'
      let rows (t : Text) : List Row := (linesBy mark t).map (Row.ofLine tab)
      let fold (t : Text) : Text := if f.has "i" then t.map Char.toLower else t
      let key (k : Nat) (r : Row) : Text := fold ((r.fields[k]?).getD [])
      let rows1 := rows x
      let rows2 := rows y
      let separator := tab.getD ' '
      let empty := (f.value? "e").getD []
      let filled (t : Text) : Text := if t.isEmpty then empty else t
      let fieldsOf (l r : Option Row) : List Text :=
        let keyField : Text := match l, r with
          | some l, _ => (l.fields[k1]?).getD []
          | none, some r => (r.fields[k2]?).getD []
          | none, none => []
        let side (row : Option Row) (i : Nat) : Text :=
          filled ((row.bind fun w => w.fields[i]?).getD [])
        if isAuto then
          let count (rs : List Row) : Nat := ((rs.head?).map fun w => w.fields.length).getD 0
          let others (row : Option Row) (n k : Nat) : List Text :=
            ((List.range n).filter (· ≠ k)).map (side row)
          filled keyField :: others l (count rows1) k1 ++ others r (count rows2) k2
        else if fields.isEmpty then
          let rest (row : Option Row) (k : Nat) : List Text := match row with
            | some w => (w.fields.eraseIdx k).map filled
            | none => []
          filled keyField :: rest l k1 ++ rest r k2
        else fields.map fun
          | .key => filled keyField
          | .of false i => side l i
          | .of true i => side r i
      let line (l r : Option Row) : Text := joinWith [separator] (fieldsOf l r) ++ [mark]
      let wants (n : Char) : Bool := (f.values "a" ++ f.values "v").any (· = [n])
      let pairs : Bool := (f.values "v").isEmpty
      let heading : Text := if f.has "header" then
          match rows1.head?, rows2.head? with
          | none, none => []
          | l, r => line l r
        else []
      let body1 := if f.has "header" then rows1.tail else rows1
      let body2 := if f.has "header" then rows2.tail else rows2
      let groups1 := group (key k1) (body1.length + 1) body1
      let groups2 := group (key k2) (body2.length + 1) body2
      let merged := merge (groups1.length + groups2.length + 1) groups1 groups2
      let out := merged.flatMap fun (ls, rs) =>
        match ls, rs with
        | ls, [] => if wants '1' then ls.flatMap fun l => line (some l) none else []
        | [], rs => if wants '2' then rs.flatMap fun r => line none (some r) else []
        | ls, rs =>
          if pairs then ls.flatMap fun l => rs.flatMap fun r => line (some l) (some r) else []
      let unread : Text := if a = ['-'] ∨ b = ['-'] then [] else c.input
      let disorder (path : Text) (k : Nat) (body : List Row) (skipped : Nat) : Text :=
        match firstDisorder? (body.map (key k)) with
        | some i =>
          c.complaintLine (path ++ ':' :: shown (i + 2 + skipped) ++ ": is not sorted: ".toList ++
            ((body[i + 1]?).map (·.line)).getD [])
        | none => []
      let skipped := if f.has "header" then 1 else 0
      let complaints := disorder a k1 body1 skipped ++ disorder b k2 body2 skipped
      let complaints := if f.has "nocheck-order" then [] else complaints
      if complaints.isEmpty then return { written := [(1, heading ++ out)], unread }
      return {
        written := [(1, heading ++ out), (2, complaints ++
          if f.has "check-order" then []
          else c.complaintLine "input is not in sorted order".toList)]
        status := 1, unread }
    match run with
    | .ok r => r
    | .error r => r

end StructuralEdit.Shell
