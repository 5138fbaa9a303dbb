import StructuralEdit.Shell.Utility.Basic
/-!
Taking lines apart into columns and fields, and putting them together.
-/
namespace StructuralEdit.Shell

/-! ### Selected parts -/

namespace Cutting

structure Span where
  first : Nat
  last : Option Nat

def Span.contains (s : Span) (n : Nat) : Bool := s.first ≤ n && s.last.all (n ≤ ·)

def readList (fields : Bool) (t : Text) : Except Text (List Span) := do
  let zero := if fields then "fields are numbered from 1"
    else "byte/character positions are numbered from 1"
  let value (t : Text) : Except Text Nat :=
    let ds := t.takeWhile Char.isDigit
    if ds.length < t.length then
      .error ((if fields then "invalid field value "
        else "invalid byte/character position ").toList ++ quote (t.drop ds.length))
    else if 18446744073709551614 < ofDigits 10 ds then
      .error ((if fields then "field number " else "byte/character offset ").toList ++ quote ds ++
        " is too large".toList)
    else .ok (ofDigits 10 ds)
  (t.splitOnP fun c => c = ',' || isTabOrSpace c).mapM fun part => do
    let low := part.takeWhile (· ≠ '-')
    match part.drop low.length with
    | [] =>
      if part.isEmpty then throw zero.toList
      let n ← value part
      if n = 0 then throw zero.toList
      return { first := n, last := some n }
    | _ :: high =>
      if low.isEmpty ∧ high.isEmpty then throw "invalid range with no endpoint: -".toList
      let first ← if low.isEmpty then pure 1 else value low
      if first = 0 then throw zero.toList
      if high.isEmpty then return { first, last := none }
      let last ← value high
      if last < first then throw "invalid decreasing range".toList
      return { first, last := some last }

/-- The parts of a line of which the positions are selected, in runs that belong together. -/
def runs (spans : List Span) (complement : Bool) (line : Text) : List Text :=
  let isIn (n : Nat) : Bool := (spans.any fun s => s.contains n) != complement
  let starts (n : Nat) : Bool := !complement && spans.any fun s => s.first = n &&
    !(spans.any fun o => o.first < n && o.contains n)
  let (runs, current, _) := line.foldl (fun (runs, current, n) c =>
    if isIn n then
      if starts n ∧ current ≠ [] then (current.reverse :: runs, [c], n + 1)
      else (runs, c :: current, n + 1)
    else if current.isEmpty then (runs, current, n + 1)
    else (current.reverse :: runs, [], n + 1)) (([] : List Text), ([] : Text), 1)
  (if current.isEmpty then runs else current.reverse :: runs).reverse

end Cutting

open Cutting in
def cutLines : Utility :=
  withOptions ["b= bytes", "c= characters", "d= delimiter", "f= fields", "n", "s only-delimited",
    "z zero-terminated", "complement", "output-delimiter="] 1 fun c f =>
    let run : Except Finish Finish := do
      let lists := f.flags.filter fun x => x.1 = "b" || x.1 = "c" || x.1 = "f"
      if 1 < lists.length then throw (c.usage "only one list may be specified".toList 1)
      match f.value? "d" with
      | some (_ :: _ :: _) =>
        throw (c.usage "the delimiter must be a single character".toList 1)
      | _ => pure ()
      match lists with
      | [] => throw (c.usage "you must specify a list of bytes, characters, or fields".toList 1)
      | (kind, list) :: _ =>
        let byFields : Bool := kind = "f"
        if !byFields ∧ f.has "d" then
          throw (c.usage ("an input delimiter may be specified only when operating on " ++
            "fields").toList 1)
        if !byFields ∧ f.has "s" then
          throw (c.usage ("suppressing non-delimited lines makes sense\n" ++
            "\tonly when operating on fields").toList 1)
        let spans ← match readList byFields list with
          | .ok s => pure s
          | .error e => throw (c.usage e 1)
        let mark := if f.has "z" then '\x00' else '\n'
        let delimiter : Char := match f.value? "d" with
          | some [x] => x
          | some _ => '\x00'
          | none => '\t'
        let complement := f.has "complement"
        let isIn (n : Nat) : Bool := (spans.any fun s => s.contains n) != complement
        let out? := f.value? "output-delimiter"
        let cut (line : Text) : Text :=
          if byFields then
            if !line.contains delimiter then if f.has "s" then [] else line ++ [mark]
            else
              let fields := (line.splitOn delimiter).zipIdx.filter fun (_, i) => isIn (i + 1)
              joinWith (out?.getD [delimiter]) (fields.map (·.1)) ++ [mark]
          else joinWith (out?.getD []) (runs spans complement line) ++ [mark]
        return c.mapData f.operands fun t => (linesBy mark t).flatMap cut
    match run with
    | .ok r => r
    | .error r => r

/-! ### Lines beside each other -/

/-- Reads a list of delimiters. One of them can be nothing. -/
def readDelimiters : Nat → Text → Option (List Text)
  | 0, _ => some []
  | _ + 1, [] => some []
  | _ + 1, ['\\'] => none
  | n + 1, '\\' :: c :: t =>
    let d : Text := match c with
      | '0' => []
      | 'b' => ['\x08']
      | 'f' => ['\x0c']
      | 'n' => ['\n']
      | 'r' => ['\r']
      | 't' => ['\t']
      | 'v' => ['\x0b']
      | c => [c]
    (readDelimiters n t).map (d :: ·)
  | n + 1, c :: t => (readDelimiters n t).map ([c] :: ·)

def joinInTurn (ds : List Text) (ts : List Text) : Text :=
  match ts with
  | [] => []
  | t :: ts =>
    let n := ds.length
    (t :: ts.zipIdx.map fun (x, i) => (ds[i % n]?).getD [] ++ x).flatten

def pasteLines : Utility :=
  withOptions ["d= delimiters", "s serial", "z zero-terminated"] 1 fun c f =>
    let list := (f.value? "d").getD ['\t']
    match readDelimiters (list.length + 1) list with
    | none =>
      c.complainText ("delimiter list ends with an unescaped backslash: ".toList ++ list) 1
    | some ds =>
      let ds := if ds.isEmpty then [[]] else ds
      let mark := if f.has "z" then '\x00' else '\n'
      let operands := if f.operands.isEmpty then [['-']] else f.operands
      let shared := (operands.filter fun o => o = ['-']).length
      let inputLines := linesBy mark c.input
      if f.has "s" then
        let (out, complaints, used) := operands.foldl (fun (out, complaints, used) o =>
          if o = ['-'] then
            let lines := if used then [] else inputLines
            (out ++ joinInTurn ds lines ++ [mark], complaints, true)
          else match c.read o with
            | .ok t => (out ++ joinInTurn ds (linesBy mark t) ++ [mark], complaints, used)
            | .error e => (out, complaints ++ c.complaintLine (pathReason e o), used))
          (([] : Text), ([] : Text), false)
        { written := [(2, complaints), (1, out)], status := if complaints.isEmpty then 0 else 1
          unread := if used then [] else c.input }
      else
        let columns : List (Except FileError (List Text)) := operands.zipIdx.map fun (o, i) =>
          if o = ['-'] then
            let place := ((operands.take i).filter fun o => o = ['-']).length
            .ok (inputLines.zipIdx.filterMap fun (l, k) =>
              if k % shared = place then some l else none)
          else (c.read o).map (linesBy mark)
        let failed := (operands.zip columns).findSome? fun (o, r) => match r with
          | .error e => some (c.complaintLine (pathReason e o))
          | .ok _ => none
        match failed with
        | some complaint => { c.finish [] 1 with written := [(2, complaint)] }
        | none =>
          let columns := columns.map fun r => (r.toOption).getD []
          let height := columns.foldl (fun n l => max n l.length) 0
          let row (i : Nat) : Text :=
            joinInTurn ds (columns.map fun l => (l[i]?).getD []) ++ [mark]
          { written := [(1, (List.range height).flatMap row)]
            unread := if 0 < shared then [] else c.input }

/-! ### Width -/

def columnBehind (bytes : Bool) (column : Nat) (c : Char) : Nat :=
  if bytes then column + 1
  else if c = '\x08' then column - 1
  else if c = '\r' then 0
  else if c = '\t' then (column / 8 + 1) * 8
  else column + 1

def foldLine (bytes spaces : Bool) (width : Nat) : Nat → Text → Text
  | 0, t => t
  | n + 1, t =>
    let fits : Text :=
      let rec go : Nat → Text → Text
        | _, [] => []
        | column, c :: rest =>
          let next := columnBehind bytes column c
          if width < next ∧ column ≠ 0 then []
          else if width < next then [c]
          else c :: go next rest
      go 0 t
    if fits.length = t.length then t
    else
      let part :=
        if spaces then
          let upToBlank := (fits.reverse.dropWhile fun c => !isTabOrSpace c).reverse
          if upToBlank.isEmpty then fits else upToBlank
        else fits
      let part := if part.isEmpty then t.take 1 else part
      part ++ '\n' :: foldLine bytes spaces width n (t.drop part.length)

def foldLines : Utility := fun c =>
  let args := c.args.map fun a => match a with
    | '-' :: d :: t => if (d :: t).all Char.isDigit then "-w".toList ++ d :: t else a
    | a => a
  withOptions ["b bytes", "s spaces", "w= width"] 1 (fun c f =>
    let t := (f.value? "w").getD "80".toList
    match natural? t with
    | some (w + 1) =>
      c.mapData f.operands fun t => (rowsOf t).flatMap fun row =>
        let isEnded : Bool := row.getLast? = some '\n'
        let line := if isEnded then row.dropLast else row
        foldLine (f.has "b") (f.has "s") (w + 1) (line.length + 1) line ++
          if isEnded then ['\n'] else []
    | _ =>
      c.complainText ("invalid number of columns: ".toList ++ quote t ++
        if (natural? t).isSome then ": Numerical result out of range".toList else []) 1)
    { c with args }

/-! ### Tabulators -/

/-- Where tabulators stop: at given columns, and then at multiples of a size if there is one. -/
structure TabStops where
  columns : List Nat
  size : Option Nat

def TabStops.next? (s : TabStops) (column : Nat) : Option Nat :=
  match s.columns.find? (column < ·) with
  | some n => some n
  | none => s.size.map fun n => (column / n + 1) * n

def TabStops.ofTexts (ts : List Text) : Except Text TabStops := do
  let parts := (ts.flatMap fun t => t.splitOnP fun c => c = ',' || isTabOrSpace c).filter (· ≠ [])
  let columns ← parts.mapM fun p => match natural? p with
    | some 0 => .error "tab size cannot be 0".toList
    | some n => .ok n
    | none =>
      .error ("tab size contains invalid character(s): ".toList ++
        quote (p.dropWhile Char.isDigit))
  match columns with
  | [] => return { columns := [], size := some 8 }
  | [n] => return { columns := [], size := some n }
  | ns =>
    let ascending : Bool := (ns.zip ns.tail).all fun (a, b) => a < b
    if !ascending then throw "tab sizes must be ascending".toList
    return { columns := ns, size := none }

def withOldStops (args : List Text) : List Text :=
  args.map fun a => match a with
    | '-' :: d :: t =>
      if (d :: t).all (fun c => c.isDigit || c = ',') then "-t".toList ++ d :: t else a
    | a => a

def expandLine (s : TabStops) (initial : Bool) (line : Text) : Text :=
  let (out, _, _) := line.foldl (fun (out, column, leading) c =>
    if c = '\t' ∧ (leading ∨ !initial) then
      let stop := (s.next? column).getD (column + 1)
      (List.replicate (stop - column) ' ' ++ out, stop, leading)
    else if c = '\x08' then (c :: out, column - 1, false)
    else if c = '\t' then (c :: out, (s.next? column).getD (column + 1), leading)
    else (c :: out, column + 1, leading && c = ' ')) (([] : Text), 0, true)
  out.reverse

def expandTabs : Utility := fun c =>
  withOptions ["i initial", "t= tabs"] 1 (fun c f =>
    match TabStops.ofTexts (f.values "t") with
    | .error e => c.complainText e 1
    | .ok s =>
      c.mapData f.operands fun t => (rowsOf t).flatMap fun row =>
        let isEnded : Bool := row.getLast? = some '\n'
        expandLine s (f.has "i") (if isEnded then row.dropLast else row) ++
          if isEnded then ['\n'] else [])
    { c with args := withOldStops c.args }

/-- A run of blanks from a column, with tabulators where they fit. One blank alone stays. -/
def packBlanks (s : TabStops) : Nat → Nat → Nat → Text
  | 0, _, _ => []
  | n + 1, column, last =>
    if last ≤ column then []
    else match s.next? column with
      | some stop =>
        if stop ≤ last then '\t' :: packBlanks s n stop last
        else List.replicate (last - column) ' '
      | none => List.replicate (last - column) ' '

def packLine (s : TabStops) (all : Bool) : Nat → Nat → Text → Text
  | 0, _, t => t
  | _ + 1, _, [] => []
  | n + 1, column, t =>
    let blanks := t.takeWhile isTabOrSpace
    let rest := t.drop blanks.length
    let last := blanks.foldl (fun k c =>
      if c = '\t' then (s.next? k).getD (k + 1) else k + 1) column
    let packed : Text :=
      if blanks.isEmpty then []
      else if blanks = [' '] ∧ (column ≠ 0 ∨ s.next? column ≠ some last) then
        blanks
      else packBlanks s (last + 1) column last
    match rest with
    | [] => packed
    | _ =>
      if all then
        let word := rest.takeWhile fun c => !isTabOrSpace c
        packed ++ word ++ packLine s all n (last + word.length) (rest.drop word.length)
      else packed ++ rest

def packTabs : Utility := fun c =>
  withOptions ["a all", "first-only", "t= tabs"] 1 (fun c f =>
    match TabStops.ofTexts (f.values "t") with
    | .error e => c.complainText e 1
    | .ok s =>
      let all := (f.has "a" || f.has "t") && !f.has "first-only"
      c.mapData f.operands fun t => (rowsOf t).flatMap fun row =>
        let isEnded : Bool := row.getLast? = some '\n'
        let line := if isEnded then row.dropLast else row
        packLine s all (line.length + 1) 0 line ++ if isEnded then ['\n'] else [])
    { c with args := withOldStops c.args }

end StructuralEdit.Shell
