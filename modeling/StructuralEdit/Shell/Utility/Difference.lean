import Std.Data.HashMap
import StructuralEdit.Shell.LineChanges
import StructuralEdit.Shell.Utility.Plain
import StructuralEdit.Shell.Utility.Show
/-!
Comparing files, byte by byte or line by line.
-/
namespace StructuralEdit.Shell

def withNamedUsage (specs : List String) (run : (Text → Finish) → Call → Options → Finish) :
    Utility := fun c =>
  let bad (message : Text) : Finish :=
    c.complainText (message ++ ['\n'] ++ c.name ++ ": Try '".toList ++ c.name ++
      " --help' for more information.".toList) 2
  match Options.read specs true c.args with
  | .ok f => run bad c f
  | .error e => bad e

def Call.readOperand (c : Call) (path : Text) : Except FileError Text :=
  if path = ['-'] then .ok c.input else c.read path

/-! ### Bytes -/

namespace Comparing

/-- The first place at which two texts differ, with the number of its line and the characters. -/
def firstDifference : Nat → Nat → Text → Text → Option (Nat × Nat × Char × Char)
  | place, line, a :: s, b :: t =>
    if a = b then firstDifference (place + 1) (if a = '\n' then line + 1 else line) s t
    else some (place, line, a, b)
  | _, _, _, _ => none

def octal (c : Char) : Text := padLeft 3 (Nat.toDigits 8 c.toNat) ' '

end Comparing

open Comparing in
def compareBytes : Utility :=
  withNamedUsage ["b print-bytes", "i= ignore-initial", "l verbose", "n= bytes", "s quiet silent"]
    fun bad c f =>
    match f.operands with
    | [] => bad ("missing operand after ".toList ++ quote c.name)
    | [_, _, _, _, o] => bad ("extra operand ".toList ++ quote o)
    | a :: rest =>
      let b := rest.headD ['-']
      let skips := ((f.value? "i").map fun t => (t.splitOn ':').filterMap sized?).getD [] ++
        (rest.drop 1).filterMap sized?
      let skip₁ := skips.headD 0
      let skip₂ := match skips with
        | _ :: n :: _ => n
        | _ => if (f.value? "i").isSome then skip₁ else 0
      let read (path : Text) : Except Text Text :=
        if path ≠ ['-'] ∧ c.isDirectory path then
          .error (fileName path ++ ": Is a directory".toList)
        else (c.readOperand path).mapError fun e => pathReason e path
      match read a, read b with
      | .error t, _ | _, .error t =>
        if f.has "s" then c.finish [] 2 else c.complainText t 2
      | .ok s, .ok t =>
        let limit (t : Text) : Text := match (f.value? "n").bind sized? with
          | some n => t.take n
          | none => t
        let s := limit (s.drop skip₁)
        let t := limit (t.drop skip₂)
        let pairs := (s.zip t).zipIdx.filter fun ((x, y), _) => x ≠ y
        let finish (out complaint : Text) (status : Nat) : Finish :=
          { c.finish [] status with
            written := [(2, if complaint.isEmpty then [] else c.complaintLine complaint), (1, out)]
            unread := if [a, b].contains ['-'] then [] else c.input }
        let size := min s.length t.length
        let shorter := if s.length < t.length then a else b
        let ending : Text :=
          if s.length = t.length then []
          else if size = 0 then "EOF on ".toList ++ shorter ++ " which is empty".toList
          else
            let common := s.take size
            let lines := common.count '\n'
            "EOF on ".toList ++ shorter ++ " after byte ".toList ++ shown size ++
              if f.has "l" then []
              else if common.getLast? = some '\n' then ", line ".toList ++ shown lines
              else ", in line ".toList ++ shown (lines + 1)
        if f.has "s" then finish [] [] (if pairs.isEmpty ∧ s.length = t.length then 0 else 1)
        else if f.has "l" then
          let longest := if [a, b].contains ['-'] then max s.length t.length else size
          let width := (shown longest).length
          let bytes (c : Char) : Text :=
            octal c ++ if f.has "b" then ' ' :: padRight 4 (visible c) ' ' else []
          let out := pairs.flatMap fun ((x, y), i) =>
            padLeft width (shown (i + 1)) ' ' ++ ' ' :: bytes x ++ ' ' ::
              (if f.has "b" then octal y ++ ' ' :: visible y else octal y) ++ ['\n']
          finish out ending (if pairs.isEmpty ∧ ending.isEmpty then 0 else 1)
        else match firstDifference 1 1 s t with
          | none => finish [] ending (if ending.isEmpty then 0 else 1)
          | some (place, line, x, y) =>
            let kind := if f.has "b" then "byte " else "char "
            let bytes := if f.has "b" then
                " is ".toList ++ octal x ++ ' ' :: visible x ++ ' ' :: octal y ++ ' ' :: visible y
              else []
            finish (a ++ ' ' :: b ++ " differ: ".toList ++ kind.toList ++ shown place ++
              ", line ".toList ++ shown line ++ bytes ++ ['\n']) [] 1

/-! ### Lines -/

namespace Difference

open LineChanges

inductive Format where
  | normal
  | unified
  | context
  | script
  | numbered
  | brief
  deriving DecidableEq

structure Style where
  format : Format := .normal
  around : Nat := 0
  ignoresBlankLines : Bool := false
  labels : List Text := []
  same : Bool := false
  anyText : Bool := false

/-- Lines with their ends. The last one may have none. -/
def linesOf (t : Text) : List Text :=
  let parts := t.splitOn '\n'
  (parts.dropLast.map (· ++ ['\n'])) ++ (parts.getLast?.filter (· ≠ [])).toList

def isBlank (c : Char) : Bool := " \t\x0b\x0c\r".toList.contains c

/-- Blanks as one, where all at the end are left out. The argument tells whether there are some in
front. -/
def narrowed : Bool → Text → Text
  | _, [] => []
  | blank, c :: t =>
    if isBlank c then narrowed true t
    else if c = '\n' then c :: narrowed false t
    else if blank then ' ' :: c :: narrowed false t else c :: narrowed false t

def keyOf (f : Options) (line : Text) : Text :=
  let t := if f.has "i" then line.map Char.toLower else line
  if f.has "w" then t.filter fun c => !isBlank c
  else if f.has "b" then narrowed false t
  else if f.has "Z" then
    let ending := t.reverse.takeWhile (· = '\n')
    ((t.reverse.drop ending.length).dropWhile isBlank).reverse ++ ending
  else t

def numbered (f : Options) (lines : List Text) (known : Std.HashMap Text Nat) :
    Array Nat × Std.HashMap Text Nat :=
  lines.foldl (fun (ns, known) line =>
    let key := keyOf f line
    match known[key]? with
    | some n => (ns.push n, known)
    | none => (ns.push known.size, known.insert key known.size)) (#[], known)

/-- The changes between lines. Of the lines that are the same at both ends only some around the
others are looked at. -/
def changesOf (f : Options) (around : Nat) (a b : List Text) : List LineChange :=
  let (left, known) := numbered f a {}
  let (right, _) := numbered f b known
  let whole : Box := { left := 0, leftEnd := left.size, right := 0, rightEnd := right.size }
  let box := sameStart left right (left.size + 1) whole
  let box := sameEnd left right (left.size + 1) box
  let start := box.left - around
  let stop := min around (left.size - box.leftEnd)
  let part (items : Array Nat) (last : Nat) : Array Nat := items.extract start (last + stop)
  (ofItems (part left box.leftEnd) (part right box.rightEnd)).changes.map fun c =>
    { left := c.left + start, leftEnd := c.leftEnd + start
      right := c.right + start, rightEnd := c.rightEnd + start }

def part (lines : Array Text) (start stop : Nat) : List Text := (lines.extract start stop).toList

def marked (mark : String) (line : Text) : Text :=
  mark.toList ++ line ++
    if line.getLast? = some '\n' then [] else "\n\\ No newline at end of file\n".toList

def range (start stop : Nat) : Text :=
  if start + 1 < stop then shown (start + 1) ++ ',' :: shown stop else shown stop

def normalChange (a b : Array Text) (c : LineChange) : Text :=
  let letter := if c.left = c.leftEnd then 'a' else if c.right = c.rightEnd then 'd' else 'c'
  range c.left c.leftEnd ++ letter :: range c.right c.rightEnd ++ '\n' ::
    ((part a c.left c.leftEnd).flatMap (marked "< ") ++
      (if letter = 'c' then "---\n".toList else []) ++
      (part b c.right c.rightEnd).flatMap (marked "> "))

def scriptChange (b : Array Text) (c : LineChange) : Text :=
  let added := (part b c.right c.rightEnd).flatten
  let body := if c.right = c.rightEnd then [] else added ++ ".\n".toList
  let letter := if c.left = c.leftEnd then 'a' else if c.right = c.rightEnd then 'd' else 'c'
  range c.left c.leftEnd ++ letter :: '\n' :: body

def numberedChange (b : Array Text) (c : LineChange) : Text :=
  let deleted :=
    if c.left = c.leftEnd then []
    else 'd' :: shown (c.left + 1) ++ ' ' :: shown (c.leftEnd - c.left) ++ ['\n']
  let added :=
    if c.right = c.rightEnd then []
    else 'a' :: shown c.leftEnd ++ ' ' :: shown (c.rightEnd - c.right) ++ '\n' ::
      (part b c.right c.rightEnd).flatten
  deleted ++ added

def grouped (around : Nat) : List LineChange → List (List LineChange)
  | [] => []
  | c :: cs =>
    match grouped around cs with
    | (d :: ds) :: rest =>
      if d.left - c.leftEnd ≤ 2 * around then (c :: d :: ds) :: rest
      else [c] :: (d :: ds) :: rest
    | rest => [c] :: rest

def extent (around : Nat) (a b : Array Text) (cs : List LineChange) : LineChange :=
  let first := cs.headD ⟨0, 0, 0, 0⟩
  let last := cs.getLastD first
  let before := min around first.left
  let after := min around (a.size - last.leftEnd)
  { left := first.left - before, leftEnd := min a.size (last.leftEnd + after)
    right := first.right - before, rightEnd := min b.size (last.rightEnd + after) }

def unifiedRange (start stop : Nat) : Text :=
  if stop ≤ start then shown start ++ ",0".toList
  else if stop = start + 1 then shown stop
  else shown (start + 1) ++ ',' :: shown (stop - start)

def unifiedGroup (around : Nat) (a b : Array Text) (cs : List LineChange) : Text :=
  let e := extent around a b cs
  let (body, place) := cs.foldl (fun (out, place) c =>
    (out ++ ((part a place c.left).flatMap (marked " ") ++
      (part a c.left c.leftEnd).flatMap (marked "-") ++
      (part b c.right c.rightEnd).flatMap (marked "+")), c.leftEnd)) (([] : Text), e.left)
  "@@ -".toList ++ unifiedRange e.left e.leftEnd ++ " +".toList ++
    unifiedRange e.right e.rightEnd ++ " @@\n".toList ++ body ++
    (part a place e.leftEnd).flatMap (marked " ")

def contextGroup (around : Nat) (a b : Array Text) (cs : List LineChange) : Text :=
  let e := extent around a b cs
  let side (lines : Array Text) (start stop : Nat) (mark : String)
      (own : LineChange → Nat × Nat) (isOwnOnly : LineChange → Bool) : Text :=
    if cs.all fun c => (own c).1 = (own c).2 then []
    else
      let (body, place) := cs.foldl (fun (out, place) c =>
        let (first, last) := own c
        (out ++ ((part lines place first).flatMap (marked "  ") ++
          (part lines first last).flatMap (marked (if isOwnOnly c then mark else "! "))), last))
        (([] : Text), start)
      body ++ (part lines place stop).flatMap (marked "  ")
  "***************\n*** ".toList ++ range e.left e.leftEnd ++ " ****\n".toList ++
    side a e.left e.leftEnd "- " (fun c => (c.left, c.leftEnd)) (fun c => c.right = c.rightEnd) ++
    "--- ".toList ++ range e.right e.rightEnd ++ " ----\n".toList ++
    side b e.right e.rightEnd "+ " (fun c => (c.right, c.rightEnd)) (fun c => c.left = c.leftEnd)

def render (s : Style) (names : List Text) (a b : Array Text) (cs : List LineChange) : Text :=
  let title (mark : String) (i : Nat) : Text :=
    mark.toList ++ ' ' :: (match s.labels[i]? with
      | some label => label
      | none => (names[i]?).getD [] ++ "\t1970-01-01 00:00:00.000000000 +0000".toList) ++ ['\n']
  match s.format with
  | .normal => cs.flatMap (normalChange a b)
  | .script => cs.reverse.flatMap (scriptChange b)
  | .numbered => cs.flatMap (numberedChange b)
  | .unified =>
    title "---" 0 ++ title "+++" 1 ++ (grouped s.around cs).flatMap (unifiedGroup s.around a b)
  | .context =>
    title "***" 0 ++ title "---" 1 ++ (grouped s.around cs).flatMap (contextGroup s.around a b)
  | .brief =>
    "Files ".toList ++ names.headD [] ++ " and ".toList ++ (names[1]?).getD [] ++
      " differ\n".toList

def compareTexts (s : Style) (f : Options) (header : Text) (p q : Text) (a b : Text) :
    Text × Bool :=
  let same : Text × Bool :=
    (if s.same then "Files ".toList ++ p ++ " and ".toList ++ q ++ " are identical\n".toList
      else [], false)
  if a = b then same
  else if !s.anyText ∧ (a.contains '\x00' ∨ b.contains '\x00') then
    let kind := if s.format = .brief then "Files " else "Binary files "
    (kind.toList ++ p ++ " and ".toList ++ q ++ " differ\n".toList, true)
  else
    let la := linesOf a
    let lb := linesOf b
    let la' := la.toArray
    let lb' := lb.toArray
    let counts (c : LineChange) : Bool :=
      !s.ignoresBlankLines || !((part la' c.left c.leftEnd ++ part lb' c.right c.rightEnd).all
        fun line => line = ['\n'])
    match (changesOf f s.around la lb).filter counts with
    | [] => same
    | cs => (header ++ render s [p, q] la' lb' cs, true)

def compareNodes (s : Style) (f : Options) (command : Text) :
    Nat → Bool → Text → Text → FileNode → FileNode → Text × Bool
  | 0, _, _, _, _, _ => ([], false)
  | n + 1, isTop, p, q, a, b =>
    let kind (x : FileNode) : String := match x with
      | .directory _ => "directory"
      | .file content => if content.isEmpty then "regular empty file" else "regular file"
    match a, b with
    | .file x, .file y =>
      let header := if isTop ∨ s.format = .brief then []
        else command ++ ' ' :: p ++ ' ' :: q ++ ['\n']
      compareTexts s f header p q (Text.ofOctets x) (Text.ofOctets y)
    | .directory xs, .directory ys =>
      if !isTop ∧ !f.has "r" then
        ("Common subdirectories: ".toList ++ p ++ " and ".toList ++ q ++ ['\n'], false)
      else
        let names := (xs.map (·.1) ++ ys.map (·.1)).eraseDups.mergeSort Text.precedes
        names.foldl (fun (out, differs) name =>
          let shownName := encode name
          let at_ (path : Text) : Text := path ++ '/' :: shownName
          let only (path : Text) : Text × Bool :=
            (out ++ "Only in ".toList ++ path ++ ": ".toList ++ shownName ++ ['\n'], true)
          match FileNode.child? xs name, FileNode.child? ys name with
          | some x, some y =>
            let (t, d) := compareNodes s f command n false (at_ p) (at_ q) x y
            (out ++ t, differs || d)
          | some _, none => only p
          | none, some _ => only q
          | none, none => (out, differs)) (([] : Text), false)
    | _, _ =>
      ("File ".toList ++ p ++ " is a ".toList ++ (kind a).toList ++ " while file ".toList ++ q ++
        " is a ".toList ++ (kind b).toList ++ ['\n'], true)

def styleOf (f : Options) : Style :=
  let format : Format :=
    if f.has "q" then .brief
    else match f.last? ["u", "U", "c", "C", "e", "n", "normal"] with
      | some "u" | some "U" => .unified
      | some "c" | some "C" => .context
      | some "e" => .script
      | some "n" => .numbered
      | _ => .normal
  let given := ((f.value? "U").orElse fun _ => f.value? "C").orElse fun _ =>
    ((f.value? "u").orElse fun _ => f.value? "c").filter (· ≠ [])
  { format
    around := match format with
      | .unified | .context => (given.bind natural?).getD 3
      | _ => 0
    ignoresBlankLines := f.has "B", labels := f.values "L", same := f.has "s"
    anyText := f.has "a" }

end Difference

open Difference in
def compareLines : Utility :=
  withNamedUsage ["a text", "b ignore-space-change", "B ignore-blank-lines", "c", "context=?",
    "C=", "d minimal", "e ed", "i ignore-case", "n rcs", "normal", "q brief", "r recursive",
    "s report-identical-files", "u", "unified=?", "U=", "w ignore-all-space", "L= label",
    "N new-file", "t expand-tabs", "T initial-tab", "p show-c-function", "y side-by-side",
    "W= width", "Z ignore-trailing-space", "E ignore-tab-expansion", "color=?", "0", "1", "2",
    "3", "4", "5", "6", "7", "8", "9", "strip-trailing-cr", "speed-large-files"] fun bad c f =>
    let digits := (f.flags.filter fun x => x.1.all Char.isDigit).flatMap fun x => x.1.toList
    let f := { f with flags := f.flags.map fun (k, v) =>
      if k = "unified" then ("u", v) else if k = "context" then ("c", v)
      else if k = "u" ∧ digits ≠ [] then ("u", digits) else (k, v) }
    match f.operands with
    | [] => bad ("missing operand after ".toList ++ quote c.name)
    | [a] => bad ("missing operand after ".toList ++ quote a)
    | _ :: _ :: o :: _ => bad ("extra operand ".toList ++ quote o)
    | [a, b] =>
      let find (path : Text) : Except FileError FileNode :=
        if path = ['-'] then .ok (.file (Text.octets c.input))
        else if path = "/dev/null".toList then .ok (.file [])
        else c.files.find (decode path)
      let inside (directory path : Text) : Text :=
        if directory.getLast? = some '/' then directory ++ lastName path
        else directory ++ '/' :: lastName path
      let isDirectory (path : Text) : Bool := path ≠ ['-'] && c.isDirectory path
      let (a, b) :=
        if isDirectory a ∧ !isDirectory b then (inside a b, b)
        else if isDirectory b ∧ !isDirectory a then (a, inside b a)
        else (a, b)
      let complaint (path : Text) : Text := match find path with
        | .ok _ => []
        | .error e => c.complaintLine (pathReason e path)
      let unread := if [a, b].contains ['-'] then [] else c.input
      match find a, find b with
      | .ok x, .ok y =>
        let options := c.args.filter fun t => t.length > 1 && t.head? = some '-'
        let command := joinWith [' '] (c.name :: options)
        let (out, differs) := compareNodes (styleOf f) f command 300 true a b x y
        { c.finish out (if differs then 1 else 0) with unread }
      | _, _ =>
        { c.finish [] 2 with written := [(2, complaint a ++ complaint b)], unread }

end StructuralEdit.Shell
