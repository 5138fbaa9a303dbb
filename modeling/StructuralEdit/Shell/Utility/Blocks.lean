import StructuralEdit.Shell.Utility.Basic
/-!
Copying data in blocks, with conversions on the way.
-/
namespace StructuralEdit.Shell

namespace Blocks

/-- A length as a number of blocks, or of bytes. -/
structure Extent where
  count : Nat
  inBytes : Bool := false

def Extent.bytes (e : Extent) (blockSize : Nat) (inBytes : Bool) : Nat :=
  if e.inBytes ∨ inBytes then e.count else e.count * blockSize

/-- What is said about a copy at its end. -/
inductive Level where
  | everything
  | counts
  | nothing
  deriving DecidableEq

structure Plan where
  source : Option Text := none
  goal : Option Text := none
  inputSize : Nat := 512
  outputSize : Nat := 512
  size : Option Nat := none
  recordSize : Nat := 0
  skip : Extent := { count := 0 }
  seek : Extent := { count := 0 }
  count : Option Extent := none
  conversions : List String := []
  inputFlags : List String := []
  outputFlags : List String := []
  level : Level := .everything
  warnings : Text := []

namespace Plan

def readSize (p : Plan) : Nat := p.size.getD p.inputSize

def writeSize (p : Plan) : Nat := p.size.getD p.outputSize

def converts (p : Plan) (name : String) : Bool := p.conversions.contains name

def skipped (p : Plan) : Nat := p.skip.bytes p.readSize (p.inputFlags.contains "skip_bytes")

def place (p : Plan) : Nat := p.seek.bytes p.writeSize (p.outputFlags.contains "seek_bytes")

def bound (p : Plan) : Option Nat :=
  p.count.map fun e => e.bytes p.readSize (p.inputFlags.contains "count_bytes")

end Plan

/-! ### Operands -/

def largest : Nat := 9223372036854775807

def amount? (t : Text) : Option Nat :=
  let factor? (t : Text) : Option Nat :=
    match sized? t with
    | some n => some n
    | none =>
      if t.getLast? = some 'B' ∧ t.dropLast.getLast? ≠ some 'B' then sized? t.dropLast else none
  (t.splitOn 'x').foldlM (fun n t => (factor? t).map (n * ·)) 1

def conversionNames : List String :=
  ["ascii", "ebcdic", "ibm", "block", "unblock", "lcase", "ucase", "sparse", "swab", "sync",
    "excl", "nocreat", "notrunc", "noerror", "fdatasync", "fsync"]

def flagNames : List String :=
  ["append", "direct", "directory", "dsync", "noatime", "nocache", "noctty", "nofollow",
    "nonblock", "sync", "fullblock", "count_bytes", "skip_bytes", "seek_bytes"]

def known (c : Call) (what : String) (names : List String) (t : Text) :
    Except Finish (List String) :=
  let words := t.splitOn ','
  match words.find? fun w => !names.contains (String.ofList w) with
  | some w => .error (c.usage (("invalid " ++ what ++ ": ").toList ++ quote w) 1)
  | none => .ok (words.map String.ofList)

def Plan.takeNumber (c : Call) (p : Plan) (key : String) (value whole : Text) :
    Except Finish Plan :=
  let inBytes : Bool := value.contains 'B'
  let isSize := ["ibs", "obs", "bs", "cbs"].contains key
  let fail (p : Plan) (after : String) : Except Finish Plan :=
    let r := c.complainText ("invalid number: ".toList ++ quotedName value ++ after.toList) 1
    .error { r with written := (2, p.warnings) :: r.written }
  let isExtent := ["skip", "iseek", "seek", "oseek", "count"].contains key
  if !isSize ∧ !isExtent then
    .error (c.usage ("unrecognized operand ".toList ++ quotedName whole) 1)
  else match amount? value with
    | none => fail p ""
    | some n =>
      let isEmptyProduct : Bool := n = 0 && ['0', 'x'].isPrefixOf value
      let p := if isEmptyProduct then
          let warning := "warning: '0x' is a zero multiplier; use '00x' if that is intended"
          { p with warnings := p.warnings ++ c.complaintLine warning.toList }
        else p
      if largest < n ∨ (isSize ∧ largest ≤ n) then
        fail p ": Value too large for defined data type"
      else if isSize ∧ n = 0 then fail p ""
      else match key with
        | "ibs" => .ok { p with inputSize := n }
        | "obs" => .ok { p with outputSize := n }
        | "bs" => .ok { p with size := some n }
        | "cbs" => .ok { p with recordSize := n }
        | "count" => .ok { p with count := some { count := n, inBytes } }
        | "skip" | "iseek" => .ok { p with skip := { count := n, inBytes } }
        | _ => .ok { p with seek := { count := n, inBytes } }

def Plan.take (c : Call) (p : Plan) (whole : Text) : Except Finish Plan :=
  let key := whole.takeWhile (· ≠ '=')
  match whole.drop key.length with
  | [] => .error (c.usage ("unrecognized operand ".toList ++ quotedName whole) 1)
  | _ :: value =>
    match String.ofList key with
    | "if" => .ok { p with source := some value }
    | "of" => .ok { p with goal := some value }
    | "conv" => (known c "conversion" conversionNames value).map fun names =>
      { p with conversions := p.conversions ++ names }
    | "iflag" => (known c "input flag" flagNames value).map fun names =>
      { p with inputFlags := p.inputFlags ++ names }
    | "oflag" => (known c "output flag" (flagNames.filter (· ≠ "fullblock")) value).map fun names =>
      { p with outputFlags := p.outputFlags ++ names }
    | "status" =>
      let levels : List (String × Level) :=
        [("none", .nothing), ("noxfer", .counts), ("progress", .everything)]
      (known c "status level" (levels.map (·.1)) value).map fun names =>
        { p with level := ((names.getLast?).bind fun w => levels.lookup w).getD p.level }
    | key => p.takeNumber c key value whole

def Plan.conflict? (p : Plan) : Option String :=
  if 1 < (["ascii", "ebcdic", "ibm"].filter p.converts).length then
    some "cannot combine any two of \x7bascii,ebcdic,ibm\x7d"
  else if p.recordSize ≠ 0 ∧ p.converts "block" ∧ p.converts "unblock" then
    some "cannot combine block and unblock"
  else if p.converts "lcase" ∧ p.converts "ucase" then some "cannot combine lcase and ucase"
  else if p.converts "excl" ∧ p.converts "nocreat" then some "cannot combine excl and nocreat"
  else none

/-! ### Conversions -/

def swapped : Text → Text
  | a :: b :: t => b :: a :: swapped t
  | t => t

def pieces (size : Nat) : Nat → Text → List Text
  | 0, _ => []
  | _ + 1, [] => []
  | n + 1, t => t.take size :: pieces size n (t.drop size)

def unblocked (size : Nat) (t : Text) : Text :=
  (pieces size (t.length + 1) t).flatMap fun record =>
    (record.reverse.dropWhile (· = ' ')).reverse ++ ['\n']

def Plan.convert (p : Plan) (t : Text) : Text × Nat :=
  let blocks : Bool := p.recordSize ≠ 0 && p.converts "block"
  let unblocks : Bool := p.recordSize ≠ 0 && p.converts "unblock"
  let rest := t.length % p.readSize
  let t := if p.converts "sync" ∧ rest ≠ 0 then
      t ++ List.replicate (p.readSize - rest)
        (if p.converts "block" ∨ p.converts "unblock" then ' ' else '\x00')
    else t
  let t := if p.converts "lcase" then t.map Char.toLower
    else if p.converts "ucase" then t.map Char.toUpper
    else t
  let t := if p.converts "swab" then swapped t else t
  if blocks then
    let lines := linesOf t
    (lines.flatMap fun l => padRight p.recordSize (l.take p.recordSize) ' ',
      (lines.filter fun l => p.recordSize < l.length).length)
  else (if unblocks then unblocked p.recordSize t else t, 0)

/-! ### Copying -/

def blockCounts (size : Nat) (t : Text) : Text :=
  shown (t.length / size) ++ '+' :: (if t.length % size = 0 then ['0'] else ['1'])

def withUnit (base : Nat) (n : Nat) : Text :=
  let rec go : Nat → Nat → List String → Text
    | _, _, [] => []
    | size, n, unit :: units =>
      if size * base ≤ n ∧ !units.isEmpty then go (size * base) n units
      else
        let tenths := (20 * n + size) / (2 * size)
        if size = 1 then shown n ++ ' ' :: unit.toList
        else if tenths < 100 then
          shown (tenths / 10) ++ '.' :: shown (tenths % 10) ++ ' ' :: unit.toList
        else shown ((2 * n + size) / (2 * size)) ++ ' ' :: unit.toList
  go 1 n (if base = 1000 then ["B", "kB", "MB", "GB"] else ["B", "KiB", "MiB", "GiB"])

def Plan.report (p : Plan) (t out : Text) (cut : Nat) : Text :=
  if p.level = .nothing then []
  else
    let n := out.length
    let sizes := (if 1000 ≤ n then [withUnit 1000 n] else []) ++
      (if 1024 ≤ n then [withUnit 1024 n] else [])
    blockCounts p.readSize t ++ " records in\n".toList ++
    blockCounts p.writeSize out ++ " records out\n".toList ++
    (if cut = 0 then []
      else if cut = 1 then "1 truncated record\n".toList
      else shown cut ++ " truncated records\n".toList) ++
    if p.level = .counts then []
    else shown n ++ (if n = 1 then " byte" else " bytes").toList ++
      (if sizes.isEmpty then [] else " (".toList ++ joinWith ", ".toList sizes ++ [')']) ++
      " copied, 0 s, Infinity B/s\n".toList

def Plan.written (p : Plan) (old : Text) (out : Text) : Text :=
  let keeps := p.converts "notrunc"
  let kept := if keeps then old else old.take p.place
  if p.outputFlags.contains "append" then kept ++ out
  else if keeps ∧ out.isEmpty then old
  else
    let before := padRight p.place (kept.take p.place) '\x00'
    before ++ out ++ kept.drop (p.place + out.length)

/-- The source of a copy, with what is wrong with reading it if it can be opened. -/
def Plan.fetch (c : Call) (p : Plan) : Except FileError (Text × Option FileError) :=
  match p.source with
  | none => .ok (c.input, none)
  | some path =>
    if path = "/dev/zero".toList then
      let size := match p.bound with
        | some n => min (p.skipped + n) 50000000
        | none => 200000
      .ok (List.replicate size '\x00', none)
    else match c.read path with
      | .ok t => .ok (t, none)
      | .error .isDirectory => .ok ([], some .isDirectory)
      | .error e => .error e

def Plan.prepare (c : Call) (p : Plan) (path : Text) : Except String Unit :=
  let exists_ := c.files.has (decode path)
  if p.converts "excl" ∧ exists_ then .error "File exists"
  else if p.converts "nocreat" ∧ !exists_ then .error "No such file or directory"
  else match c.files.write (decode path) [] with
    | .ok _ => .ok ()
    | .error e => .error e.reason

def Plan.run (c : Call) (p : Plan) : Except Finish Finish := do
  let fail (path : Text) (reason : String) : Finish :=
    let r := c.complainText
      ("failed to open ".toList ++ quotedName path ++ (": " ++ reason).toList) 1
    { r with written := (2, p.warnings) :: r.written }
  let (t, problem) ← (p.fetch c).mapError fun e => fail (p.source.getD []) e.reason
  match p.goal with
  | some path => (p.prepare c path).mapError (fail path)
  | none => pure ()
  let sourceName := p.source.getD "standard input".toList
  let isShort : Bool := t.length < p.skipped && problem.isNone
  let skipNote := if isShort then
      c.complaintLine (quotedName sourceName ++ ": cannot skip to specified offset".toList)
    else []
  let isStuck : Bool := p.goal.isNone && 0 < p.place
  let rest := t.drop p.skipped
  let data := if isStuck then []
    else match p.bound with
      | some n => rest.take n
      | none => rest
  let problemNote := match problem with
    | some e => c.complaintLine
      ("error reading ".toList ++ quotedName sourceName ++ (": " ++ e.reason).toList)
    | none => []
  let stuckNote := if isStuck then
      c.complaintLine "'standard output': cannot seek: Illegal seek".toList
    else []
  let (out, cut) := p.convert data
  let files := match p.goal with
    | none => none
    | some path =>
      let old := ((c.files.read (decode path)).toOption.map Text.ofOctets).getD []
      (c.files.write (decode path) (Text.octets (p.written old out))).toOption
  let usesInput := p.source.all fun path => path = "/dev/stdin".toList
  let status := if isStuck ∨ problem.isSome then 1 else 0
  return {
    written := [(2, p.warnings ++ skipNote ++ stuckNote ++ problemNote),
      (1, if p.goal.isNone then out else []), (2, p.report data out cut)]
    status, files, isExact := true
    unread := if usesInput then t.drop (p.skipped + data.length) else c.input }

end Blocks

open Blocks in
def copyBlocks : Utility :=
  withOptions [] 1 fun c f =>
    let run : Except Finish Finish := do
      let p ← f.operands.foldlM (fun (p : Plan) t => p.take c t) {}
      match p.conflict? with
      | some message => throw (c.complain message 1)
      | none => p.run c
    match run with
    | .ok r => r
    | .error r => r

end StructuralEdit.Shell
