import StructuralEdit.Shell.Digest
import StructuralEdit.Shell.Utility.Basic
/-!
Programs that show data in other forms: as numbers, in an alphabet for mail, or as a digest.
-/
namespace StructuralEdit.Shell

/-! ### Alphabets -/

namespace Alphabet

/-- An alphabet whose letters stand for a number of bits, and how many letters a block has. -/
structure Code where
  letters : Text
  bits : Nat
  block : Nat

def base64 : Code where
  letters := "ABCDEFGHIJKLMNOPQRSTUVWXYZabcdefghijklmnopqrstuvwxyz0123456789+/".toList
  bits := 6
  block := 4

def base32 : Code where
  letters := "ABCDEFGHIJKLMNOPQRSTUVWXYZ234567".toList
  bits := 5
  block := 8

def toBits (width n : Nat) : List Bool := (List.range width).reverse.map fun i => (n >>> i) % 2 = 1

def ofBits (bs : List Bool) : Nat := bs.foldl (fun n b => 2 * n + if b then 1 else 0) 0

def groups (size : Nat) : Nat → List Bool → List (List Bool)
  | 0, _ => []
  | n + 1, bs =>
    if bs.isEmpty then []
    else
      let g := bs.take size
      (g ++ List.replicate (size - g.length) false) :: groups size n (bs.drop size)

def encodeBytes (k : Code) (t : Text) : Text :=
  let bits := t.flatMap fun c => toBits 8 c.toNat
  let digits := (groups k.bits (bits.length + 1) bits).map fun g =>
    (k.letters[ofBits g]?).getD '='
  digits ++ List.replicate ((k.block - digits.length % k.block) % k.block) '='

/-- The bytes that whole blocks of letters stand for, as far as they make sense, and whether all
of them do. The first argument bounds the number of blocks. -/
def decodeBlocks (k : Code) : Nat → Text → Text × Bool
  | 0, t => ([], t.isEmpty)
  | n + 1, t =>
    if t.isEmpty then ([], true)
    else
      let block := t.take k.block
      let digits := block.takeWhile (· ≠ '=')
      let padding := block.drop digits.length
      let values := digits.map fun c => k.letters.findIdx? (· = c)
      let known := values.takeWhile Option.isSome
      let bits := known.flatMap fun v => toBits k.bits (v.getD 0)
      let bytes := (List.range (bits.length / 8)).map fun i =>
        Char.ofNat (ofBits ((bits.drop (8 * i)).take 8))
      let isGood : Bool := block.length = k.block && known.length = digits.length &&
        padding.all (· = '=') && bits.length % 8 < k.bits && !digits.isEmpty
      if isGood then
        let (rest, ok) := decodeBlocks k n (t.drop k.block)
        (bytes ++ rest, ok)
      else (bytes, false)

end Alphabet

open Alphabet in
def convert (k : Code) : Utility :=
  withOptions ["d decode", "i ignore-garbage", "w= wrap"] 1 fun c f =>
    match f.operands with
    | _ :: x :: _ => c.usage ("extra operand ".toList ++ quote x) 1
    | operands =>
      match natural? ((f.value? "w").getD "76".toList) with
      | none => c.complainText ("invalid wrap size: ".toList ++ quote ((f.value? "w").getD [])) 1
      | some width =>
        let g := c.gather operands
        if !g.complaints.isEmpty then g.finish c [] 1
        else if f.has "d" then
          let t := g.text.filter fun x =>
            x ≠ '\n' && (!f.has "i" || k.letters.contains x || x = '=')
          let (out, ok) := decodeBlocks k (t.length + 1) t
          { written := [(1, out), (2, if ok then [] else c.complaintLine "invalid input".toList)]
            status := if ok then 0 else 1, unread := g.unread c }
        else
          let out := encodeBytes k g.text
          let rec wrap : Nat → Text → Text
            | 0, t => t
            | n + 1, t => if t.isEmpty then [] else t.take width ++ '\n' :: wrap n (t.drop width)
          g.finish c (if width = 0 then out else wrap (out.length + 1) out) 1

/-! ### Digests -/

def digestWith (tag : String) (digest : Text → Text) : Utility :=
  withOptions ["b binary", "c check", "t text", "tag", "z zero", "quiet", "status", "strict",
    "w warn", "ignore-missing"] 1 fun c f =>
    let g := c.gather f.operands
    if f.has "c" then
      let lines := linesOf g.text
      let entries := lines.filterMap fun l =>
        let sum := l.takeWhile isHexDigit
        match l.drop sum.length with
        | ' ' :: ' ' :: name | ' ' :: '*' :: name => some (sum.map Char.toLower, name)
        | _ => none
      if entries.isEmpty then
        { c.finish [] 1 with
          written := [(2, c.complaintLine ((joinWith [' '] (f.operands.map id)) ++
            (if f.operands.isEmpty then "'standard input'" else "").toList ++
            ": no properly formatted checksum lines found".toList))]
          unread := g.unread c }
      else
        let results := entries.map fun (sum, name) =>
          match c.read name with
          | .ok t => if digest t = sum then (1, name ++ ": OK\n".toList)
            else (0, name ++ ": FAILED\n".toList)
          | .error _ => (2, name ++ ": FAILED open or read\n".toList)
        let shownResults := if f.has "status" then []
          else results.filter fun r => !(f.has "quiet" && r.1 = 1)
        let unreadable := entries.filter fun (_, name) => (c.read name).toOption.isNone
        let missing := unreadable.flatMap fun (_, name) =>
          match c.read name with
          | .error e => c.complaintLine (pathReason e name)
          | .ok _ => []
        let count (k : Nat) : Nat := (results.filter fun r => r.1 = k).length
        let warn (n : Nat) (one many : String) : Text :=
          if n = 0 then []
          else c.complaintLine ("WARNING: ".toList ++ shown n ++
            (if n = 1 then one else many).toList)
        { written := [(2, missing), (1, shownResults.flatMap (·.2)),
            (2, if f.has "status" then [] else
              warn (count 2) " listed file could not be read" " listed files could not be read" ++
              warn (count 0) " computed checksum did NOT match"
                " computed checksums did NOT match")]
          status := if count 1 = results.length then 0 else 1, unread := g.unread c }
    else
      let mark := if f.has "z" then ['\x00'] else ['\n']
      let one (x : Text × Text) : Text :=
        if f.has "tag" then tag.toList ++ " (".toList ++ x.1 ++ ") = ".toList ++ digest x.2 ++ mark
        else digest x.2 ++ (if f.has "b" then " *" else "  ").toList ++ x.1 ++ mark
      g.finish c (g.contents.flatMap one) 1

def checksum : Utility :=
  withOptions ["a= algorithm", "b base64", "tag", "untagged"] 1 fun c f =>
    let g := c.gather f.operands
    let one (x : Text × Text) : Text :=
      shown (Digest.cyclic x.2) ++ ' ' :: shown x.2.length ++
        (if f.operands.isEmpty then [] else ' ' :: x.1) ++ ['\n']
    g.finish c (g.contents.flatMap one) 1

def oldChecksum : Utility :=
  withOptions ["r", "s sysv"] 1 fun c f =>
    let g := c.gather f.operands
    let total (t : Text) : Nat := (Digest.bytesOf t).foldl (· + ·) 0
    let fold (n : Nat) : Nat :=
      let r := n % 65536 + n % 4294967296 / 65536
      r % 65536 + r / 65536
    let named : Bool := if f.has "s" then !f.operands.isEmpty else 1 < f.operands.length ||
      !f.operands.isEmpty
    let one (x : Text × Text) : Text :=
      let size := x.2.length
      let name := if named then ' ' :: x.1 else []
      (if f.has "s" then
        shown (fold (total x.2)) ++ ' ' :: shown ((size + 511) / 512)
      else padLeft 5 (shown (Digest.turning x.2)) '0' ++ ' ' ::
        padLeft 5 (shown ((size + 1023) / 1024)) ' ') ++ name ++ ['\n']
    g.finish c (g.contents.flatMap one) 1

/-! ### Dumps -/

namespace Dump

inductive Form where
  | name
  | char
  | signed (size : Nat)
  | unsigned (size : Nat)
  | octal (size : Nat)
  | hex (size : Nat)

structure Style where
  form : Form
  trailer : Bool := false

def Form.size : Form → Nat
  | .name | .char => 1
  | .signed n | .unsigned n | .octal n | .hex n => n

def Form.width : Form → Nat
  | .name | .char => 3
  | .signed n => match n with
    | 1 => 4
    | 2 => 6
    | 4 => 11
    | _ => 20
  | .unsigned n => match n with
    | 1 => 3
    | 2 => 5
    | 4 => 10
    | _ => 20
  | .octal n => match n with
    | 1 => 3
    | 2 => 6
    | 4 => 11
    | _ => 22
  | .hex n => 2 * n

def shownChar (c : Char) : Text :=
  match c with
  | '\x00' => "\\0".toList
  | '\x07' => "\\a".toList
  | '\x08' => "\\b".toList
  | '\x0c' => "\\f".toList
  | '\n' => "\\n".toList
  | '\r' => "\\r".toList
  | '\t' => "\\t".toList
  | '\x0b' => "\\v".toList
  | c => if isPrintable c then [c] else padLeft 3 (digitsIn 8 c.toNat) '0'

def controlNames : List String :=
  ["nul", "soh", "stx", "etx", "eot", "enq", "ack", "bel", "bs", "ht", "nl", "vt", "ff", "cr", "so",
    "si", "dle", "dc1", "dc2", "dc3", "dc4", "nak", "syn", "etb", "can", "em", "sub", "esc", "fs",
    "gs", "rs", "us", "sp"]

def shownName (c : Char) : Text :=
  let n := c.toNat % 128
  if n = 127 then "del".toList
  else match controlNames[n]? with
    | some s => s.toList
    | none => [Char.ofNat n]

def Form.item (k : Form) (bytes : Text) : Text :=
  let value := bytes.reverse.foldl (fun n c => n * 256 + c.toNat) 0
  match k with
  | .name => (bytes.head?).elim [] shownName
  | .char => (bytes.head?).elim [] shownChar
  | .signed n =>
    let whole := Nat.pow 256 n
    shownInt (if 2 * value < whole then value else (value : Int) - whole)
  | .unsigned _ => shown value
  | .octal _ => padLeft k.width (digitsIn 8 value) '0'
  | .hex n => padLeft (2 * n) (digitsIn 16 value) '0'

def readStyles (whole : Text) : Nat → Text → Except Text (List Style)
  | 0, _ => .ok []
  | _ + 1, [] => .ok []
  | n + 1, c :: t =>
    let more (form : Form) (t : Text) : Except Text (List Style) :=
      let (trailer, t) : Bool × Text := match t with
        | 'z' :: t => (true, t)
        | t => (false, t)
      (readStyles whole n t).map ({ form, trailer } :: ·)
    let sized (make : Nat → Form) : Except Text (List Style) :=
      match t with
      | 'C' :: t => more (make 1) t
      | 'S' :: t => more (make 2) t
      | 'I' :: t => more (make 4) t
      | 'L' :: t => more (make 8) t
      | t =>
        let ds := t.takeWhile Char.isDigit
        if ds.isEmpty then more (make 4) t
        else
          let size := ofDigits 10 ds
          if size = 1 ∨ size = 2 ∨ size = 4 ∨ size = 8 then more (make size) (t.drop ds.length)
          else .error ("invalid type string ".toList ++ quote whole ++
            ";\nthis system doesn't provide a ".toList ++ ds ++ "-byte integral type".toList)
    match c with
    | 'a' => more .name t
    | 'c' => more .char t
    | 'd' => sized .signed
    | 'u' => sized .unsigned
    | 'o' => sized .octal
    | 'x' => sized .hex
    | c => .error ("invalid character '".toList ++ [c] ++ "' in type string ".toList ++ quote whole)

/-- The data of one line of a dump, in pieces of the size of an item. -/
def pieces (size : Nat) : Nat → Text → List Text
  | 0, _ => []
  | n + 1, t => if t.isEmpty then [] else t.take size :: pieces size n (t.drop size)

end Dump

open Dump in
def dump : Utility := fun c =>
  withOptions ["A= address-radix", "j= skip-bytes", "N= read-bytes", "t= format",
    "v output-duplicates", "w=? width", "a", "b", "c", "d", "i", "l", "o", "s", "x",
    "traditional", "S= strings", "endian="] 1 (fun c f =>
    let run : Except Text Finish := do
      let short : List (String × Style) :=
        [("a", { form := .name }), ("b", { form := .octal 1 }), ("c", { form := .char }),
          ("d", { form := .unsigned 2 }), ("i", { form := .signed 4 }),
          ("l", { form := .signed 8 }),
          ("o", { form := .octal 2 }), ("s", { form := .signed 2 }), ("x", { form := .hex 2 })]
      let styles ← f.flags.foldlM (fun (ss : List Style) (key, value) =>
        if key = "t" then (readStyles value (value.length + 1) value).map (ss ++ ·)
        else match short.lookup key with
          | some s => .ok (ss ++ [s])
          | none => .ok ss) []
      let styles := if styles.isEmpty then [{ form := .octal 2 }] else styles
      let number (key : String) : Except Text (Option Nat) :=
        match f.value? key with
        | none => .ok none
        | some t => match t with
          | '0' :: 'x' :: ds => .ok (some (ofDigits 16 ds))
          | t => match sized? t with
            | some n => .ok (some (if t.head? = some '0' then ofDigits 8 t else n))
            | none => .error ("invalid -".toList ++ key.toList ++ " argument ".toList ++ quote t)
      let skip ← number "j"
      let count ← number "N"
      let block := styles.foldl (fun n s => max n s.form.size) 1
      let width ← match f.value? "w" with
        | none => pure 16
        | some [] => pure 32
        | some t => match natural? t with
          | some n => pure n
          | none => throw ("invalid -w argument ".toList ++ quote t)
      let width := if width = 0 then block else (width + block - 1) / block * block
      let radix := ((f.value? "A").bind List.head?).getD 'o'
      let address (n : Nat) : Text := match radix with
        | 'd' => padLeft 7 (shown n) '0'
        | 'x' => padLeft 6 (digitsIn 16 n) '0'
        | 'n' => []
        | _ => padLeft 7 (digitsIn 8 n) '0'
      let g := c.gather f.operands
      if !g.complaints.isEmpty ∧ g.contents.isEmpty then return g.finish c [] 1
      let start := skip.getD 0
      if g.text.length < start then
        return { written := [(2, c.complaintLine "cannot skip past end of combined input".toList)]
                 status := 1 }
      let data := g.text.drop start
      let data := match count with
        | some n => data.take n
        | none => data
      /- An item of each style has as much room as the widest one needs for the same bytes. -/
      let perByte := styles.foldl (fun n s =>
        max n ((s.form.width + 1 + s.form.size - 1) * (block / s.form.size))) 0
      let row (offset : Nat) (t : Text) : Text :=
        styles.zipIdx.flatMap fun (s, i) =>
          let items := pieces s.form.size (t.length + 1) t
          let room := perByte / (block / s.form.size)
          let body := items.flatMap fun p =>
            padLeft (if styles.length = 1 then s.form.width + 1 else room) (s.form.item p) ' '
          let full := width / s.form.size
          let item := if styles.length = 1 then s.form.width + 1 else room
          let trailer := if s.trailer then
              List.replicate ((full - items.length) * item) ' ' ++ "  >".toList ++
                t.map (fun c => if isPrintable c then c else '.') ++ ['<']
            else []
          let lead := if i = 0 then address offset
            else List.replicate (address offset).length ' '
          lead ++ body ++ trailer ++ ['\n']
      let rows := pieces width (data.length + 1) data
      let (out, _, _) := rows.zipIdx.foldl (fun (out, before, starred) (t, i) =>
        if !f.has "v" ∧ before = some t ∧ t.length = width then
          (if starred then out else ['*', '\n'] :: out, before, true)
        else (row (start + i * width) t :: out, some t, false))
        (([] : List Text), (none : Option Text), false)
      let final := if radix = 'n' then [] else address (start + data.length) ++ ['\n']
      return { g.finish c (out.reverse.flatten ++ final) 1 with unread := g.unread c }
    match run with
    | .ok r => r
    | .error e => c.complainText e 1) c

end StructuralEdit.Shell
