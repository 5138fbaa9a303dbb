import Std.Data.HashMap
import StructuralEdit.Regex.Expr.OfTree
import StructuralEdit.Text.Utf8
/-!
The memory that a pattern takes when it is made ready for searching. It becomes two automata that
read bytes, one forward and one backward, and neither may take more than a limit. A state takes 32
bytes, a branch to another state 4, and a link for a range of bytes, in a state with several of
them, 8 more.
-/
namespace StructuralEdit.Regex.Memory

def limit : Nat := 10485760

structure Tally where
  states : Nat := 0
  bytes : Nat := 0

namespace Tally

def add (extra : Nat) (t : Tally) : Tally := ⟨t.states + 1, t.bytes + 32 + extra⟩

def addMany (n : Nat) (t : Tally) : Tally := ⟨t.states + n, t.bytes + 32 * n⟩

end Tally

/-! ### Characters as bytes -/

/-- Where a range has to be cut in two, so that each part is made of all combinations of one range
for each byte: the end of the first part and the start of the second. -/
def cut? (lo hi : Nat) : Option (Nat × Nat) :=
  let crosses (m : Nat) : Bool := lo ≤ m && m < hi
  let misaligned (size : Nat) : Option (Nat × Nat) :=
    if lo / size = hi / size then none
    else if lo % size ≠ 0 then some (lo / size * size + size - 1, lo / size * size + size)
    else if hi % size ≠ size - 1 then some (hi / size * size - 1, hi / size * size)
    else none
  if lo < 0xE000 ∧ 0xD7FF < hi then some (0xD7FF, 0xE000)
  else if crosses 0x7F then some (0x7F, 0x80)
  else if crosses 0x7FF then some (0x7FF, 0x800)
  else if crosses 0xFFFF then some (0xFFFF, 0x10000)
  else if hi < 0x80 then none
  else (misaligned 64).or ((misaligned 4096).or (misaligned 262144))

abbrev ByteRanges := List (UInt8 × UInt8)

def sequences : Nat → Nat → Nat → List ByteRanges
  | 0, _, _ => []
  | n + 1, lo, hi =>
    if hi < lo then []
    else match cut? lo hi with
      | some (a, b) => sequences n lo a ++ sequences n b hi
      | none => [(Text.charBytes (Char.ofNat lo)).zip (Text.charBytes (Char.ofNat hi))]

/-- A character is cut off at each end at most once for each of its bytes, and lengths of
characters and the surrogates cut four times more. -/
def maxCuts : Nat := 16

def sequencesOf (s : CharSet) : List ByteRanges :=
  s.ranges.flatMap fun r => sequences maxCuts r.1 r.2

/-! ### Shared states

States for the bytes of a set are shared through a table with a fixed number of slots. A state is
found again as long as no other one has taken its slot. -/

def mix (h : UInt64) (n : Nat) : UInt64 := (h ^^^ n.toUInt64) * 1099511628211

def slot (slots : UInt64) (key : List Nat) : UInt64 := key.foldl mix 14695981039346656037 % slots

abbrev Shared := Std.HashMap UInt64 (List Nat × Nat)

def Shared.find? (s : Shared) (at_ : UInt64) (key : List Nat) : Option Nat :=
  match s[at_]? with
  | some (k, n) => if k = key then some n else none
  | none => none

/-! ### Sets, forward -/

/-- A state under construction: its links, last first, and the range of the link that is not made
yet, as it leads to a state that is not finished. -/
structure OpenState where
  links : List (UInt8 × UInt8 × Nat) := []
  pending : Option (UInt8 × UInt8) := none

def OpenState.settle (n : OpenState) (next : Nat) : OpenState :=
  match n.pending with
  | some (a, b) => ⟨(a, b, next) :: n.links, none⟩
  | none => n

/-- The automaton for a set under construction: the states on the way of the last byte sequence. -/
structure Draft where
  tally : Tally
  target : Nat
  shared : Shared := {}
  way : List OpenState := [{}]

namespace Draft

def finish (n : OpenState) (d : Draft) : Nat × Draft :=
  let key := n.links.reverse.flatMap fun (a, b, next) => [a.toNat, b.toNat, next]
  let at_ := slot 10000 key
  match d.shared.find? at_ key with
  | some state => (state, d)
  | none =>
    (d.tally.states, { d with
      tally := d.tally.add (8 * n.links.length)
      shared := d.shared.insert at_ (key, d.tally.states) })

def finishBehind (keep : Nat) (d : Draft) : Draft :=
  let (next, d) := (d.way.drop keep).reverse.foldl (fun (next, d) n => d.finish (n.settle next))
    (d.target, { d with way := d.way.take keep })
  { d with way := d.way.dropLast ++ (d.way.getLast?.map (·.settle next)).toList }

def common : ByteRanges → List OpenState → Nat
  | r :: rs, n :: ns => if n.pending = some r then common rs ns + 1 else 0
  | _, _ => 0

def push (d : Draft) (rs : ByteRanges) : Draft :=
  let n := common rs d.way
  let d := d.finishBehind (n + 1)
  match rs.drop n with
  | [] => d
  | r :: rest =>
    { d with way := d.way.dropLast ++
        (d.way.getLast?.map fun s => { s with pending := some r }).toList ++
        rest.map fun r => { pending := some r } }

end Draft

def forwardSet (s : CharSet) (t : Tally) : Tally :=
  let d := (sequencesOf s).foldl Draft.push { tally := t.add 0, target := t.states }
  let d := d.finishBehind 1
  match d.way with
  | root :: _ => (d.finish root).2.tally
  | [] => d.tally

/-! ### Sets, backward -/

def backwardSequence : ByteRanges → Nat → Shared × Tally → Shared × Tally
  | [], _, (shared, t) => (shared, { t with bytes := t.bytes + 4 })
  | (a, b) :: rs, last, (shared, t) =>
    let key := [last, a.toNat, b.toNat]
    let at_ := slot 1000 key
    match shared.find? at_ key with
    | some state => backwardSequence rs state (shared, t)
    | none => backwardSequence rs t.states (shared.insert at_ (key, t.states), t.add 0)

def backwardSet (s : CharSet) (t : Tally) : Tally :=
  ((sequencesOf s).foldl (fun d rs => backwardSequence rs (t.states + 1) d) ({}, t.addMany 2)).2

/-! ### Alternatives that are all literals

They share what they start with, as long as the order of preference allows it: what follows a
literal that ends does not join what is before it. -/

inductive Trie where
  | node (closed : List (List (UInt8 × Trie))) (active : List (UInt8 × Trie))

namespace Trie

def leaf : Trie := .node [] []

def isLeaf : Trie → Bool
  | node closed active => active.isEmpty && closed.all (·.isEmpty)

def close : Trie → Trie
  | node closed active =>
    if (node closed active).isLeaf && !closed.isEmpty then node closed active
    else node (closed ++ [active]) []

def single : List UInt8 → Trie
  | [] => leaf.close
  | b :: bs => node [] [(b, single bs)]

def insert : List UInt8 → Trie → Trie
  | [], t => t.close
  | b :: bs, node closed active =>
    let rec place : List (UInt8 × Trie) → List (UInt8 × Trie)
      | [] => [(b, single bs)]
      | (c, t) :: rest =>
        if c = b then (c, insert bs t) :: rest
        else if b < c then (b, single bs) :: (c, t) :: rest
        else (c, t) :: place rest
    node closed (place active)

mutual

def measure : Trie → Tally → Tally
  | node closed active, t =>
    let (branches, t) := measureAll closed t
    let t := measureLinks active t
    let own := if active.isEmpty then 0 else 1
    (if active.isEmpty then t else t.add (if active.length = 1 then 0 else 8 * active.length)).add
      (4 * (branches + own))

def measureAll : List (List (UInt8 × Trie)) → Tally → Nat × Tally
  | [], t => (0, t)
  | links :: rest, t =>
    let t := measureLinks links t
    let t := if links.isEmpty then t
      else t.add (if links.length = 1 then 0 else 8 * links.length)
    let (branches, t) := measureAll rest t
    (branches + (if links.isEmpty then 1 else 2), t)

def measureLinks : List (UInt8 × Trie) → Tally → Tally
  | [], t => t
  | (_, child) :: rest, t => measureLinks rest (if child.isLeaf then t else measure child t)

end

end Trie

def literal? : Expr → Option Text
  | .literal cs => some cs
  | _ => none

/-! ### Expressions -/

inductive Direction where
  | forward
  | backward
  deriving DecidableEq, Repr

def copies (f : Tally → Tally) : Nat → Tally → Tally
  | 0, t => t
  | n + 1, t => if limit < t.bytes then t else copies f n (f t)

def exactly (f : Tally → Tally) (n : Nat) (t : Tally) : Tally :=
  if n = 0 then t.add 0 else copies f n t

def measureSet (d : Direction) (s : CharSet) (k : Alphabet) (t : Tally) : Tally :=
  if k = .ascii ∨ s.isAscii then (t.add 0).add (8 * s.ranges.length)
  else match d with
    | .forward => forwardSet s t
    | .backward => backwardSet s t

def measureRepetition (min : Nat) (max : Option Nat) (readsSome : Bool) (sub : Tally → Tally)
    (t : Tally) : Tally :=
  match max with
  | some 1 => if min = 0 then (sub (t.add 8)).add 0 else exactly sub min t
  | some max =>
    if min = max then exactly sub min t
    else copies (fun t => sub (t.add 8)) (max - min) ((exactly sub min t).add 0)
  | none =>
    if min = 0 then
      if readsSome then sub (t.add 8) else (((sub t).add 8).add 8).add 0
    else (exactly sub min t).add 8

mutual

def measure (d : Direction) : Expr → Tally → Tally
  | .empty, t => t.add 0
  | .literal cs, t => t.addMany (Text.size cs)
  | .set s k, t => measureSet d s k t
  | .look _, t => t.add 0
  | .repetition min max _ sub, t =>
    measureRepetition min max (sub.minLength.any (0 < ·)) (measure d sub) t
  | .capture _ _ sub, t =>
    match d with
    | .forward => (measure d sub (t.add 0)).add 0
    | .backward => measure d sub t
  | .concat subs, t => measureConcat d subs t
  | .alternation subs, t =>
    match subs.mapM literal? with
    | some ls =>
      let bytes (l : Text) : List UInt8 :=
        if d = .forward then Text.toBytes l else (Text.toBytes l).reverse
      (ls.foldl (fun trie l => trie.insert (bytes l)) Trie.leaf).measure (t.add 0)
    | none => measureAlternation d 0 subs t

def measureConcat (d : Direction) : List Expr → Tally → Tally
  | [], t => t
  | x :: xs, t =>
    match d with
    | .forward => measureConcat d xs (measure d x t)
    | .backward => measure d x (measureConcat d xs t)

def measureAlternation (d : Direction) (i : Nat) : List Expr → Tally → Tally
  | [], t => t
  | x :: xs, t =>
    let t := measure d x t
    measureAlternation d (i + 1) xs (if i = 1 then (t.add 8).add 0
      else if i = 0 then t else { t with bytes := t.bytes + 4 })

end

mutual

/-- More bytes than any automaton for an expression takes. -/
def bound : Expr → Nat
  | .empty => 32
  | .literal cs => 96 + 80 * Text.size cs
  | .set s _ => 4096 * (s.ranges.length + 1)
  | .look _ => 32
  | .repetition min max _ sub => 160 + (Nat.max (max.getD min) 1) * (bound sub + 80)
  | .capture _ _ sub => 64 + bound sub
  | .concat subs => boundAll subs
  | .alternation subs => 96 + boundAll subs

def boundAll : List Expr → Nat
  | [] => 0
  | x :: xs => 16 + bound x + boundAll xs

end

mutual

def isAnchored (d : Direction) : Expr → Bool
  | .look .textStart => d = .forward
  | .look .textEnd => d = .backward
  | .repetition min _ _ sub => 0 < min && isAnchored d sub
  | .capture _ _ sub => isAnchored d sub
  | .concat subs => isSomeAnchored d subs
  | .alternation subs => areAnchored d subs
  | _ => false

def isSomeAnchored (d : Direction) : List Expr → Bool
  | [] => false
  | x :: xs =>
    match d with
    | .forward => isAnchored d x || (x.isEmptyOnly && isSomeAnchored d xs)
    | .backward => isSomeAnchored d xs || (Expr.areEmptyOnly xs && isAnchored d x)

def areAnchored (d : Direction) : List Expr → Bool
  | [] => true
  | x :: xs => isAnchored d x && areAnchored d xs

end

/-- The memory for the whole automaton. In front of the expression stands a loop that reads
anything, unless all matches have a fixed end. -/
def total (d : Direction) (e : Expr) : Nat :=
  let none_ : Tally := {}
  let start := if isAnchored d e then none_.add 0 else ((none_.add 8).add 0).add 8
  ((measure d (.capture 0 none e) start).add 0).bytes

def fits (e : Expr) : Bool :=
  512 + bound e ≤ limit || (total .forward e ≤ limit && total .backward e ≤ limit)

end StructuralEdit.Regex.Memory
