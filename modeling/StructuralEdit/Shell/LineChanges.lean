import StructuralEdit.Shell.Octets
/-!
Which items of two sequences are changed, so that the others are the same in both and as many as
possible. The search goes from both ends at once and splits the sequences where the two meet.
-/
namespace StructuralEdit.Shell

/-- Two sequences of items, with marks for the items that are not in the other one. -/
structure LineChanges where
  left : Array Nat
  right : Array Nat
  leftChanged : Array Bool
  rightChanged : Array Bool

namespace LineChanges

structure Box where
  left : Nat
  leftEnd : Nat
  right : Nat
  rightEnd : Nat

/-! ### Meeting in the middle -/

/-- The furthest place reached on every diagonal, as a function on a range of diagonals. -/
structure Front where
  places : Array Int
  low : Int
  high : Int

/-- A search on some sequences. Diagonals are shifted to be places in an array. -/
structure Search where
  left : Array Nat
  right : Array Nat
  box : Box
  shift : Int
  fromStart : Front
  fromEnd : Front

def Front.at (f : Front) (shift d : Int) : Int := f.places.getD (d + shift).toNat 0

def Front.put (shift d x : Int) (f : Front) : Front :=
  { f with places := f.places.setIfInBounds (d + shift).toNat x }

def Search.same (s : Search) (x y : Int) : Bool :=
  s.left.getD x.toNat 0 == s.right.getD y.toNat 1

def Search.slide (s : Search) : Nat → Int → Int → Int
  | 0, x, _ => x
  | n + 1, x, y =>
    if x < s.box.leftEnd ∧ y < s.box.rightEnd ∧ s.same x y then s.slide n (x + 1) (y + 1) else x

def Search.slideBack (s : Search) : Nat → Int → Int → Int
  | 0, x, _ => x
  | n + 1, x, y =>
    if (s.box.left : Int) < x ∧ (s.box.right : Int) < y ∧ s.same (x - 1) (y - 1) then
      s.slideBack n (x - 1) (y - 1)
    else x

def Front.widen (shift lowest highest beyond : Int) (f : Front) : Front :=
  let f := if lowest < f.low then { f.put shift (f.low - 2) beyond with low := f.low - 1 }
    else { f with low := f.low + 1 }
  if f.high < highest then { f.put shift (f.high + 2) beyond with high := f.high + 1 }
  else { f with high := f.high - 1 }

/-- Takes the front from the start a step further on every second diagonal, down from one. The
answer is a place at which the fronts meet, if there is one. -/
def Search.advance (odd : Bool) (size : Nat) : Nat → Int → Search → Search × Option (Int × Int)
  | 0, _, s => (s, none)
  | n + 1, d, s =>
    if d < s.fromStart.low then (s, none)
    else
      let below := s.fromStart.at s.shift (d - 1)
      let above := s.fromStart.at s.shift (d + 1)
      let x := if below < above then above else below + 1
      let x := s.slide size x (x - d)
      let s := { s with fromStart := s.fromStart.put s.shift d x }
      if odd ∧ s.fromEnd.low ≤ d ∧ d ≤ s.fromEnd.high ∧ s.fromEnd.at s.shift d ≤ x then
        (s, some (x, x - d))
      else Search.advance odd size n (d - 2) s

def Search.retreat (odd : Bool) (size : Nat) : Nat → Int → Search → Search × Option (Int × Int)
  | 0, _, s => (s, none)
  | n + 1, d, s =>
    if d < s.fromEnd.low then (s, none)
    else
      let below := s.fromEnd.at s.shift (d - 1)
      let above := s.fromEnd.at s.shift (d + 1)
      let x := if below < above then below else above - 1
      let x := s.slideBack size x (x - d)
      let s := { s with fromEnd := s.fromEnd.put s.shift d x }
      if !odd ∧ s.fromStart.low ≤ d ∧ d ≤ s.fromStart.high ∧ x ≤ s.fromStart.at s.shift d then
        (s, some (x, x - d))
      else Search.retreat odd size n (d - 2) s

def Search.meet (odd : Bool) (size : Nat) : Nat → Search → Option (Int × Int)
  | 0, _ => none
  | n + 1, s =>
    let lowest := (s.box.left : Int) - s.box.rightEnd
    let highest := (s.box.leftEnd : Int) - s.box.right
    let s := { s with fromStart := s.fromStart.widen s.shift lowest highest (-1) }
    let (s, found) := s.advance odd size (size + 2) s.fromStart.high
    match found with
    | some p => some p
    | none =>
      let s := { s with fromEnd := s.fromEnd.widen s.shift lowest highest 1000000000 }
      let (s, found) := s.retreat odd size (size + 2) s.fromEnd.high
      match found with
      | some p => some p
      | none => Search.meet odd size n s

def middle (left right : Array Nat) (b : Box) : Nat × Nat :=
  let size := (b.leftEnd - b.left) + (b.rightEnd - b.right)
  let shift : Int := b.rightEnd + 2
  let start := (b.left : Int) - b.right
  let stop := (b.leftEnd : Int) - b.rightEnd
  let empty := Array.replicate (b.leftEnd + b.rightEnd + 6) (0 : Int)
  let front (d x : Int) : Front := ({ places := empty, low := d, high := d } : Front).put shift d x
  let s : Search :=
    { left, right, box := b, shift, fromStart := front start b.left
      fromEnd := front stop b.leftEnd }
  match s.meet ((start - stop) % 2 ≠ 0) size (size + 2) with
  | some (x, y) => (x.toNat, y.toNat)
  | none => (b.leftEnd, b.right)

/-! ### Marking -/

abbrev Marks := Array Bool × Array Bool

def markRange (start stop : Nat) (marks : Array Bool) : Array Bool :=
  (List.range (stop - start)).foldl (fun marks i => marks.setIfInBounds (start + i) true) marks

def sameStart (left right : Array Nat) : Nat → Box → Box
  | 0, b => b
  | n + 1, b =>
    if b.left < b.leftEnd ∧ b.right < b.rightEnd ∧
        left.getD b.left 0 = right.getD b.right 1 then
      sameStart left right n { b with left := b.left + 1, right := b.right + 1 }
    else b

def sameEnd (left right : Array Nat) : Nat → Box → Box
  | 0, b => b
  | n + 1, b =>
    if b.left < b.leftEnd ∧ b.right < b.rightEnd ∧
        left.getD (b.leftEnd - 1) 0 = right.getD (b.rightEnd - 1) 1 then
      sameEnd left right n { b with leftEnd := b.leftEnd - 1, rightEnd := b.rightEnd - 1 }
    else b

def mark (left right : Array Nat) : Nat → Box → Marks → Marks
  | 0, _, ms => ms
  | n + 1, b, ms =>
    let size := (b.leftEnd - b.left) + (b.rightEnd - b.right)
    let b := sameEnd left right size (sameStart left right size b)
    if b.left = b.leftEnd then (ms.1, markRange b.right b.rightEnd ms.2)
    else if b.right = b.rightEnd then (markRange b.left b.leftEnd ms.1, ms.2)
    else
      let (x, y) := middle left right b
      let ms := mark left right n { b with leftEnd := x, rightEnd := y } ms
      mark left right n { b with left := x, right := y } ms

def shared (items others : Array Nat) : Array (Nat × Nat) :=
  let known := others.foldl (fun (known : Array Bool) n => known.setIfInBounds n true)
    (Array.replicate ((items.foldl max 0) + (others.foldl max 0) + 1) false)
  items.zipIdx.filter fun (n, _) => known.getD n false

/-! ### Moving runs of changes -/

def isMarked (marks : Array Bool) (i : Int) : Bool := 0 ≤ i && marks.getD i.toNat false

def passUnmarked (marks : Array Bool) : Nat → Int → Int
  | 0, j => j
  | n + 1, j => if isMarked marks j then passUnmarked marks n (j + 1) else j + 1

def firstUnmarked (marks : Array Bool) : Nat → Int → Int
  | 0, j => j
  | n + 1, j => if isMarked marks j then firstUnmarked marks n (j + 1) else j

def lastUnmarked (marks : Array Bool) : Nat → Int → Int
  | 0, j => j
  | n + 1, j => if isMarked marks (j - 1) then lastUnmarked marks n (j - 1) else j - 1

def runStart (marks : Array Bool) : Nat → Int → Int
  | 0, i => i
  | n + 1, i => if isMarked marks (i - 1) then runStart marks n (i - 1) else i

/-- A run of changes that is moved: where it starts and ends, the place in the other sequence, and
the last place at which the run ended with one of the other sequence. -/
structure Run where
  marks : Array Bool
  start : Int
  stop : Int
  other : Int
  matching : Int

def Run.setMark (i : Int) (b : Bool) (r : Run) : Run :=
  { r with marks := r.marks.setIfInBounds i.toNat b }

variable (items : Array Nat) (others : Array Bool)

def itemAt (i : Int) : Nat := items.getD i.toNat 0

def Run.back : Nat → Run → Run
  | 0, r => r
  | n + 1, r =>
    if 0 < r.start ∧ itemAt items (r.start - 1) = itemAt items (r.stop - 1) then
      let r := (r.setMark (r.start - 1) true).setMark (r.stop - 1) false
      let start := runStart r.marks (items.size + 1) (r.start - 1)
      Run.back n { r with
        start, stop := r.stop - 1, other := lastUnmarked others (others.size + 1) r.other }
    else r

def Run.passOthers : Nat → Run → Run
  | 0, r => r
  | n + 1, r =>
    let other := r.other + 1
    if isMarked others other then Run.passOthers n { r with other, matching := r.stop }
    else { r with other }

def Run.forward : Nat → Run → Run
  | 0, r => r
  | n + 1, r =>
    if r.stop < items.size ∧ itemAt items r.start = itemAt items r.stop then
      let r := (r.setMark r.start false).setMark r.stop true
      let stop := firstUnmarked r.marks (items.size + 1) (r.stop + 1)
      Run.forward n (Run.passOthers others (others.size + 1)
        { r with start := r.start + 1, stop })
    else r

def Run.settle : Nat → Run → Run
  | 0, r => r
  | n + 1, r =>
    let length := r.stop - r.start
    let r := r.back items others (items.size + 1)
    let matching : Int := if isMarked others (r.other - 1) then r.stop else items.size
    let r := { r with matching }.forward items others (items.size + 1)
    if r.stop - r.start = length then r else Run.settle n r

def Run.align : Nat → Run → Run
  | 0, r => r
  | n + 1, r =>
    if r.matching < r.stop then
      let r := (r.setMark (r.start - 1) true).setMark (r.stop - 1) false
      Run.align n { r with
        start := r.start - 1, stop := r.stop - 1
        other := lastUnmarked others (others.size + 1) r.other }
    else r

/-- Moves the runs of changes of a sequence to where they join others, or else as far forward as
they can go. The arguments are a bound, and places in both sequences. -/
def moveRuns : Nat → Int → Int → Array Bool → Array Bool
  | 0, _, _, marks => marks
  | n + 1, i, j, marks =>
    if (items.size : Int) ≤ i then marks
    else if !isMarked marks i then
      moveRuns n (i + 1) (passUnmarked others (others.size + 1) j) marks
    else
      let stop := firstUnmarked marks (items.size + 1) (i + 1)
      let other := firstUnmarked others (others.size + 1) j
      let r : Run := { marks, start := i, stop, other, matching := items.size }
      let r := (r.settle items others (items.size + 1)).align others (items.size + 1)
      moveRuns n r.stop r.other r.marks

/-! ### All changes -/

def ofItems (left right : Array Nat) : LineChanges :=
  let leftShared := shared left right
  let rightShared := shared right left
  let l := leftShared.map (·.1)
  let r := rightShared.map (·.1)
  let (ml, mr) := mark l r (l.size + r.size + 1)
    { left := 0, leftEnd := l.size, right := 0, rightEnd := r.size }
    (Array.replicate l.size false, Array.replicate r.size false)
  let spread (size : Nat) (places : Array (Nat × Nat)) (marks : Array Bool) : Array Bool :=
    places.zipIdx.foldl (fun all (p, i) => all.setIfInBounds p.2 (marks.getD i false))
      (Array.replicate size true)
  let ml := spread left.size leftShared ml
  let mr := spread right.size rightShared mr
  let ml := moveRuns left mr (2 * left.size + 2) 0 0 ml
  let mr := moveRuns right ml (2 * right.size + 2) 0 0 mr
  { left, right, leftChanged := ml, rightChanged := mr }

/-- Items of the left sequence that items of the right one take the place of. -/
structure LineChange where
  left : Nat
  leftEnd : Nat
  right : Nat
  rightEnd : Nat

def changesFrom (c : LineChanges) : Nat → Nat → Nat → List LineChange
  | 0, _, _ => []
  | n + 1, i, j =>
    if c.left.size ≤ i ∧ c.right.size ≤ j then []
    else
      let stop := (firstUnmarked c.leftChanged (c.left.size + 1) i).toNat
      let other := (firstUnmarked c.rightChanged (c.right.size + 1) j).toNat
      if stop = i ∧ other = j then c.changesFrom n (i + 1) (j + 1)
      else
        { left := i, leftEnd := stop, right := j, rightEnd := other } ::
          c.changesFrom n stop other

def changes (c : LineChanges) : List LineChange :=
  c.changesFrom (2 * (c.left.size + c.right.size) + 2) 0 0

end LineChanges

end StructuralEdit.Shell
