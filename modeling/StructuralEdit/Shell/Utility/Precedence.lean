import Std.Data.HashMap
import StructuralEdit.Shell.Utility.Basic
/-!
Putting items into an order in which each one comes before those that it is related to.
-/
namespace StructuralEdit.Shell

namespace Precedence

structure Relations where
  names : Array Text
  counts : Array Nat
  later : Array (List Nat)

def pairs : List Text → List (Text × Text)
  | a :: b :: rest => (a, b) :: pairs rest
  | _ => []

def distinct (names : List Text) : List Text :=
  (names.mergeSort Text.precedes).foldr (fun t sorted =>
    if sorted.head? = some t then sorted else t :: sorted) []

def Relations.ofPairs (ps : List (Text × Text)) : Relations :=
  let names := distinct (ps.flatMap fun (a, b) => [a, b])
  let numbers : Std.HashMap Text Nat :=
    names.zipIdx.foldl (fun known (t, i) => known.insert t i) {}
  let number (t : Text) : Nat := numbers.getD t 0
  let start : Relations :=
    { names := names.toArray, counts := (names.map fun _ => 0).toArray
      later := (names.map fun _ => []).toArray }
  ps.foldl (fun r (a, b) =>
    if a = b then r
    else
      let i := number a
      let j := number b
      { r with counts := r.counts.modify j (· + 1), later := r.later.modify i (j :: ·) }) start

structure Progress where
  relations : Relations
  printed : Array Bool
  waiting : List Nat := []
  written : List (Nat × Text) := []
  failed : Bool := false

namespace Progress

def nameOf (p : Progress) (i : Nat) : Text := p.relations.names[i]?.getD []

def countOf (p : Progress) (i : Nat) : Nat := p.relations.counts[i]?.getD 0

def laterOf (p : Progress) (i : Nat) : List Nat := p.relations.later[i]?.getD []

def write (descriptor : Nat) (t : Text) (p : Progress) : Progress :=
  { p with written := (descriptor, t) :: p.written }

/-- Writes an item and frees those behind it, in a queue of which the front comes first. -/
def release (i : Nat) (p : Progress) : Progress :=
  let p := { p.write 1 (p.nameOf i ++ ['\n']) with printed := p.printed.setIfInBounds i true }
  (p.laterOf i).foldl (fun p j =>
    let left := p.countOf j - 1
    let counts := p.relations.counts.setIfInBounds j left
    let p := { p with relations := { p.relations with counts } }
    if left = 0 then { p with waiting := j :: p.waiting } else p) p

def drain : Nat → List Nat → Progress → Progress
  | 0, _, p => p
  | n + 1, front, p =>
    match front with
    | i :: rest => drain n rest (p.release i)
    | [] =>
      match p.waiting.reverse with
      | [] => p
      | more => drain n more { p with waiting := [] }

/-- A chain of items each of which has to come before the next one. The one that it grew from may
be found again. -/
abbrev Chain := List Nat

/-- Looks for items in front of the first one of a chain, item by item. A chain that closes is
reported, and the relation that closes it is taken away. -/
def follow (complain : Text → Text) : List Nat → Chain → Progress → Chain × Bool × Progress
  | [], chain, p => (chain, false, p)
  | k :: rest, chain, p =>
    if p.countOf k = 0 then follow complain rest chain p
    else match chain with
      | [] => follow complain rest [k] p
      | first :: _ =>
        if !(p.laterOf k).contains first then follow complain rest chain p
        else if chain.dropLast.contains k then
          let loop := chain.takeWhile (· ≠ k) ++ [k]
          let p := loop.foldl (fun p i => p.write 2 (complain (p.nameOf i))) p
          let later := p.relations.later.modify k fun l => l.erase first
          let counts := p.relations.counts.modify first (· - 1)
          ([], true, { p with relations := { p.relations with later, counts } })
        else follow complain rest (k :: chain) p

def breakLoop (complain : Text → Text) (all : List Nat) : Nat → Chain → Progress → Progress
  | 0, _, p => p
  | n + 1, chain, p =>
    let (chain, found, p) := follow complain all chain p
    if found then p else breakLoop complain all n chain p

def run (complain : Text → Text) (loopText : Text) (all : List Nat) : Nat → Progress → Progress
  | 0, p => p
  | n + 1, p =>
    let free := all.filter fun i => p.countOf i = 0 && !(p.printed[i]?.getD true)
    let p := drain (2 * all.length + 2) free p
    if p.printed.all id then p
    else
      let p := { p.write 2 (complain loopText) with failed := true }
      run complain loopText all n (breakLoop complain all (all.length + 2) [] p)

end Progress

end Precedence

open Precedence in
def orderItems : Utility :=
  withOptions [] 1 fun c o =>
    match o.operands with
    | _ :: extra :: _ => c.usage ("extra operand ".toList ++ quote extra) 1
    | operands =>
      let g := c.gather operands
      if !g.complaints.isEmpty then g.finish c [] 1
      else
        let place := operands.headD ['-']
        let words := (g.text.splitOnP isSpace).filter fun (w : Text) => !w.isEmpty
        let unread := g.unread c
        if words.length % 2 = 1 then
          { c.complainText (place ++ ": input contains an odd number of tokens".toList) 1 with
            unread }
        else
          let relations := Relations.ofPairs (pairs words)
          let all := List.range relations.names.size
          let start : Progress := { relations, printed := (all.map fun _ => false).toArray }
          let loopText := place ++ ": input contains a loop:".toList
          let p := Progress.run c.complaintLine loopText all (words.length + 1) start
          { c.finish [] (if p.failed then 1 else 0) with written := p.written.reverse, unread }

end StructuralEdit.Shell
