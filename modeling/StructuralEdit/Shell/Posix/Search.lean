import StructuralEdit.Shell.Posix.Syntax
/-!
Searching for regular expressions: the first place at which one matches, and the longest match
there.
-/
namespace StructuralEdit.Shell.Posix

abbrev Captures := List (Nat × Nat × Nat)

def wordBefore (t : Array Char) (i : Nat) : Bool :=
  0 < i && (t[i - 1]?).any isWordChar

def wordAt (t : Array Char) (i : Nat) : Bool := (t[i]?).any isWordChar

def anchorHolds (t : Array Char) (i : Nat) : Node → Bool
  | .start => i = 0
  | .finish => i = t.size
  | .lineStart => i = 0 || t[i - 1]? == some '\n'
  | .lineFinish => i = t.size || t[i]? == some '\n'
  | .edge wanted => (wordBefore t i != wordAt t i) == wanted
  | .wordStart => !wordBefore t i && wordAt t i
  | .wordFinish => wordBefore t i && !wordAt t i
  | _ => true

def merge : List Nat → List Nat → List Nat
  | [], bs => bs
  | as, [] => as
  | a :: as, b :: bs =>
    if a < b then a :: merge as (b :: bs)
    else if b < a then b :: merge (a :: as) bs
    else a :: merge as bs
termination_by as bs => as.length + bs.length

def without : List Nat → List Nat → List Nat
  | [], _ => []
  | as, [] => as
  | a :: as, b :: bs =>
    if a < b then a :: without as (b :: bs)
    else if b < a then without (a :: as) bs
    else without as bs
termination_by as bs => as.length + bs.length

def closure (step : List Nat → List Nat) : Nat → List Nat → List Nat → List Nat
  | 0, known, _ => known
  | n + 1, known, new =>
    if new.isEmpty then known
    else
      let next := without (step new) known
      closure step n (merge known next) next

def ends (t : Array Char) : Node → List Nat → List Nat
  | .empty, s => s
  | .one p, s =>
    s.filterMap fun i => match t[i]? with
      | some c => if p c then some (i + 1) else none
      | none => none
  | .group _ a, s => ends t a s
  | .seq a b, s =>
    let s := ends t a s
    if s.isEmpty then [] else ends t b s
  | .alt a b, s => merge (ends t a s) (ends t b s)
  | .repeat _ a least most, s =>
    let s := (List.range least).foldl (fun s _ => ends t a s) s
    match most with
    | some n => closure (ends t a) (n - least) s s
    | none => closure (ends t a) (t.size + 1) s s
  | .back _, _ => []
  | .look true wanted a, s => s.filter fun i => !(ends t a [i]).isEmpty == wanted
  | .look false wanted a, s =>
    s.filter fun i => ((List.range (i + 1)).any fun k => (ends t a [k]).contains i) == wanted
  | a, s => s.filter fun i => anchorHolds t i a

/-! ### Groups -/

/-- Places in the order of preference that are reached by repeated steps: more steps are preferred
to fewer, or the other way round. The first argument bounds the steps. The answer has the places
seen, in reverse. -/
def preferred (lazy : Bool) (step : Nat → List Nat) :
    Nat → List Nat → Nat → List Nat × List Nat
  | 0, seen, i => ([i], i :: seen)
  | n + 1, seen, i =>
    let (ps, seen) := (step i).foldl (fun (ps, seen) j =>
      if seen.contains j then (ps, seen)
      else
        let (more, seen) := preferred lazy step n seen j
        (ps ++ more, seen)) (([] : List Nat), i :: seen)
    (if lazy then i :: ps else ps ++ [i], seen)

def choices (t : Array Char) : Node → Nat → List Nat
  | .empty, i => [i]
  | .one p, i => match t[i]? with
    | some c => if p c then [i + 1] else []
    | none => []
  | .group _ a, i => choices t a i
  | .seq a b, i => ((choices t a i).flatMap (choices t b)).eraseDups
  | .alt a b, i => (choices t a i ++ choices t b i).eraseDups
  | .repeat lazy a least most, i =>
    let s := (List.range least).foldl (fun s _ => (s.flatMap (choices t a)).eraseDups) [i]
    let bound := match most with
      | some n => n - least
      | none => t.size + 1
    (s.flatMap fun i => (preferred lazy (choices t a) bound [] i).1).eraseDups
  | .back _, _ => []
  | .look ahead wanted a, i => ends t (.look ahead wanted a) [i]
  | a, i => if anchorHolds t i a then [i] else []

def setCapture (n first last : Nat) (cs : Captures) : Captures :=
  (n, first, last) :: cs.filter fun c => c.1 ≠ n

/-- Goes through the repetitions of a part from a place to another one, as few of them as have to
be and at most so many. The first argument bounds the repetitions. -/
def rounds (one : Nat → List Nat) (reaches : Nat → Nat → Nat → Bool)
    (assign : Nat → Nat → Captures → Captures) (last : Nat) :
    Nat → Nat → Option Nat → Nat → Captures → Captures
  | 0, _, _, _, cs => cs
  | n + 1, least, most, i, cs =>
    if most = some 0 then cs
    else
      let rest := least - 1
      let next := (one i).find? fun j =>
        (i < j || 0 < least || j = last) && reaches rest ((most.getD (last + 1)) - 1) j
      match next with
      | some j =>
        if i = j ∧ least = 0 then (if i = last then assign i j cs else cs)
        else
          let cs := assign i j cs
          if j = last ∧ rest = 0 then cs
          else rounds one reaches assign last n rest (most.map (· - 1)) j cs
      | none => cs

def captures (t : Array Char) : Node → Nat → Nat → Captures → Captures
  | .group n a, i, j, cs => captures t a i j (setCapture n i j cs)
  | .seq a b, i, j, cs =>
    match (choices t a i).find? fun k => (ends t b [k]).contains j with
    | some k => captures t b k j (captures t a i k cs)
    | none => cs
  | .alt a b, i, j, cs =>
    if (ends t a [i]).contains j then captures t a i j cs else captures t b i j cs
  | .keep, i, _, cs => setCapture 0 i i cs
  | .repeat lazy a least most, i, j, cs =>
    let reaches (least' bound k : Nat) : Bool :=
      (ends t (.repeat lazy a least' (if most.isNone then none else some bound)) [k]).contains j
    rounds (choices t a) reaches (captures t a) j (t.size + 2) least most i cs
  | _, _, _, cs => cs

/-! ### Looking back -/

/-- Goes through matches from a place with what comes behind them, and takes the longest one in
the end. -/
def walk (t : Array Char) (same : Char → Char → Bool) :
    Node → Nat → Captures → (Nat → Captures → Option (Nat × Captures)) → Option (Nat × Captures)
  | .empty, i, cs, next => next i cs
  | .one p, i, cs, next => match t[i]? with
    | some c => if p c then next (i + 1) cs else none
    | none => none
  | .group n a, i, cs, next => walk t same a i cs fun j cs => next j (setCapture n i j cs)
  | .seq a b, i, cs, next => walk t same a i cs fun k cs => walk t same b k cs next
  | .alt a b, i, cs, next => longer (walk t same a i cs next) (walk t same b i cs next)
  | .keep, i, cs, next => next i (setCapture 0 i i cs)
  | .look ahead wanted a, i, cs, next =>
    if (ends t (.look ahead wanted a) [i]).isEmpty then none else next i cs
  | .repeat _ a least most, i, cs, next =>
    let rec again : Nat → Nat → Nat → Captures → Option (Nat × Captures)
      | 0, _, _, _ => none
      | fuel + 1, count, i, cs =>
        let more : Option (Nat × Captures) :=
          if most.any (· ≤ count) then none
          else walk t same a i cs fun j cs =>
            if i < j ∨ count < least then again fuel (count + 1) j cs else none
        if count < least then more else longer more (next i cs)
    again (t.size + least + 1) 0 i cs
  | .back n, i, cs, next =>
    match cs.lookup n with
    | some (first, last) =>
      let size := last - first
      let matched : Bool := (List.range size).all fun k =>
        match t[first + k]?, t[i + k]? with
        | some a, some b => same a b
        | _, _ => false
      if matched then next (i + size) cs else none
    | none => none
  | a, i, cs, next => if anchorHolds t i a then next i cs else none
where
  longer (a b : Option (Nat × Captures)) : Option (Nat × Captures) :=
    match a, b with
    | some x, some y => if x.1 < y.1 then some y else some x
    | some x, none => some x
    | none, y => y

end Posix

structure Posix.Match where
  first : Nat
  last : Nat
  captures : Posix.Captures

namespace Posix

def sameFor (r : Posix) (a b : Char) : Bool :=
  if r.ignoresCase then a.toLower = b.toLower else a = b

def matchAt? (r : Posix) (t : Array Char) (i : Nat) : Option Match :=
  if r.looksBack then
    (walk t r.sameFor r.node i [] fun j cs => some (j, cs)).map fun (j, captures) =>
      { first := i, last := j, captures }
  else
    let last? := if r.takesFirst then (choices t r.node i).head? else (ends t r.node [i]).getLast?
    last?.map fun j =>
      let captures := if r.groups = 0 ∧ !r.takesFirst then [] else Posix.captures t r.node i j []
      { first := (captures.lookup 0).elim i (·.1), last := j, captures }

def find? (r : Posix) (t : Array Char) (start : Nat) : Option Match :=
  let starts := (List.range (t.size + 1 - start)).map (· + start)
  if !r.looksBack && (ends t r.node starts).isEmpty then none
  else starts.findSome? (r.matchAt? t)

def Match.part (m : Match) (t : Array Char) (n : Nat) : Text :=
  if n = 0 then (t.extract m.first m.last).toList
  else match m.captures.lookup n with
    | some (first, last) => (t.extract first last).toList
    | none => []

def isIn (r : Posix) (t : Text) : Bool :=
  let t := t.toArray
  if r.looksBack then (r.find? t 0).isSome
  else !(ends t r.node (List.range (t.size + 1))).isEmpty

end Posix

end StructuralEdit.Shell
