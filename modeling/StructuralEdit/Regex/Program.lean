import StructuralEdit.Regex.Memory
/-!
Patterns as programs: numbered instructions that read a character, test a condition on the
place between two characters, or try one continuation before another.
-/
namespace StructuralEdit.Regex

inductive Instruction where
  | accept
  | read (s : CharSet) (next : Nat)
  | test (l : Look) (next : Nat)
  | branch (first second : Nat)
  deriving DecidableEq, Repr

structure Program where
  code : Array Instruction
  entry : Nat
  deriving DecidableEq, Repr

namespace Program

/-- Code under construction with the number of the instruction it starts at. -/
abbrev Draft := Nat × Array Instruction

/-- Adds code that goes on at the given instruction. -/
abbrev Emitter := Nat → Array Instruction → Draft

def push (i : Instruction) (code : Array Instruction) : Draft := (code.size, code.push i)

def choice (greedy : Bool) (first second : Nat) : Instruction :=
  if greedy then .branch first second else .branch second first

def emitChars : List Char → Emitter
  | [], next, code => (next, code)
  | c :: cs, next, code =>
    let (next, code) := emitChars cs next code
    push (.read (.singleton c) next) code

def emitPlus (greedy : Bool) (body : Emitter) : Emitter := fun next code =>
  let (loop, code) := push (.branch next next) code
  let (entry, code) := body loop code
  (entry, code.setIfInBounds loop (choice greedy entry next))

def emitStar (greedy : Bool) (body : Emitter) : Emitter := fun next code =>
  let (loop, code) := push (.branch next next) code
  let (entry, code) := body loop code
  (loop, code.setIfInBounds loop (choice greedy entry next))

def emitOption (greedy : Bool) (body : Emitter) : Emitter := fun next code =>
  let (entry, code) := body next code
  push (choice greedy entry next) code

def emitTimes (body : Emitter) : Nat → Emitter
  | 0, next, code => (next, code)
  | n + 1, next, code =>
    let (next, code) := body next code
    emitTimes body n next code

def emitAtMost (greedy : Bool) (body : Emitter) (last : Nat) : Nat → Emitter
  | 0, next, code => (next, code)
  | n + 1, next, code =>
    let (entry, code) := body next code
    let (next, code) := push (choice greedy entry last) code
    emitAtMost greedy body last n next code

/-- A repetition. Copies that may be empty are counted apart from the choice to start, so that an
empty copy ends the repetition. -/
def emitRepetition (min : Nat) (max : Option Nat) (greedy readsSome : Bool) (body : Emitter) :
    Emitter := fun next code =>
  match max with
  | none =>
    if min = 0 then
      if readsSome then emitStar greedy body next code
      else emitOption greedy (emitPlus greedy body) next code
    else
      let (next, code) := emitPlus greedy body next code
      emitTimes body (min - 1) next code
  | some max =>
    let (next, code) := emitAtMost greedy body next (max - min) next code
    emitTimes body min next code

mutual

def emit : Expr → Emitter
  | .empty, next, code => (next, code)
  | .literal cs, next, code => emitChars cs next code
  | .set s _, next, code => push (.read s next) code
  | .look l, next, code => push (.test l next) code
  | .repetition min max greedy sub, next, code =>
    emitRepetition min max greedy (sub.minLength.any (0 < ·)) (emit sub) next code
  | .capture _ _ sub, next, code => emit sub next code
  | .concat subs, next, code => emitConcat subs next code
  | .alternation subs, next, code => emitAlternation subs next code

def emitConcat : List Expr → Emitter
  | [], next, code => (next, code)
  | x :: xs, next, code =>
    let (next, code) := emitConcat xs next code
    emit x next code

def emitAlternation : List Expr → Emitter
  | [], next, code => push (.read .empty next) code
  | [x], next, code => emit x next code
  | x :: xs, next, code =>
    let (second, code) := emitAlternation xs next code
    let (first, code) := emit x next code
    push (.branch first second) code

end

def ofExpr (e : Expr) : Program :=
  let (accept, code) := push .accept #[]
  let (entry, code) := emit e accept code
  ⟨code, entry⟩

end Program

inductive PatternError where
  | malformed (f : Fault)
  | tooBig
  deriving DecidableEq, Repr

def PatternError.message (pattern : Text) : PatternError → String
  | .malformed f => f.report pattern
  | .tooBig => "Compiled regex exceeds size limit of " ++ toString Memory.limit ++ " bytes."

def Program.ofPattern (pattern : Text) : Except PatternError Program :=
  match Tree.read pattern >>= Expr.ofTree with
  | .error f => .error (.malformed f)
  | .ok e => if Memory.fits e then .ok (ofExpr e) else .error .tooBig

end StructuralEdit.Regex
