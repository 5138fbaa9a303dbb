import StructuralEdit.Proofs.Command.Paths
import StructuralEdit.Proofs.Evaluation.Execution
import StructuralEdit.Proofs.Walk.Checked
/-!
Functions that call themselves, with a bound on how many of their calls can be open at a time. An
argument says how many there is still room for, and a call for which there is none breaks off. None
does if there is room for each command of a path and for each range of an address. So for all
commands that can be read one bound will do.
-/
namespace StructuralEdit

namespace Bounded

variable {α σ : Type}

def resolve (t : Text) : Nat → Region → Address → Option (Except Failure Region)
  | 0, _, _ => none
  | calls + 1, current, .range a b => do
    match ← resolve t calls current a with
    | .error f => return .error f
    | .ok first =>
      match ← resolve t calls first b with
      | .error f => return .error f
      | .ok second => return .ok (.between first.start second.stop)
  | _ + 1, current, a => some (a.resolve t current)

def renderAddress : Nat → Address → Option Text
  | 0, _ => none
  | _ + 1, .range (.line 0) .finish => some [',']
  | calls + 1, .range a b => do
    let u ← renderAddress calls a
    let v ← renderAddress calls b
    return u ++ ',' :: v
  | _ + 1, a => some a.render

def render : Nat → Command → Option Text
  | 0, _ => none
  | calls + 1, .extract inverse p sub => do
    return (if inverse then 'y' else 'x') :: Command.slashed p.source ++ (← render calls sub)
  | calls + 1, .guard inverse p sub => do
    return (if inverse then 'v' else 'g') :: Command.slashed p.source ++ (← render calls sub)
  | calls + 1, .group members => do
    return '{' :: [' '].intercalate (← members.mapM (render calls)) ++ ['}']
  | calls + 1, .addressed a sub => do
    return (← renderAddress calls a) ++ (← render calls sub)
  | _ + 1, c => some c.render

/-- A run that may break off. -/
abbrev Trial (σ : Type) := Context σ → Option (Except Failure Text × Context σ)

def each (run : α → Trial σ) : List α → Trial σ
  | [], x => some (Run.skip x)
  | a :: as, x => do
    match ← run a x with
    | (.error f, x) => return (.error f, x)
    | (.ok u, x) =>
      match ← each run as x with
      | (.error f, x) => return (.error f, x)
      | (.ok v, x) => return (.ok (u ++ v), x)

def execute (filter : Filter σ) (t : Text) : Nat → Command → Region → Trial σ
  | 0, _, _, _ => none
  | calls + 1, .extract inverse p sub, r, x =>
    each (execute filter t calls sub) (targets t inverse p r) (x.visit (.extract inverse p sub) r)
  | calls + 1, .guard inverse p sub, r, x =>
    let x := x.visit (.guard inverse p sub) r
    if p.occursIn (t.slice r) != inverse then execute filter t calls sub r x
    else some (Run.skip x)
  | calls + 1, .group members, r, x =>
    each (fun c => execute filter t calls c r) members (x.visit (.group members) r)
  | calls + 1, .addressed a sub, r, x => do
    let x := x.visit (.addressed a sub) r
    match ← resolve t calls r a with
    | .ok s => execute filter t calls sub s x
    | .error f => return (.error f, x)
  -- What is left are the commands with no others inside.
  | _ + 1, c, r, x => some (c.execute filter t r x)

def evaluate (calls : Nat) (c : Command) (filter : Filter σ) (t : Text) (r : Region) (s : σ) :
    Option (Except Failure Evaluation × σ) := do
  let (result, x) ← execute filter t calls c r { memory := s }
  return (result.map fun _ => x.evaluation, x.memory)

variable {t : Text} {r : Region} {calls n : Nat}

theorem resolve_eq {a : Address} (room : a.ranges < calls) :
    resolve t calls r a = some (a.resolve t r) := by
  obtain ⟨k, rfl⟩ := Nat.exists_eq_add_one_of_ne_zero (Nat.ne_zero_of_lt room)
  induction a generalizing k r with
  | range a b first second =>
    rw [Address.ranges] at room
    obtain ⟨l, rfl⟩ := Nat.exists_eq_add_one_of_ne_zero (show k ≠ 0 by omega)
    simp only [resolve, Address.resolve, first l (by omega), bind, Option.bind, Except.bind]
    cases a.resolve t r with
    | error f => rfl
    | ok m =>
      simp only [second l (by omega)]
      cases b.resolve t m with
      | error f => rfl
      | ok k => rfl
  | _ => rfl

theorem renderAddress_eq {a : Address} (room : a.ranges < calls) :
    renderAddress calls a = some a.render := by
  obtain ⟨k, rfl⟩ := Nat.exists_eq_add_one_of_ne_zero (Nat.ne_zero_of_lt room)
  induction a generalizing k with
  | range a b first second =>
    by_cases whole : a = .line 0 ∧ b = .finish
    · obtain ⟨rfl, rfl⟩ := whole
      rfl
    · rw [Address.ranges] at room
      obtain ⟨l, rfl⟩ := Nat.exists_eq_add_one_of_ne_zero (show k ≠ 0 by omega)
      rw [renderAddress, first l (by omega), second l (by omega), Address.render_range whole]
      · rfl
      · exact fun ha hb => whole ⟨ha, hb⟩
  | _ => rfl

theorem each_eq {trial : α → Trial σ} {run : α → Run σ} {as : List α} (x : Context σ)
    (h : ∀ a ∈ as, ∀ x, trial a x = some (run a x)) :
    each trial as x = some (Run.each run as x) := by
  induction as generalizing x with
  | nil => rfl
  | cons a as ih =>
    obtain ⟨first, later⟩ := List.forall_mem_cons.1 h
    simp only [each, first, bind, Option.bind, Run.each, Run.andThen]
    rcases run a x with ⟨f | u, y⟩
    · rfl
    · simp only [ih y later]
      rcases Run.each run as y with ⟨f | v, z⟩
      · rfl
      · rfl

end Bounded

namespace Command

theorem renderMembers_eq_intercalate (cs : List Command) :
    renderMembers cs = [' '].intercalate (cs.map render) := by
  induction cs with
  | nil => rfl
  | cons c cs ih =>
    cases cs with
    | nil => simp [renderMembers]
    | cons d cs =>
      rw [renderMembers, ih]
      · simp only [List.map_cons, List.intercalate_cons_cons, List.append_assoc,
          List.singleton_append]
      · exact List.cons_ne_nil d cs

/-- Whether no path in a command has more commands, and no address on it has more ranges, than the
given numbers. -/
structure Fits (c : Command) (commands ranges : Nat) : Prop where
  commands : ∀ rest, c.Path rest → (c :: rest).length ≤ commands
  ranges : ∀ rest a sub, c.Path rest → .addressed a sub ∈ c :: rest → a.ranges ≤ ranges

namespace Fits

variable {c d : Command} {m n : Nat}

theorem pos (h : c.Fits m n) : 0 < m := h.commands [] (.singleton c)

theorem of_mem_parts (h : c.Fits (m + 1) n) (inside : d ∈ c.parts) : d.Fits m n := by
  refine ⟨fun rest path => ?_, fun rest a sub path found => ?_⟩
  · exact Nat.le_of_succ_le_succ (h.commands (d :: rest) (path_cons.2 ⟨inside, path⟩))
  · exact h.ranges (d :: rest) a sub (path_cons.2 ⟨inside, path⟩) (List.mem_cons_of_mem c found)

theorem address_lt {a : Address} {sub : Command} (h : (addressed a sub).Fits (m + 1) n) :
    a.ranges < m + n := by
  -- The command behind an address needs room too, so there is some for the address.
  have few := h.ranges [] a sub (.singleton _) List.mem_cons_self
  have positive := (h.of_mem_parts (List.mem_singleton_self sub)).pos
  omega

end Fits

theorem Shallow.fits {c : Command} (h : c.Shallow) : c.Fits 203 101 := ⟨h.length, h.ranges⟩

end Command

namespace Bounded

variable {α σ : Type} {t : Text} {r : Region} {c : Command} {m n : Nat}

theorem render_eq (h : c.Fits m n) : render (m + n) c = some c.render := by
  induction m generalizing c with
  | zero => exact absurd h.pos (Nat.lt_irrefl 0)
  | succ m ih =>
    rw [Nat.add_right_comm]
    have inner : ∀ d ∈ c.parts, render (m + n) d = some d.render := fun d inside =>
      ih (h.of_mem_parts inside)
    cases c with
    | extract inverse p sub =>
      rw [render, inner sub (List.mem_singleton_self sub)]
      rfl
    | guard inverse p sub =>
      rw [render, inner sub (List.mem_singleton_self sub)]
      rfl
    | group members =>
      have written : members.mapM (render (m + n)) = some (members.map Command.render) :=
        Checked.mapM_eq_map inner
      rw [render, written, Command.render, Command.renderMembers_eq_intercalate]
      rfl
    | addressed a sub =>
      rw [render, renderAddress_eq h.address_lt, inner sub (List.mem_singleton_self sub)]
      rfl
    | _ => rfl

theorem execute_eq (filter : Filter σ) (h : c.Fits m n) (x : Context σ) :
    execute filter t (m + n) c r x = some (c.execute filter t r x) := by
  induction m generalizing c r x with
  | zero => exact absurd h.pos (Nat.lt_irrefl 0)
  | succ m ih =>
    -- One call is used up here; what is inside has shorter paths.
    rw [Nat.add_right_comm]
    have inner : ∀ d ∈ c.parts, ∀ s x, execute filter t (m + n) d s x =
        some (d.execute filter t s x) := fun d inside s x => ih (h.of_mem_parts inside) x
    cases c with
    | extract inverse p sub =>
      rw [execute, Command.execute]
      exact each_eq _ fun s _ => inner sub (List.mem_singleton_self sub) s
    | guard inverse p sub =>
      rw [execute, Command.execute]
      split
      · exact inner sub (List.mem_singleton_self sub) r _
      · rfl
    | group members =>
      rw [execute, Command.execute]
      rw [Command.executeMembers_eq_each]
      exact each_eq _ fun d inside => inner d inside r
    | addressed a sub =>
      rw [execute, Command.execute, resolve_eq h.address_lt]
      simp only [bind, Option.bind]
      cases a.resolve t r with
      | error f => rfl
      | ok s => exact inner sub (List.mem_singleton_self sub) s _
    | _ => rfl

theorem evaluate_eq (filter : Filter σ) (h : c.Fits m n) (s : σ) :
    evaluate (m + n) c filter t r s = some (c.evaluate filter t r s) := by
  rw [evaluate, execute_eq filter h, Command.evaluate_eq_execute]
  rfl

end Bounded

namespace Command

variable {c : Command}

/-- However long the text, a command that is read from it is shallow. So there is a number of open
calls that is enough to evaluate it and to write it out, and another one for its addresses. -/
theorem read_shallow {t : Text} (h : read t = .ok c) :
    c.Shallow ∧
      (∀ (σ : Type) (filter : Filter σ) (u : Text) (r : Region) (s : σ),
        Bounded.evaluate 304 c filter u r s = some (c.evaluate filter u r s)) ∧
      Bounded.render 304 c = some c.render ∧
      ∀ rest a sub, c.Path rest → .addressed a sub ∈ c :: rest →
        (∀ u r, Bounded.resolve u 102 r a = some (a.resolve u r)) ∧
          Bounded.renderAddress 102 a = some a.render := by
  have shallow := shallow_of_read h
  refine ⟨shallow, fun σ filter u r s => Bounded.evaluate_eq filter shallow.fits s,
    Bounded.render_eq shallow.fits, fun rest a sub path found => ?_⟩
  have room : a.ranges < 102 := Nat.lt_succ_of_le (shallow.ranges rest a sub path found)
  exact ⟨fun u r => Bounded.resolve_eq room, Bounded.renderAddress_eq room⟩

def located : Nat → Text
  | 0 => []
  | n + 1 => '.' :: 'x' :: '/' :: '/' :: located n

def tower : Nat → Command
  | 0 => .print
  | n + 1 => .addressed .dot (.extract false emptyPattern (tower n))

def descent : Nat → List Command
  | 0 => []
  | n + 1 => .extract false emptyPattern (tower n) :: tower n :: descent n

theorem path_tower (n : Nat) : (tower n).Path (descent n) := by
  induction n with
  | zero => exact .singleton _
  | succ n ih => exact .cons_cons List.mem_cons_self (.cons_cons List.mem_cons_self ih)

def commas : Nat → Text
  | 0 => [',']
  | n + 1 => '.' :: ',' :: commas n

def chained : Nat → Address
  | 0 => .wholeText
  | n + 1 => .range .dot (chained n)

def deepestText : Text := commas 100 ++ ['x', '/', '/'] ++ located 100

def deepest : Command := .addressed (chained 100) (.extract false emptyPattern (tower 100))

set_option maxRecDepth 4000 in
/-- All the bounds can be reached, by one and the same command. -/
theorem read_shallow_deepest : read deepestText = .ok deepest ∧ deepest.Shallow ∧
    Bounded.render 304 deepest = some deepest.render ∧ deepest.Path (descent 101) ∧
    (deepest :: descent 101).countP nests = 101 ∧ (deepest :: descent 101).length = 203 ∧
    (chained 100).ranges = 101 := by
  have done : read deepestText = .ok deepest := rfl
  obtain ⟨shallow, -, written, -⟩ := read_shallow done
  refine ⟨done, shallow, written, ?_, rfl, rfl, rfl⟩
  exact .cons_cons List.mem_cons_self (.cons_cons List.mem_cons_self (path_tower 100))

end Command

end StructuralEdit
