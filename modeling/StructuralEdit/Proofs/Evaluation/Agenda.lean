import StructuralEdit.Walk
/-!
What there is to do for a command: the commands to run, the addresses to look for and the filters
to call, in the order of the walk. The agenda of a command lists all of them, as if nothing stopped
the walk, and is reached up to the first search in it that finds nothing.
-/
namespace StructuralEdit

variable {t : Text} {r : Region}

def Address.found? (t : Text) (r : Region) : Direction → Pattern → Option Region
  | .forward, p => searchForward t p (t.clamp r.stop)
  | .backward, p => searchBackward t p (t.clamp r.start)

theorem Address.resolve_search (t : Text) (r : Region) (d : Direction) (p : Pattern) :
    (Address.search d p).resolve t r =
      (found? t r d p).elim (.error (.notFound p.source)) .ok := by
  cases d with
  | forward =>
    rw [resolve, found?]
    cases searchForward t p (t.clamp r.stop) <;> rfl
  | backward =>
    rw [resolve, found?]
    cases searchBackward t p (t.clamp r.start) <;> rfl

theorem Address.resolve_range (t : Text) (r : Region) (a b : Address) :
    (Address.range a b).resolve t r =
      match a.resolve t r with
      | .ok s => (b.resolve t s).map fun u => .between s.start u.stop
      | .error f => .error f := by
  rw [resolve]
  cases a.resolve t r with
  | error f => rfl
  | ok s =>
    cases landed : b.resolve t s <;>
      simp [bind, Except.bind, pure, Except.pure, Except.map, landed]

/-- One thing to do in a walk. -/
inductive Action where
  | command (c : Command) (r : Region)
  | address (a : Address) (r : Region)
  | call (f u : Text)

namespace Action

def missed? (t : Text) : Action → Option Failure
  | .address (.search d p) r =>
    if (Address.found? t r d p).isNone then some (.notFound p.source) else none
  | _ => none

def call? : Action → Option (Text × Text)
  | .call f u => some (f, u)
  | _ => none

/-- The actions up to the first search that finds nothing, and that one. -/
def reached (t : Text) (es : List Action) : List Action :=
  es.take (es.findIdx (fun e => (e.missed? t).isSome) + 1)

/-- The failure of the first search that finds nothing. -/
def stop? (t : Text) (es : List Action) : Option Failure := es.findSome? (missed? t)

variable {es fs : List Action}

theorem stop?_cons_of_none {e : Action} (h : e.missed? t = none) :
    stop? t (e :: es) = stop? t es := by
  rw [stop?, List.findSome?_cons, h, stop?]

theorem reached_cons (e : Action) (es : List Action) :
    reached t (e :: es) = if (e.missed? t).isSome then [e] else e :: reached t es := by
  rw [reached, List.findIdx_cons]
  cases (e.missed? t).isSome <;> rfl

theorem reached_cons_of_none {e : Action} (h : e.missed? t = none) :
    reached t (e :: es) = e :: reached t es := by
  rw [reached_cons, h]
  rfl

theorem stop?_append : stop? t (es ++ fs) = (stop? t es).or (stop? t fs) :=
  List.findSome?_append

theorem stop?_eq_none_iff : stop? t es = none ↔ ∀ e ∈ es, e.missed? t = none :=
  List.findSome?_eq_none_iff

theorem reached_append :
    reached t (es ++ fs) =
      if (stop? t es).isSome then reached t es else reached t es ++ reached t fs := by
  induction es with
  | nil => rfl
  | cons e es ih =>
    rw [List.cons_append, reached_cons, reached_cons, ih]
    cases missed : e.missed? t with
    | some f => simp [stop?, missed]
    | none =>
      rw [stop?_cons_of_none missed]
      cases stop? t es <;> rfl

theorem reached_of_none (h : ∀ e ∈ es, e.missed? t = none) : reached t es = es := by
  have nowhere : es.findIdx (fun e => (e.missed? t).isSome) = es.length := by
    apply List.findIdx_eq_length.mpr
    intro e he
    rw [h e he]
    rfl
  rw [reached, nowhere, List.take_of_length_le (Nat.le_succ _)]

theorem reached_of_some {before later : List Action} {e : Action}
    (h : ∀ x ∈ before, x.missed? t = none) (missed : (e.missed? t).isSome) :
    reached t (before ++ e :: later) = before ++ [e] := by
  have free : stop? t before = none := stop?_eq_none_iff.mpr h
  rw [reached_append, free, reached_of_none h, reached_cons, if_pos missed]
  rfl

theorem missed?_eq_some {e : Action} {f : Failure} (h : e.missed? t = some f) :
    ∃ d p q, e = .address (.search d p) q ∧ Address.found? t q d p = none ∧
      f = .notFound p.source := by
  rcases e with ⟨c, q⟩ | ⟨a, q⟩ | ⟨g, u⟩
  · cases h
  · cases a with
    | search d p =>
      rw [missed?] at h
      split at h
      · next nowhere =>
        exact ⟨d, p, q, rfl, Option.isNone_iff_eq_none.mp nowhere, (Option.some.inj h).symm⟩
      · cases h
    | _ => cases h
  · cases h

end Action

/-- All that there is to do for an address. The end of a range is looked for if its start is
found. -/
def Address.agenda (t : Text) : Address → Region → List Action
  | .range a b, r =>
    .address (.range a b) r :: agenda t a r ++
      match a.resolve t r with
      | .ok s => agenda t b s
      | .error _ => []
  | a, r => [.address a r]

namespace Command

mutual

def agenda (t : Text) (c : Command) (r : Region) : List Action :=
  .command c r ::
    match c with
    | .filter f => [.call f (t.slice r)]
    | .extract inverse p sub => (targets t inverse p r).flatMap (agenda t sub)
    | .guard inverse p sub => if p.occursIn (t.slice r) != inverse then agenda t sub r else []
    | .group members => agendaMembers t members r
    | .addressed a sub =>
      a.agenda t r ++
        match a.resolve t r with
        | .ok s => agenda t sub s
        | .error _ => []
    | _ => []

def agendaMembers (t : Text) : List Command → Region → List Action
  | [], _ => []
  | c :: cs, r => agenda t c r ++ agendaMembers t cs r

end

theorem agendaMembers_eq_flatMap (cs : List Command) (r : Region) :
    agendaMembers t cs r = cs.flatMap fun c => c.agenda t r := by
  induction cs with
  | nil => rfl
  | cons c cs ih => rw [agendaMembers, ih, List.flatMap_cons]

end Command

/-- An address that does not resolve has the failure at which its agenda stops. -/
theorem Address.stop?_agenda (t : Text) (a : Address) (r : Region) :
    Action.stop? t (a.agenda t r) =
      match a.resolve t r with
      | .ok _ => none
      | .error f => some f := by
  induction a generalizing r with
  | search d p =>
    rw [resolve_search]
    cases found : found? t r d p with
    | some m => simp [agenda, Action.stop?, Action.missed?, found]
    | none => simp [agenda, Action.stop?, Action.missed?, found]
  | range a b first second =>
    have start := first r
    rw [agenda, Action.stop?_append, Action.stop?_cons_of_none rfl, resolve_range, start]
    cases landed : a.resolve t r with
    | error f => rfl
    | ok s =>
      have stop := second s
      simp only [stop, Option.none_or]
      cases b.resolve t s <;> rfl
  | _ => rfl

theorem Address.agenda_silent (t : Text) (a : Address) (r : Region) :
    ∀ e ∈ a.agenda t r, e.call? = none := by
  induction a generalizing r with
  | range a b first second =>
    intro e he
    rw [agenda, List.cons_append] at he
    rcases List.mem_cons.mp he with rfl | inside
    · rfl
    · rcases List.mem_append.mp inside with start | stop
      · exact first r e start
      · split at stop
        · next s _ => exact second s e stop
        · cases stop
  | _ =>
    intro e he
    rw [List.mem_singleton.mp he]
    rfl

/-- An address in which nothing is searched for. -/
inductive Address.SearchFree : Address → Prop
  | dot : SearchFree .dot
  | finish : SearchFree .finish
  | char (n : Nat) : SearchFree (.char n)
  | line (n : Nat) : SearchFree (.line n)
  | range {a b : Address} : SearchFree a → SearchFree b → SearchFree (.range a b)

inductive Command.SearchFree : Command → Prop
  | print : SearchFree .print
  | delete : SearchFree .delete
  | change (u : Text) : SearchFree (.change u)
  | append (u : Text) : SearchFree (.append u)
  | insert (u : Text) : SearchFree (.insert u)
  | filter (f : Text) : SearchFree (.filter f)
  | extract {inverse : Bool} {p : Pattern} {sub : Command} : SearchFree sub →
      SearchFree (.extract inverse p sub)
  | guard {inverse : Bool} {p : Pattern} {sub : Command} : SearchFree sub →
      SearchFree (.guard inverse p sub)
  | group {members : List Command} : (∀ c ∈ members, SearchFree c) → SearchFree (.group members)
  | addressed {a : Address} {sub : Command} : a.SearchFree → SearchFree sub →
      SearchFree (.addressed a sub)

theorem Address.SearchFree.resolve_ok {a : Address} (h : a.SearchFree) (t : Text) (r : Region) :
    ∃ s, a.resolve t r = .ok s := by
  induction h generalizing r with
  | range _ _ first second =>
    obtain ⟨s, start⟩ := first r
    obtain ⟨u, stop⟩ := second s
    refine ⟨.between s.start u.stop, ?_⟩
    simp only [resolve_range, start, stop, Except.map]
  | _ => exact ⟨_, rfl⟩

end StructuralEdit
