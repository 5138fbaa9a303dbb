import StructuralEdit.Proofs.Walk.Regions
/-!
The walk of a command as a machine with all its checks makes it: a text is cut only at boundaries
that are in order, a sum of offsets stays below a limit, and every region that is given to a
command, searched, found, or stands for an address is valid. The checked walk breaks off at the
first check that fails. None fails if the walk starts at a valid region and the text is smaller
than the limit.
-/
namespace StructuralEdit.Checked

def region (t : Text) (r : Region) : Option Region := if t.Valid r then some r else none

def slice (t : Text) (r : Region) : Option Text := (region t r).map t.slice

def sum (limit a b : Nat) : Option Nat := if a + b < limit then some (a + b) else none

def shift (limit : Nat) (r : Region) (base : Nat) : Option Region := do
  return ⟨← sum limit r.start base, ← sum limit r.stop base⟩

def afterChar (limit : Nat) (t : Text) (n : Nat) : Option (Option Nat) := do
  match (← slice t ⟨n, t.size⟩).head? with
  | some c => return some (← sum limit n c.utf8Size)
  | none => return none

def matchesFrom (limit : Nat) (p : Pattern) (t : Text) :
    Nat → Nat → Option Nat → Option (List Region)
  | 0, _, _ => some []
  | bound + 1, cursor, lastStop =>
    match p.find? t cursor with
    | none => some []
    | some found => do
      let m ← region t found
      let rest ←
        if m.isEmpty then do
          match ← afterChar limit t m.stop with
          | some next => matchesFrom limit p t bound next (some m.stop)
          | none => some []
        else matchesFrom limit p t bound m.stop (some m.stop)
      return if m.isEmpty ∧ lastStop = some m.start then rest else m :: rest

def matchesInRegion (limit : Nat) (t : Text) (p : Pattern) (r : Region) :
    Option (List Region) := do
  let w ← slice t r
  let found ← matchesFrom limit p w (w.size + 1) 0 none
  found.mapM fun m => shift limit m r.start

def targets (limit : Nat) (t : Text) (inverse : Bool) (p : Pattern) (r : Region) :
    Option (List Region) := do
  let found ← matchesInRegion limit t p r
  return if inverse then gaps r found else found

def resolve (t : Text) (current : Region) : Address → Option (Except Failure Region)
  | .range a b => do
    match ← resolve t current a with
    | .error f => return .error f
    | .ok first =>
      match ← resolve t first b with
      | .error f => return .error f
      | .ok second => return .ok (← region t (.between first.start second.stop))
  | a =>
    match a.resolve t current with
    | .ok r => (region t r).map .ok
    | .error f => some (.error f)

def each (walk : α → Option Walk) : List α → Option Walk
  | [] => some {}
  | x :: xs => do
    let v ← walk x
    if v.failure.isSome then return v else return v.andThen (← each walk xs)

mutual

/-- The walk of a command. Its region is checked first, whatever the command is. -/
def walk (limit : Nat) (t : Text) : Command → Region → Option Walk
  | .extract inverse p sub, r => do
    each (walk limit t sub) (← targets limit t inverse p (← region t r))
  | .guard inverse p sub, r => do
    if p.occursIn (← slice t r) != inverse then walk limit t sub r else return {}
  | .group members, r => do
    walkMembers limit t members (← region t r)
  | .addressed a sub, r => do
    match ← resolve t (← region t r) a with
    | .ok s => walk limit t sub s
    | .error f => return { failure := some f }
  | c, r => (region t r).map (c.walk t)

def walkMembers (limit : Nat) (t : Text) : List Command → Region → Option Walk
  | [], _ => some {}
  | c :: cs, r => do
    let v ← walk limit t c r
    if v.failure.isSome then return v else return v.andThen (← walkMembers limit t cs r)

end

variable {limit : Nat} {t : Text} {r : Region}

theorem region_eq (h : t.Valid r) : region t r = some r := if_pos h

theorem slice_eq (h : t.Valid r) : slice t r = some (t.slice r) := by
  rw [slice, region_eq h, Option.map_some]

theorem sum_eq {a b : Nat} (h : a + b < limit) : sum limit a b = some (a + b) := if_pos h

theorem shift_eq {n : Nat} (hstart : r.start + n < limit) (hstop : r.stop + n < limit) :
    shift limit r n = some (r.shift n) := by
  simp only [shift, sum_eq hstart, sum_eq hstop]
  rfl

theorem afterChar_eq {n : Nat} (h : t.isBoundary n) (hl : t.size < limit) :
    afterChar limit t n = some (Pattern.afterChar? t n) := by
  have valid : t.Valid ⟨n, t.size⟩ := ⟨Text.isBoundary_le h, h, Text.isBoundary_size t⟩
  obtain ⟨u, v, rfl, rfl⟩ := Text.isBoundary_iff.mp h
  simp only [afterChar, slice_eq valid, Text.slice_size, Text.dropBytes_left, Pattern.afterChar?]
  cases v with
  | nil => rfl
  | cons c v =>
    have inside : u.size + c.utf8Size < limit := by
      simp only [Text.size_append, Text.size_cons] at hl
      omega
    simp only [List.head?_cons, bind, Option.bind, sum_eq inside]
    rfl

theorem matchesFrom_eq {p : Pattern} (hl : t.size < limit) (bound cursor : Nat)
    (last : Option Nat) :
    matchesFrom limit p t bound cursor last = some (p.matchesFrom t bound cursor last) := by
  induction bound generalizing cursor last with
  | zero => rfl
  | succ bound ih =>
    rw [matchesFrom, Pattern.matchesFrom]
    cases found : p.find? t cursor with
    | none => rfl
    | some m =>
      have valid := (Pattern.find?_eq_some found).1
      simp only [region_eq valid, afterChar_eq valid.2.2 hl, ih, bind, Option.bind]
      by_cases empty : m.isEmpty
      · cases Pattern.afterChar? t m.stop with
        | none => simp [empty]
        | some next => simp [empty]
      · simp [empty]

theorem mapM_eq_map {f : α → Option β} {g : α → β} {xs : List α} (h : ∀ x ∈ xs, f x = some (g x)) :
    xs.mapM f = some (xs.map g) := by
  induction xs with
  | nil => rfl
  | cons x xs ih =>
    obtain ⟨first, later⟩ := List.forall_mem_cons.mp h
    simp only [List.mapM_cons, first, ih later, List.map_cons]
    rfl

theorem matchesInRegion_eq {p : Pattern} (hr : t.Valid r) (hl : t.size < limit) :
    matchesInRegion limit t p r = some (StructuralEdit.matchesInRegion t p r) := by
  have size := Text.size_slice hr
  have stop := Text.isBoundary_le hr.2.2
  have small : (t.slice r).size < limit := by omega
  have moved : ∀ m ∈ p.matchesIn (t.slice r), shift limit m r.start = some (m.shift r.start) := by
    intro m hm
    have valid := Pattern.matchesIn_valid m hm
    have le := valid.1
    have inside := Text.isBoundary_le valid.2.2
    exact shift_eq (by omega) (by omega)
  simp only [matchesInRegion, slice_eq hr, matchesFrom_eq small, bind, Option.bind]
  exact mapM_eq_map moved

theorem targets_eq {inverse : Bool} {p : Pattern} (hr : t.Valid r) (hl : t.size < limit) :
    targets limit t inverse p r = some (StructuralEdit.targets t inverse p r) := by
  simp only [targets, matchesInRegion_eq hr hl]
  rfl

theorem resolve_eq {a : Address} (hr : t.Valid r) : resolve t r a = some (a.resolve t r) := by
  induction a generalizing r with
  | range a b first second =>
    simp only [resolve, Address.resolve, first hr, bind, Option.bind, Except.bind]
    cases start : a.resolve t r with
    | error f => rfl
    | ok q =>
      have hq := Address.resolve_valid hr start
      simp only [second hq]
      cases stop : b.resolve t q with
      | error f => rfl
      | ok k =>
        have hk := Address.resolve_valid hq stop
        simp only [region_eq (Text.valid_between hq.2.1 hk.2.2)]
        rfl
  | _ =>
    unfold resolve
    split
    · next m found =>
      rw [region_eq (Address.resolve_valid hr found), found]
      rfl
    · next f failed => rw [failed]

theorem each_eq {walk : α → Option Walk} {plain : α → Walk} {xs : List α}
    (h : ∀ x ∈ xs, walk x = some (plain x)) : each walk xs = some (Walk.each plain xs) := by
  induction xs with
  | nil => rfl
  | cons x xs ih =>
    obtain ⟨first, later⟩ := List.forall_mem_cons.mp h
    simp only [each, Walk.each, first, ih later, bind, Option.bind]
    split <;> rfl

theorem walkMembers_eq_each (cs : List Command) :
    walkMembers limit t cs r = each (fun c => walk limit t c r) cs := by
  induction cs with
  | nil => rw [walkMembers, each]
  | cons c cs ih => simp only [walkMembers, each, ih]

/-- No check fails in a walk from a valid region of a text that is smaller than the limit. -/
theorem walk_eq {c : Command} (hr : t.Valid r) (hl : t.size < limit) :
    walk limit t c r = some (c.walk t r) := by
  induction c using Command.induction generalizing r with
  | extract inverse p sub ih =>
    simp only [walk, Command.walk, region_eq hr, targets_eq hr hl, bind, Option.bind]
    exact each_eq fun m hm => ih (targets_valid hr m hm)
  | guard inverse p sub ih =>
    simp only [walk, Command.walk, slice_eq hr, bind, Option.bind]
    split
    · exact ih hr
    · rfl
  | group members ih =>
    simp only [walk, Command.walk, region_eq hr, bind, Option.bind]
    rw [walkMembers_eq_each, Command.walkMembers_eq_each]
    exact each_eq fun c hc => ih c hc hr
  | addressed a sub ih =>
    simp only [walk, Command.walk, region_eq hr, resolve_eq hr, bind, Option.bind]
    cases found : a.resolve t r with
    | error f => rfl
    | ok m => exact ih (Address.resolve_valid hr found)
  | _ => simp only [walk, region_eq hr, Option.map_some]

end StructuralEdit.Checked
