import StructuralEdit.Proofs.Evaluation.Calls
import StructuralEdit.Proofs.Evaluation.Safety
/-!
A command without addresses sees only its region. Its walk from a region is the walk from the
whole of what the region covers, moved to where the region starts, and so is its evaluation. The
proof compares the walks in a text and in a slice of it, for every region of the slice: slices of
the slice are slices of the text, and places move along with them.
-/
namespace StructuralEdit

variable {σ : Type} {t : Text} {r m : Region} {n : Nat}

theorem Region.shift_shift (r : Region) (a b : Nat) : (r.shift a).shift b = r.shift (a + b) := by
  simp [shift, Nat.add_assoc]

theorem Region.between_shift (a b n : Nat) :
    Region.between (a + n) (b + n) = (Region.between a b).shift n := by
  simp only [between, shift, Region.mk.injEq, true_and]
  omega

theorem Region.isEmpty_shift (r : Region) (n : Nat) : (r.shift n).isEmpty = r.isEmpty := by
  simp [isEmpty, shift]

def Change.shift (c : Change) (n : Nat) : Change := ⟨c.start + n, c.stop + n, c.text⟩

def Step.shift (n : Nat) : Step → Step
  | .print r => .print (r.shift n)
  | .edit c => .edit (c.shift n)
  | .filter f r => .filter f (r.shift n)

def Walk.shift (w : Walk) (n : Nat) : Walk := ⟨w.steps.map (Step.shift n), w.failure⟩

def Evaluation.shift (e : Evaluation) (n : Nat) : Evaluation :=
  { e with changes := e.changes.map (·.shift n) }

theorem stretches_shift (last stop : Nat) (ms : List Region) :
    stretches (last + n) (stop + n) (ms.map (·.shift n)) =
      (stretches last stop ms).map (·.shift n) := by
  induction ms generalizing last with
  | nil => simp [stretches, Region.between_shift]
  | cons m ms ih =>
    have later := ih m.stop
    simp only [List.map_cons, stretches, Region.shift, Region.between_shift] at later ⊢
    rw [later]

theorem gaps_shift (r : Region) (ms : List Region) :
    gaps (r.shift n) (ms.map (·.shift n)) = (gaps r ms).map (·.shift n) := by
  have between := stretches_shift (n := n) r.start r.stop ms
  rw [gaps, gaps, List.isEmpty_map]
  split
  · rfl
  · simp only [Region.shift] at between
    simp only [Region.shift, between, List.filter_map]
    congr 1
    exact List.filter_congr fun g _ => congrArg _ (Region.isEmpty_shift g n)

theorem matchesInRegion_shift {p : Pattern} (hr : t.Valid r) (hm : (t.slice r).Valid m) :
    matchesInRegion t p (m.shift r.start) =
      (matchesInRegion (t.slice r) p m).map (·.shift r.start) := by
  have start : (m.shift r.start).start = m.start + r.start := rfl
  rw [matchesInRegion, matchesInRegion, List.map_map, Text.slice_slice hr hm, start]
  exact List.map_congr_left fun k _ => (Region.shift_shift k m.start r.start).symm

theorem targets_shift {inverse : Bool} {p : Pattern} (hr : t.Valid r)
    (hm : (t.slice r).Valid m) :
    targets t inverse p (m.shift r.start) =
      (targets (t.slice r) inverse p m).map (·.shift r.start) := by
  rw [targets, targets, matchesInRegion_shift hr hm]
  cases inverse with
  | false => rfl
  | true => exact gaps_shift m _

namespace Walk

theorem shift_andThen (v w : Walk) : (v.andThen w).shift n = (v.shift n).andThen (w.shift n) := by
  rcases v with ⟨steps, failure⟩
  cases failure with
  | none => simp [andThen, shift]
  | some f => simp [andThen, shift]

theorem each_map (walk : β → Walk) (f : α → β) (xs : List α) :
    each walk (xs.map f) = each (fun x => walk (f x)) xs := by
  induction xs with
  | nil => rfl
  | cons x xs ih => simp only [List.map_cons, each, ih]

theorem each_shift {walk plain : α → Walk} {xs : List α}
    (h : ∀ x ∈ xs, walk x = (plain x).shift n) : each walk xs = (each plain xs).shift n := by
  induction xs with
  | nil => rfl
  | cons x xs ih =>
    obtain ⟨first, later⟩ := List.forall_mem_cons.mp h
    have failure : ((plain x).shift n).failure = (plain x).failure := rfl
    simp only [each, first, ih later, failure]
    split
    · rfl
    · exact (shift_andThen _ _).symm

theorem failure_each {walk : α → Walk} {xs : List α} (h : ∀ x ∈ xs, (walk x).failure = none) :
    (each walk xs).failure = none := by
  rw [each_of_failure_eq_none h]

end Walk

namespace Command

/-- Commands with no address anywhere in them. -/
inductive AddressFree : Command → Prop
  | print : AddressFree .print
  | delete : AddressFree .delete
  | change (u : Text) : AddressFree (.change u)
  | append (u : Text) : AddressFree (.append u)
  | insert (u : Text) : AddressFree (.insert u)
  | filter (f : Text) : AddressFree (.filter f)
  | extract (inverse : Bool) (p : Pattern) {sub : Command} :
      AddressFree sub → AddressFree (.extract inverse p sub)
  | guard (inverse : Bool) (p : Pattern) {sub : Command} :
      AddressFree sub → AddressFree (.guard inverse p sub)
  | group {members : List Command} : (∀ c ∈ members, AddressFree c) →
      AddressFree (.group members)

variable {c : Command}

theorem AddressFree.walk_succeeds (hc : c.AddressFree) (r : Region) :
    (c.walk t r).failure = none := by
  -- Only an address can fail.
  induction hc generalizing r with
  | extract inverse p _ ih =>
    rw [walk]
    exact Walk.failure_each fun m _ => ih m
  | guard inverse p _ ih =>
    rw [walk]
    split
    · exact ih r
    · rfl
  | group _ ih =>
    rw [walk, walkMembers_eq_each]
    exact Walk.failure_each fun c hc => ih c hc r
  | _ => rfl

theorem AddressFree.walk_shift (hc : c.AddressFree) (hr : t.Valid r)
    (hm : (t.slice r).Valid m) :
    c.walk t (m.shift r.start) = (c.walk (t.slice r) m).shift r.start := by
  induction hc generalizing m with
  | extract inverse p _ ih =>
    rw [walk, walk, targets_shift hr hm, Walk.each_map]
    exact Walk.each_shift fun k hk => ih (targets_valid hm k hk)
  | guard inverse p _ ih =>
    rw [walk, walk, Text.slice_slice hr hm]
    split
    · exact ih hm
    · rfl
  | group _ ih =>
    rw [walk, walk, walkMembers_eq_each, walkMembers_eq_each]
    exact Walk.each_shift fun c hc => ih c hc hm
  | _ => rfl

end Command

theorem Region.shift_whole_slice (hr : t.Valid r) : (t.slice r).whole.shift r.start = r := by
  have size := Text.size_slice hr
  simp only [Text.whole, shift, Nat.add_comm _ r.start, Nat.add_zero, size]

namespace Evaluation

variable {filter : Filter σ}

theorem shift_append (a b : Evaluation) :
    (a.append b).shift n = (a.shift n).append (b.shift n) := by
  simp [append, shift]

theorem ofStep_shift (hr : t.Valid r) {step : Step} (h : (t.slice r).Valid step.region) (s : σ) :
    ofStep filter t s (step.shift r.start) =
      ((ofStep filter (t.slice r) s step).1.shift r.start,
        (ofStep filter (t.slice r) s step).2) := by
  cases step with
  | print m =>
    have same := Text.slice_slice (m := m) hr h
    simp only [Step.shift, ofStep, ← same]
    rfl
  | edit c => rfl
  | filter f m =>
    have same := Text.slice_slice (m := m) hr h
    simp only [Step.shift, ofStep, ← same]
    rcases filter f ((t.slice r).slice m) s with ⟨u | e, s'⟩ <;> rfl

theorem ofSteps_shift (filter : Filter σ) (hr : t.Valid r) {steps : List Step}
    (h : ∀ step ∈ steps, (t.slice r).Valid step.region) (s : σ) :
    ofSteps filter t s (steps.map (Step.shift r.start)) =
      ((ofSteps filter (t.slice r) s steps).1.shift r.start,
        (ofSteps filter (t.slice r) s steps).2) := by
  induction steps generalizing s with
  | nil => rfl
  | cons step steps ih =>
    obtain ⟨first, later⟩ := List.forall_mem_cons.mp h
    simp only [List.map_cons, ofSteps, ofStep_shift hr first, ih later, shift_append]

end Evaluation

namespace Command

variable {c : Command}

theorem AddressFree.evaluate_shift (hc : c.AddressFree) (hr : t.Valid r) (filter : Filter σ)
    (s : σ) :
    ∃ e s', c.evaluate filter (t.slice r) (t.slice r).whole s = (.ok e, s') ∧
      c.evaluate filter t r s = (.ok (e.shift r.start), s') ∧
      ∀ d ∈ e.changes, (t.slice r).Valid d.region := by
  have whole := Text.valid_whole (t.slice r)
  have valid := walk_valid (c := c) whole
  have moved : c.walk t r = (c.walk (t.slice r) (t.slice r).whole).shift r.start := by
    rw [← hc.walk_shift hr whole, Region.shift_whole_slice hr]
  have changes := Evaluation.ofSteps_valid filter valid s
  have steps := Evaluation.ofSteps_shift filter hr valid s
  rcases collected : Evaluation.ofSteps filter (t.slice r) s
    (c.walk (t.slice r) (t.slice r).whole).steps with ⟨e, s'⟩
  rw [collected] at changes steps
  refine ⟨e, s', ?_, ?_, changes⟩
  · rw [evaluate, collected, hc.walk_succeeds]
    rfl
  · rw [evaluate, moved, Walk.shift, hc.walk_succeeds, steps]
    rfl

/-- An evaluation of a command without addresses succeeds and is that of what its region covers,
but for the places of the changes, which are moved to where the region starts. The filters are
called with the same commands and inputs, so they remember the same. All changes lie in the
region, and another text that agrees in it gives the same. -/
theorem evaluate_local (hc : c.AddressFree) (hr : t.Valid r) (filter : Filter σ) (s : σ) :
    ∃ e s' calls,
      c.evaluate filter.logged (t.slice r) (t.slice r).whole ⟨s, []⟩ = (.ok e, ⟨s', calls⟩) ∧
      c.evaluate filter.logged t r ⟨s, []⟩ = (.ok (e.shift r.start), ⟨s', calls⟩) ∧
      c.evaluate filter t r s = (.ok (e.shift r.start), s') ∧
      (∀ d ∈ (e.shift r.start).changes,
        r.start ≤ d.start ∧ d.start ≤ d.stop ∧ d.stop ≤ r.stop) ∧
      ∀ u : Text, u.Valid r → u.slice r = t.slice r →
        c.evaluate filter.logged u r ⟨s, []⟩ = c.evaluate filter.logged t r ⟨s, []⟩ := by
  obtain ⟨e, m, inSlice, inText, valid⟩ := hc.evaluate_shift hr filter.logged ⟨s, []⟩
  refine ⟨e, m.state, m.calls, inSlice, inText, ?_, ?_, ?_⟩
  · have same := evaluate_logged c filter t r ⟨s, []⟩
    rw [inText] at same
    have result := congrArg Prod.fst same
    have state := congrArg (fun x => x.2.state) same
    exact Prod.ext result.symm state.symm
  · intro d hd
    obtain ⟨k, hk, rfl⟩ := List.mem_map.mp hd
    have inside := Text.valid_shift hr (valid k hk)
    have size := Text.size_slice hr
    have stop := Text.isBoundary_le (valid k hk).2.2
    have le := (valid k hk).1
    simp only [Change.region, Change.shift] at stop le ⊢
    omega
  · intro u hu agree
    -- The other text has the same slice, so both evaluations are those of the slice.
    obtain ⟨e', m', inSlice', inText', -⟩ := hc.evaluate_shift hu filter.logged ⟨s, []⟩
    rw [agree, inSlice] at inSlice'
    cases inSlice'
    rw [inText, inText']

def betweenCommas : Command :=
  .group [.extract true comma (.filter "sort".toList), .guard false comma .print]

theorem betweenCommas_addressFree : betweenCommas.AddressFree := by
  refine .group fun c hc => ?_
  rcases List.mem_cons.mp hc with rfl | hc
  · exact .extract true comma (.filter _)
  · cases List.mem_singleton.mp hc
    exact .guard false comma .print

theorem evaluate_local_accents :
    ∃ e calls, betweenCommas.evaluate (Filter.logged fun _ w s => (.ok w, s)) ",aé".toList
        ⟨0, 4⟩ ⟨(), []⟩ = (.ok e, ⟨(), calls⟩) ∧
      betweenCommas.evaluate (Filter.logged fun _ w s => (.ok w, s)) "é,aé".toList
        ⟨2, 6⟩ ⟨(), []⟩ = (.ok (e.shift 2), ⟨(), calls⟩) ∧
      betweenCommas.evaluate (Filter.logged fun _ w s => (.ok w, s)) "zz,aé,".toList
        ⟨2, 6⟩ ⟨(), []⟩ = (.ok (e.shift 2), ⟨(), calls⟩) := by
  have valid : Text.Valid "é,aé".toList ⟨2, 6⟩ := by decide +kernel
  have agree : Text.slice "zz,aé,".toList ⟨2, 6⟩ = Text.slice "é,aé".toList ⟨2, 6⟩ := by
    decide +kernel
  obtain ⟨e, _, calls, part, inText, -, -, other⟩ := evaluate_local betweenCommas_addressFree
    valid (fun _ w s => (.ok w, s)) ()
  refine ⟨e, calls, part, inText, ?_⟩
  exact (other "zz,aé,".toList (by decide +kernel) agree).trans inText

end Command

end StructuralEdit
