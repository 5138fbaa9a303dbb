import StructuralEdit.Proofs.Change.Application
/-!
Changes in another order. Whether changes can be made, and what is said if they cannot, depends on
their regions alone, and those are put in order first. So the order in which changes are found
plays a part only for changes of one region, and if all of them can be made, these are insertions
at one place.
-/
namespace StructuralEdit.Change

variable {t : Text} {cs ds : List Change}

def firstConflict? (t : Text) (limit : Nat) : List Region → Option Conflict
  | [] => none
  | r :: rs =>
    if r.stop < r.start ∨ limit < r.stop then some (.overlap r.start r.stop)
    else if t.isBoundary r.start ∧ t.isBoundary r.stop then firstConflict? t r.start rs
    else some (.splitsCharacter r.start r.stop)

theorem applyBackward_eq_error_iff (limit : Nat) (tail : Text) (why : Conflict) :
    applyBackward t limit tail cs = .error why ↔
      firstConflict? t limit (cs.map region) = some why := by
  induction cs generalizing limit tail with
  | nil => simp [applyBackward, firstConflict?]
  | cons c cs ih =>
    simp only [applyBackward, List.map_cons, firstConflict?, region_start, region_stop]
    by_cases outside : c.stop < c.start ∨ limit < c.stop
    · simp [outside]
    · by_cases whole : t.isBoundary c.start ∧ t.isBoundary c.stop
      · simpa only [outside, whole, and_self, if_true, if_false] using ih _ _
      · simp [outside, whole]

def Comes (q r : Region) : Prop := q.start < r.start ∨ q.start = r.start ∧ q.stop ≤ r.stop

theorem Comes.antisymm {q r : Region} (h : Comes q r) (k : Comes r q) : q = r := by
  rcases q with ⟨a, b⟩
  rcases r with ⟨c, d⟩
  simp only [Comes, Region.mk.injEq] at *
  omega

theorem Arranged.regions_sorted (h : Arranged cs ds) : (ds.map region).Pairwise Comes :=
  List.pairwise_map.mpr h.sorted

theorem map_region_ordered (h : ds.Perm cs) :
    (ordered ds).map region = (ordered cs).map region := by
  have first := ordered_arranged ds
  have second := ordered_arranged cs
  have perm : (ordered ds).Perm (ordered cs) := first.perm.trans (h.trans second.perm.symm)
  exact (perm.map region).eq_of_pairwise (fun _ _ _ _ => Comes.antisymm) first.regions_sorted
    second.regions_sorted

theorem applyAll_eq_error_iff_of_perm (h : ds.Perm cs) (why : Conflict) :
    applyAll t ds = .error why ↔ applyAll t cs = .error why := by
  rw [applyAll, applyAll, applyBackward_eq_error_iff, applyBackward_eq_error_iff,
    List.map_reverse, List.map_reverse, map_region_ordered h]

theorem eq_of_map_region_eq (regions : ds.map region = cs.map region)
    (ties : ∀ r : Region, ds.filter (·.region = r) = cs.filter (·.region = r)) : ds = cs := by
  induction ds generalizing cs with
  | nil => exact (List.map_eq_nil_iff.mp regions.symm).symm
  | cons d ds ih =>
    obtain ⟨c, cs, rfl, same, later⟩ := List.map_eq_cons_iff.mp regions.symm
    have here := ties d.region
    simp only [List.filter_cons, same, decide_true, if_true, List.cons.injEq] at here
    obtain ⟨rfl, -⟩ := here
    have rest : ∀ r : Region, ds.filter (·.region = r) = cs.filter (·.region = r) := by
      intro r
      have both := ties r
      by_cases here : d.region = r
      · simpa [here] using both
      · simpa [here] using both
    rw [ih later.symm rest]

theorem ordered_eq_of_perm (h : ds.Perm cs)
    (ties : ∀ r : Region, ds.filter (·.region = r) = cs.filter (·.region = r)) :
    ordered ds = ordered cs := by
  refine eq_of_map_region_eq (map_region_ordered h) fun r => ?_
  rw [(ordered_arranged ds).stable, (ordered_arranged cs).stable, ties]

theorem applyAll_eq_of_ties (h : ds.Perm cs)
    (ties : ∀ r : Region, ds.filter (·.region = r) = cs.filter (·.region = r)) :
    applyAll t ds = applyAll t cs := by
  rw [applyAll, applyAll, ordered_eq_of_perm h ties]

theorem filter_region_eq_of_perm (h : ds.Perm cs) {r : Region}
    (alike : cs.Pairwise fun c d => c.region = r → d.region = r → c = d) :
    ds.filter (·.region = r) = cs.filter (·.region = r) := by
  have perm := h.filter fun c => c.region = r
  have same : (cs.filter (·.region = r)).Pairwise (· = ·) := by
    refine (alike.filter _).imp_of_mem fun {c d} hc hd equal => ?_
    exact equal (by simpa using (List.mem_filter.mp hc).2)
      (by simpa using (List.mem_filter.mp hd).2)
  have other := same.perm perm.symm Eq.symm
  exact perm.eq_of_pairwise (fun _ _ _ _ equal _ => equal) other same

/-- Of changes that can be made, those of one region are insertions. -/
theorem Compatible.isEmpty_of_region_eq (h : Compatible t cs) :
    cs.Pairwise fun c d => c.region = d.region → c.region.isEmpty := by
  refine h.apart.imp_of_mem fun {c d} hc _ apart same => ?_
  have le : c.start ≤ c.stop := (h.valid c hc).1
  have starts : c.start = d.start := congrArg Region.start same
  have stops : c.stop = d.stop := congrArg Region.stop same
  have equal : c.start = c.stop := by
    unfold Overlaps at apart
    omega
  exact decide_eq_true equal

theorem Compatible.ties (h : Compatible t cs) (perm : ds.Perm cs)
    (insertions : ∀ n, ds.filter (·.region = .point n) = cs.filter (·.region = .point n))
    (r : Region) : ds.filter (·.region = r) = cs.filter (·.region = r) := by
  by_cases empty : r.isEmpty
  · have point : r = .point r.start := by
      rcases r with ⟨start, stop⟩
      simp only [Region.isEmpty, decide_eq_true_eq] at empty
      rw [Region.point, empty]
    rw [point]
    exact insertions r.start
  · refine filter_region_eq_of_perm perm (h.isEmpty_of_region_eq.imp fun insertion hc hd => ?_)
    rw [hc, hd] at insertion
    exact absurd (insertion rfl) empty

/-- Changes in another order fail if and only if they did before, with the same conflict, which is
internal. If those of each region keep their order, and even if only the insertions at each place
do, they make the same text; for if changes can be made at all, those that share a region are
insertions. -/
theorem applyAll_perm (h : ds.Perm cs) (t : Text) :
    (∀ why, applyAll t ds = .error why ↔ applyAll t cs = .error why) ∧
    (∀ a b : Evaluation, a.changes = ds → b.changes = cs →
      ∀ f, (a.apply t = .error f ↔ b.apply t = .error f) ∧ (a.apply t = .error f → f.isInternal)) ∧
    ((∀ r : Region, ds.filter (·.region = r) = cs.filter (·.region = r)) →
      applyAll t ds = applyAll t cs) ∧
    ((∀ n, ds.filter (·.region = .point n) = cs.filter (·.region = .point n)) →
      applyAll t ds = applyAll t cs) ∧
    ((∃ u, applyAll t cs = .ok u) →
      cs.Pairwise fun c d => c.region = d.region → c.region.isEmpty) := by
  have refused := applyAll_eq_error_iff_of_perm (t := t) h
  refine ⟨refused, ?_, applyAll_eq_of_ties h, ?_, ?_⟩
  · rintro a b rfl rfl f
    have applied : ∀ e : Evaluation,
        e.apply t = .error f ↔ ∃ why, applyAll t e.changes = .error why ∧ f = .conflict why := by
      intro e
      rw [Evaluation.apply]
      cases applyAll t e.changes with
      | ok u => simp
      | error why => simp [eq_comm]
    constructor
    · rw [applied, applied]
      exact exists_congr fun why => and_congr_left fun _ => refused why
    · intro failed
      obtain ⟨why, -, rfl⟩ := (applied a).mp failed
      rfl
  · intro insertions
    cases result : applyAll t cs with
    | error why => exact (refused why).mpr result
    | ok u =>
      -- What shares a region can only be insertions, so their order is all that matters.
      have compatible := (applyAll_eq_ok_iff.mp result).1
      rw [applyAll_eq_of_ties h (compatible.ties h insertions), result]
  · rintro ⟨u, made⟩
    exact (applyAll_eq_ok_iff.mp made).1.isEmpty_of_region_eq

theorem applyAll_perm_insertions :
    [replace ⟨1, 2⟩ ['y'], insert 1 ['v'], insert 1 ['w']].Perm
        [insert 1 ['v'], insert 1 ['w'], replace ⟨1, 2⟩ ['y']] ∧
      applyAll ['a', 'b', 'c'] [replace ⟨1, 2⟩ ['y'], insert 1 ['v'], insert 1 ['w']] =
        .ok ['a', 'v', 'w', 'y', 'c'] ∧
      applyAll ['a', 'b', 'c'] [replace ⟨1, 2⟩ ['y'], insert 1 ['w'], insert 1 ['v']] =
        .ok ['a', 'w', 'v', 'y', 'c'] := by
  have perm : ∀ x y : Char, [replace ⟨1, 2⟩ ['y'], insert 1 [x], insert 1 [y]].Perm
      [insert 1 [x], insert 1 [y], replace ⟨1, 2⟩ ['y']] := by
    intro x y
    have turned : ([replace ⟨1, 2⟩ ['y']] ++ [insert 1 [x], insert 1 [y]]).Perm
        ([insert 1 [x], insert 1 [y]] ++ [replace ⟨1, 2⟩ ['y']]) := List.perm_append_comm
    exact turned
  have made : ∀ x y : Char, applyAll ['a', 'b', 'c']
      [replace ⟨1, 2⟩ ['y'], insert 1 [x], insert 1 [y]] = .ok ['a', x, y, 'y', 'c'] := by
    intro x y
    obtain ⟨-, -, -, same, -⟩ := applyAll_perm (perm x y) ['a', 'b', 'c']
    have arranged : [insert 1 [x], insert 1 [y], replace ⟨1, 2⟩ ['y']].Pairwise
        fun c d => c.precedes d := by
      simp [precedes, insert, replace, Region.point]
    rw [same, applyAll, ordered_eq_self arranged]
    · rfl
    · intro n
      by_cases here : n = 1
      · simp [replace, insert, region, Region.point, here]
      · simp [replace, insert, region, Region.point, Ne.symm here]
  exact ⟨perm 'v' 'w', made 'v' 'w', made 'w' 'v'⟩

end StructuralEdit.Change
