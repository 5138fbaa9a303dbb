import StructuralEdit.Proofs.Walk.Tiling
/-!
The matches in a region and the gaps between them in the order of their places. Each one starts
where the one before it stops, the first where the region starts, and the last one stops where the
region stops. Two of them have the same region only if both are matches or both are gaps.
-/
namespace StructuralEdit

open Region (Sequence)

structure Piece where
  inverse : Bool
  region : Region
  deriving DecidableEq, Repr

def Piece.gap (a b : Nat) : List Piece := if a = b then [] else [⟨true, ⟨a, b⟩⟩]

def layoutFrom (last stop : Nat) : List Region → List Piece
  | [] => Piece.gap last stop
  | m :: ms => Piece.gap last m.start ++ ⟨false, m⟩ :: layoutFrom m.stop stop ms

/-- The matches of a pattern in a region and the gaps between them, from the left. Without a match
the region is the only gap, also if it is empty. -/
def layout (t : Text) (p : Pattern) (r : Region) : List Piece :=
  if (matchesInRegion t p r).isEmpty then [⟨true, r⟩]
  else layoutFrom r.start r.stop (matchesInRegion t p r)

/-- Regions one after the other without a space between them. Some may be empty. -/
def Region.Joined : Nat → List Region → Nat → Prop
  | here, [], stop => here = stop
  | here, r :: rs, stop => r.start = here ∧ r.start ≤ r.stop ∧ Joined r.stop rs stop

open Region (Joined)

variable {t : Text} {p : Pattern} {r : Region} {ms rs : List Region} {a b here stop : Nat}

theorem Region.Joined.sequence (h : Joined here rs stop) : Sequence here rs stop := by
  induction rs generalizing here with
  | nil => exact Nat.le_of_eq h
  | cons r rs ih => exact ⟨Nat.le_of_eq h.1.symm, h.2.1, ih h.2.2⟩

theorem joined_gap {qs : List Piece} (le : a ≤ b) (h : Joined b (qs.map Piece.region) stop) :
    Joined a ((Piece.gap a b ++ qs).map Piece.region) stop := by
  by_cases empty : a = b
  · subst empty
    simpa [Piece.gap] using h
  · simp only [Piece.gap, if_neg empty, List.singleton_append, List.map_cons]
    exact ⟨rfl, le, h⟩

theorem joined_layoutFrom (h : Sequence here ms stop) :
    Joined here ((layoutFrom here stop ms).map Piece.region) stop := by
  induction ms generalizing here with
  | nil =>
    have last : Joined stop (([] : List Piece).map Piece.region) stop := rfl
    have gap := joined_gap h last
    rwa [List.append_nil] at gap
  | cons m ms ih =>
    obtain ⟨before, le, later⟩ := h
    exact joined_gap before ⟨rfl, le, ih later⟩

theorem joined_layout (hr : t.Valid r) :
    Joined r.start ((layout t p r).map Piece.region) r.stop := by
  have sequence := matchesInRegion_sequence (p := p) hr
  rw [layout]
  split
  · exact ⟨rfl, hr.1, rfl⟩
  · exact joined_layoutFrom sequence

theorem filter_gap_matches (a b : Nat) : (Piece.gap a b).filter (·.inverse = false) = [] := by
  by_cases empty : a = b
  · simp [Piece.gap, empty]
  · simp [Piece.gap, empty]

theorem filter_gap_gaps (le : a ≤ b) :
    (Piece.gap a b).filter (·.inverse = true) =
      ([Region.between a b].filter (!·.isEmpty)).map (⟨true, ·⟩) := by
  rw [Region.between_of_le le]
  by_cases empty : a = b
  · simp [Piece.gap, empty, Region.isEmpty]
  · simp [Piece.gap, empty, Region.isEmpty]

theorem filter_layoutFrom_matches (here stop : Nat) (ms : List Region) :
    (layoutFrom here stop ms).filter (·.inverse = false) = ms.map (⟨false, ·⟩) := by
  induction ms generalizing here with
  | nil => exact filter_gap_matches here stop
  | cons m ms ih =>
    rw [layoutFrom, List.filter_append, filter_gap_matches, List.filter_cons_of_pos rfl, ih]
    rfl

theorem filter_layoutFrom_gaps (h : Sequence here ms stop) :
    (layoutFrom here stop ms).filter (·.inverse = true) =
      ((stretches here stop ms).filter (!·.isEmpty)).map (⟨true, ·⟩) := by
  induction ms generalizing here with
  | nil => exact filter_gap_gaps h
  | cons m ms ih =>
    obtain ⟨before, -, later⟩ := h
    have first : stretches here stop (m :: ms) =
        [Region.between here m.start] ++ stretches m.stop stop ms := rfl
    have skipped : (⟨false, m⟩ :: layoutFrom m.stop stop ms).filter (·.inverse = true) =
        (layoutFrom m.stop stop ms).filter (·.inverse = true) := rfl
    rw [layoutFrom, List.filter_append, filter_gap_gaps before, skipped, ih later, first,
      List.filter_append, List.map_append]

theorem filter_layout (hr : t.Valid r) (inverse : Bool) :
    (layout t p r).filter (·.inverse = inverse) =
      (targets t inverse p r).map (⟨inverse, ·⟩) := by
  have sequence := matchesInRegion_sequence (p := p) hr
  rw [layout, targets]
  by_cases none : (matchesInRegion t p r).isEmpty
  · have no : matchesInRegion t p r = [] := List.isEmpty_iff.mp none
    cases inverse with
    | false => simp [no]
    | true => simp [no, gaps]
  · rw [if_neg none]
    cases inverse with
    | false => exact filter_layoutFrom_matches r.start r.stop _
    | true =>
      rw [filter_layoutFrom_gaps sequence]
      simp only [if_true, gaps, if_neg none]

theorem occupied_gap {q : Piece} (hq : q ∈ Piece.gap a b) : q.region.start ≠ q.region.stop := by
  by_cases empty : a = b
  · simp [Piece.gap, empty] at hq
  · simp only [Piece.gap, if_neg empty, List.mem_singleton] at hq
    subst hq
    exact empty

theorem occupied_layoutFrom : ∀ q ∈ layoutFrom here stop ms, q.inverse →
    q.region.start ≠ q.region.stop := by
  induction ms generalizing here with
  | nil => exact fun q hq _ => occupied_gap hq
  | cons m ms ih =>
    intro q hq inverse
    rcases List.mem_append.mp hq with hq | hq
    · exact occupied_gap hq
    · rcases List.mem_cons.mp hq with rfl | hq
      · cases inverse
      · exact ih q hq inverse

theorem layout_alike (hr : t.Valid r) :
    (layout t p r).Pairwise fun q k => q.region = k.region → q = k := by
  have sequence := (joined_layout (p := p) hr).sequence
  rw [layout] at sequence ⊢
  split
  · exact List.pairwise_singleton _ _
  · next some =>
    rw [if_neg some] at sequence
    obtain ⟨-, bounds, apart⟩ := Region.sequence_iff.mp sequence
    refine (List.pairwise_map.mp apart).imp_of_mem fun {q k} hq hk before same => ?_
    -- The first one stops before the second one starts, so the region of both is empty.
    have empty : q.region.start = q.region.stop := by
      have le := (bounds q.region (List.mem_map_of_mem hq)).2.1
      rw [← same] at before
      omega
    have matched : ∀ l ∈ layoutFrom r.start r.stop (matchesInRegion t p r),
        l.region = q.region → l.inverse = false := by
      intro l hl here
      cases gap : l.inverse with
      | false => rfl
      | true => exact absurd (here ▸ empty) (occupied_layoutFrom l hl gap)
    rcases q with ⟨first, region⟩
    rcases k with ⟨second, _⟩
    obtain rfl : first = false := matched _ hq rfl
    obtain rfl : second = false := matched _ hk same.symm
    rw [show region = _ from same]

/-- The pieces in the order in which two extractions come to them, one of which works on matches
and the other one on gaps. -/
def turns (t : Text) (p : Pattern) (r : Region) (first : Bool) : List Piece :=
  [first, !first].flatMap fun inverse => (targets t inverse p r).map (⟨inverse, ·⟩)

theorem turns_valid (hr : t.Valid r) (first : Bool) :
    ∀ q ∈ turns t p r first, t.Valid q.region := by
  intro q hq
  obtain ⟨inverse, -, hq⟩ := List.mem_flatMap.mp hq
  obtain ⟨m, hm, rfl⟩ := List.mem_map.mp hq
  exact targets_valid hr m hm

theorem turns_perm (hr : t.Valid r) (first : Bool) : (turns t p r first).Perm (layout t p r) := by
  have other : ∀ q : Piece, decide (q.inverse = !first) = !decide (q.inverse = first) := by
    intro q
    cases q.inverse <;> cases first <;> rfl
  simp only [turns, ← filter_layout hr, List.flatMap_cons, List.flatMap_nil, List.append_nil, other]
  exact List.filter_append_perm _ _

end StructuralEdit
