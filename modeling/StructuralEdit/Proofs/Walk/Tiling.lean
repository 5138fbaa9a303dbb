import StructuralEdit.Proofs.Walk.Backward
import StructuralEdit.Proofs.Walk.Targets
/-!
Matches and gaps. What an extraction works on and what its inverse works on make up the region: the
matches that are not empty and the gaps, in the order of their starts, follow one another without a
space from its start to its stop. No match reaches into a gap.
-/
namespace StructuralEdit

open Region (Sequence)

/-- Regions that are not empty, one after the other and without a space between them. -/
def Region.Tiles : Nat → List Region → Nat → Prop
  | here, [], stop => here = stop
  | here, r :: rs, stop => r.start = here ∧ r.start < r.stop ∧ Tiles r.stop rs stop

open Region (Tiles)

def pieces (last stop : Nat) : List Region → List Region
  | [] => [.between last stop]
  | m :: ms => .between last m.start :: m :: pieces m.stop stop ms

def tilesOf (rs : List Region) : List Region :=
  (rs.filter fun r => !r.isEmpty).mergeSort fun q r => q.start ≤ r.start

variable {t : Text} {p : Pattern} {r : Region} {rs qs ms : List Region} {here stop : Nat}

theorem Region.Tiles.ascending (h : Tiles here rs stop) :
    rs.Pairwise (fun q r => q.start < r.start) ∧ ∀ r ∈ rs, here ≤ r.start := by
  induction rs generalizing here with
  | nil => simp
  | cons q rs ih =>
    obtain ⟨rfl, lt, later⟩ := h
    obtain ⟨sorted, behind⟩ := ih later
    constructor
    · refine .cons (fun r hr => ?_) sorted
      have := behind r hr
      omega
    · intro r hr
      rcases List.mem_cons.mp hr with rfl | hr
      · exact Nat.le_refl _
      · have := behind r hr
        omega

theorem Region.Tiles.eq_of_start_eq {q : Region} (h : Tiles here rs stop) (hq : q ∈ rs)
    (hr : r ∈ rs) (same : q.start = r.start) : q = r := by
  induction rs generalizing here with
  | nil => cases hq
  | cons k rs ih =>
    have behind : ∀ m ∈ rs, k.start < m.start := (List.pairwise_cons.mp h.ascending.1).1
    rcases List.mem_cons.mp hq with first | later
    · rcases List.mem_cons.mp hr with rfl | other
      · exact first
      · have := behind r other
        rw [first] at same
        omega
    · rcases List.mem_cons.mp hr with first | other
      · have := behind q later
        rw [first] at same
        omega
      · exact ih h.2.2 later other

theorem mergeSort_eq_of_tiles (perm : qs.Perm rs) (h : Tiles here rs stop) :
    (qs.mergeSort fun q r => q.start ≤ r.start) = rs := by
  let le (q r : Region) : Bool := q.start ≤ r.start
  have sorted : (qs.mergeSort le).Pairwise fun q r => le q r :=
    List.pairwise_mergeSort (fun a b c => by simp only [le, decide_eq_true_eq]; omega)
      (fun a b => by simp only [le, Bool.or_eq_true, decide_eq_true_eq]; omega) qs
  have arranged : rs.Pairwise fun q r => le q r :=
    h.ascending.1.imp fun lt => decide_eq_true (Nat.le_of_lt lt)
  have same : (qs.mergeSort le).Perm rs := (List.mergeSort_perm qs le).trans perm
  refine List.Perm.eq_of_pairwise (fun q r hq hr before behind => ?_) sorted arranged same
  exact h.eq_of_start_eq (same.mem_iff.mp hq) hr
    (Nat.le_antisymm (of_decide_eq_true before) (of_decide_eq_true behind))

theorem tiles_filter_cons (le : r.start ≤ r.stop)
    (h : Tiles r.stop (rs.filter fun q => !q.isEmpty) stop) :
    Tiles r.start ((r :: rs).filter fun q => !q.isEmpty) stop := by
  by_cases empty : r.start = r.stop
  · have left : ¬(!r.isEmpty) = true := by simp [Region.isEmpty, empty]
    rw [List.filter_cons, if_neg left, empty]
    exact h
  · have stays : (!r.isEmpty) = true := by simp [Region.isEmpty, empty]
    rw [List.filter_cons, if_pos stays]
    exact ⟨rfl, by omega, h⟩

theorem tiles_pieces (h : Sequence here ms stop) :
    Tiles here ((pieces here stop ms).filter fun q => !q.isEmpty) stop := by
  induction ms generalizing here with
  | nil =>
    rw [pieces, Region.between_of_le h]
    exact tiles_filter_cons (r := ⟨here, stop⟩) h rfl
  | cons m ms ih =>
    obtain ⟨before, le, later⟩ := h
    rw [pieces, Region.between_of_le before]
    exact tiles_filter_cons (r := ⟨here, m.start⟩) before (tiles_filter_cons le (ih later))

theorem pieces_perm (here stop : Nat) (ms : List Region) :
    (ms ++ stretches here stop ms).Perm (pieces here stop ms) := by
  induction ms generalizing here with
  | nil => exact .refl _
  | cons m ms ih => exact List.perm_middle.trans (.cons _ (.cons m (ih m.stop)))

theorem stretches_sequence (h : Sequence here ms stop) :
    Sequence here (stretches here stop ms) stop := by
  induction ms generalizing here with
  | nil =>
    rw [stretches, Region.between_of_le h]
    exact ⟨Nat.le_refl here, h, Nat.le_refl stop⟩
  | cons m ms ih =>
    obtain ⟨before, le, later⟩ := h
    rw [stretches, Region.between_of_le before]
    exact ⟨Nat.le_refl here, before, (ih later).of_le le⟩

theorem stretches_apart (h : Sequence here ms stop) :
    ∀ m ∈ ms, ∀ g ∈ stretches here stop ms, m.stop ≤ g.start ∨ g.stop ≤ m.start := by
  induction ms generalizing here with
  | nil => simp
  | cons k ms ih =>
    obtain ⟨before, le, later⟩ := h
    intro m hm g hg
    rw [stretches, Region.between_of_le before] at hg
    rcases List.mem_cons.mp hg with rfl | hg
    · rcases List.mem_cons.mp hm with rfl | hm
      · exact Or.inr (Nat.le_refl _)
      · have := later.bounds m hm
        exact Or.inr (by simp only; omega)
    · rcases List.mem_cons.mp hm with rfl | hm
      · exact Or.inl ((stretches_sequence later).bounds g hg).1
      · exact ih later m hm g hg

theorem filter_gaps (le : r.start ≤ r.stop) :
    (gaps r ms).filter (fun q => !q.isEmpty) =
      (stretches r.start r.stop ms).filter fun q => !q.isEmpty := by
  -- Also where there is no match, the gaps that are not empty are the stretches that are not.
  cases ms with
  | nil =>
    rw [stretches, Region.between_of_le le]
    rfl
  | cons m ms =>
    simp only [gaps, List.isEmpty_cons, Bool.false_eq_true, if_false, List.filter_filter,
      Bool.and_self]

theorem mem_gaps {g : Region} (hg : g ∈ gaps r ms) :
    ms = [] ∧ g = r ∨ ms ≠ [] ∧ g ∈ stretches r.start r.stop ms ∧ g.isEmpty = false := by
  cases ms with
  | nil => exact Or.inl ⟨rfl, List.mem_singleton.mp hg⟩
  | cons m ms => exact Or.inr ⟨by simp, by simpa [gaps] using hg⟩

theorem gaps_sequence (le : r.start ≤ r.stop) (h : Sequence r.start ms r.stop) :
    Sequence r.start (gaps r ms) r.stop := by
  cases ms with
  | nil => exact ⟨Nat.le_refl _, le, Nat.le_refl _⟩
  | cons m ms =>
    obtain ⟨_, bounds, apart⟩ := Region.sequence_iff.mp (stretches_sequence h)
    have kept : gaps r (m :: ms) =
        (stretches r.start r.stop (m :: ms)).filter fun g => !g.isEmpty := rfl
    rw [kept]
    refine Region.sequence_iff.mpr ⟨le, fun g hg => ?_, apart.filter _⟩
    exact bounds g (List.mem_filter.mp hg).1

/-- The matches `found` and the gaps `spaces` make up a region of a text. -/
structure Partitions (t : Text) (r : Region) (found spaces : List Region) : Prop where
  tiles : Tiles r.start (tilesOf (found ++ spaces)) r.stop
  inside : ∀ m ∈ found ++ spaces, t.Valid m ∧ r.start ≤ m.start ∧ m.stop ≤ r.stop
  ascending : spaces.Pairwise fun g h => g.stop ≤ h.start
  occupied : found ≠ [] → ∀ g ∈ spaces, g.isEmpty = false
  whole : found = [] → spaces = [r]
  apart : ∀ m ∈ found, ∀ g ∈ spaces, ¬g.Surrounds m.start ∧ ¬g.Surrounds m.stop

/-- The matches of a pattern in a valid region and the gaps between them make up the region. -/
theorem matches_gaps_partition (p : Pattern) (hr : t.Valid r) :
    Partitions t r (matchesInRegion t p r) (gaps r (matchesInRegion t p r)) := by
  have valid := matchesInRegion_valid (p := p) hr
  have sequence := matchesInRegion_sequence (p := p) hr
  have spaces := gaps_sequence hr.1 sequence
  generalize hms : matchesInRegion t p r = ms at *
  constructor
  case tiles =>
    -- Matches and gaps are the pieces in another order, which sorting undoes.
    have perm : ((ms ++ gaps r ms).filter fun q => !q.isEmpty).Perm
        ((pieces r.start r.stop ms).filter fun q => !q.isEmpty) := by
      rw [List.filter_append, filter_gaps hr.1, ← List.filter_append]
      exact (pieces_perm r.start r.stop ms).filter _
    have tiles := tiles_pieces sequence
    rw [tilesOf, mergeSort_eq_of_tiles perm tiles]
    exact tiles
  case inside =>
    intro m hm
    rcases List.mem_append.mp hm with hm | hm
    · have := sequence.bounds m hm
      exact ⟨valid m hm, this.1, this.2.2⟩
    · have := spaces.bounds m hm
      refine ⟨gaps_valid (p := p) hr m ?_, this.1, this.2.2⟩
      rwa [hms]
  case ascending => exact (Region.sequence_iff.mp spaces).2.2
  case occupied =>
    intro some g hg
    rcases mem_gaps hg with ⟨none, -⟩ | ⟨-, -, occupied⟩
    · exact absurd none some
    · exact occupied
  case whole =>
    rintro rfl
    rfl
  case apart =>
    intro m hm g hg
    rcases mem_gaps hg with ⟨rfl, -⟩ | ⟨-, stretch, -⟩
    · cases hm
    · have le := (sequence.bounds m hm).2.1
      rcases stretches_apart sequence m hm g stretch with before | behind
      · exact ⟨fun around => by have := around.1; omega, fun around => by have := around.1; omega⟩
      · exact ⟨fun around => by have := around.2; omega, fun around => by have := around.2; omega⟩

def lettersB : Pattern :=
  ⟨"b*".toList, ⟨#[.accept, .branch 2 0, .read ⟨[(98, 98)]⟩ 1], 1⟩, rfl⟩

theorem partition_lettersB :
    Text.Valid "bbéabb".toList ⟨1, 7⟩ ∧
      Partitions "bbéabb".toList ⟨1, 7⟩ [⟨1, 2⟩, ⟨4, 4⟩, ⟨5, 7⟩] [⟨2, 4⟩, ⟨4, 5⟩] := by
  have valid : Text.Valid "bbéabb".toList ⟨1, 7⟩ := by decide
  have found : matchesInRegion "bbéabb".toList lettersB ⟨1, 7⟩ = [⟨1, 2⟩, ⟨4, 4⟩, ⟨5, 7⟩] := by
    decide +kernel
  have partition := matches_gaps_partition lettersB valid
  rw [found] at partition
  exact ⟨valid, partition⟩

end StructuralEdit
