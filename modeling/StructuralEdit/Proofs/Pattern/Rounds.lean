import StructuralEdit.Proofs.Pattern.Scan
import StructuralEdit.Proofs.Pattern.Search
/-!
All matches in a text, found in two ways. One goes in rounds with a cursor: behind an empty match
it moves on by one character, and an empty match that stands where the match before it stops is
left out. The other is a scan, which always goes on where the match before stops, and looks again
from one byte further on where that gives such an empty match. Both find the same matches in the
same order, and both end.
-/
namespace StructuralEdit

/-- The region `m` starts where `q` stops or behind that, and behind that if it is empty. -/
def Region.Follows (q m : Region) : Prop := q.stop ≤ m.start ∧ (m.isEmpty → q.stop < m.start)

theorem Region.isEmpty_iff {m : Region} : m.isEmpty ↔ m.start = m.stop := decide_eq_true_iff

theorem Region.shift_inj {q m : Region} {base : Nat} : q.shift base = m.shift base ↔ q = m := by
  constructor
  · intro same
    obtain ⟨start, stop⟩ := mk.inj same
    cases q
    cases m
    rw [mk.injEq]
    exact ⟨Nat.add_right_cancel start, Nat.add_right_cancel stop⟩
  · rintro rfl
    rfl

theorem Region.Follows.shift {q m : Region} (h : q.Follows m) (base : Nat) :
    (q.shift base).Follows (m.shift base) := by
  refine ⟨Nat.add_le_add_right h.1 base, fun empty => Nat.add_lt_add_right (h.2 ?_) base⟩
  rw [isEmpty_iff, Region.shift] at empty
  exact isEmpty_iff.mpr (Nat.add_right_cancel empty)

namespace Pattern

/-- Where the next round starts, if this one has found `m`; none if there is no next one. -/
def cursorAfter? (t : Text) (m : Region) : Option Nat :=
  if m.isEmpty then afterChar? t m.stop else some m.stop

def reported (last : Option Nat) (m : Region) : List Region :=
  if m.isEmpty ∧ last = some m.start then [] else [m]

/-- The rounds from a cursor on, where the match before it stops at `last`, with the cursors of all
rounds and what they report. There is no bound on their number. -/
inductive Rounds (p : Pattern) (t : Text) : Nat → Option Nat → List Nat → List Region → Prop
  | missed {cursor : Nat} {last : Option Nat} : p.find? t cursor = none →
      Rounds p t cursor last [cursor] []
  | ended {cursor : Nat} {last : Option Nat} {m : Region} : p.find? t cursor = some m →
      cursorAfter? t m = none → Rounds p t cursor last [cursor] (reported last m)
  | next {cursor k : Nat} {last : Option Nat} {m : Region} {cursors : List Nat}
      {found : List Region} : p.find? t cursor = some m → cursorAfter? t m = some k →
      Rounds p t k (some m.stop) cursors found →
      Rounds p t cursor last (cursor :: cursors) (reported last m ++ found)

/-- The matches of a scan from byte `n` on, where the match before it stops at `last`. There is no
bound on their number. -/
inductive Scans (p : Pattern) (t : Text) : Nat → Option Nat → List Region → Prop
  | done {n : Nat} {last : Option Nat} : p.nextMatch? t n last = none → Scans p t n last []
  | next {n : Nat} {last : Option Nat} {m : Region} {found : List Region} :
      p.nextMatch? t n last = some m → Scans p t m.stop (some m.stop) found →
      Scans p t n last (m :: found)

variable {p : Pattern} {t : Text} {m : Region} {n k cursor bound : Nat} {last : Option Nat}
  {cursors : List Nat} {found others : List Region}

/-! ### Rounds -/

theorem lt_of_cursorAfter? (hm : p.find? t cursor = some m) (next : cursorAfter? t m = some k) :
    cursor < k := by
  obtain ⟨valid, behind⟩ := find?_eq_some hm
  have le := valid.1
  rw [cursorAfter?] at next
  by_cases empty : m.isEmpty
  · rw [if_pos empty] at next
    have := lt_of_afterChar? next
    omega
  · rw [if_neg empty] at next
    rw [Region.isEmpty_iff] at empty
    obtain rfl : m.stop = k := Option.some.inj next
    omega

theorem isBoundary_of_cursorAfter? (hm : p.find? t cursor = some m)
    (next : cursorAfter? t m = some k) : t.isBoundary k := by
  have stop := (find?_eq_some hm).1.2.2
  rw [cursorAfter?] at next
  by_cases empty : m.isEmpty
  · rw [if_pos empty] at next
    exact isBoundary_of_afterChar? stop next
  · rw [if_neg empty] at next
    obtain rfl : m.stop = k := Option.some.inj next
    exact stop

theorem Rounds.cursors_grow (h : p.Rounds t cursor last cursors found) (inside : cursor ≤ t.size) :
    cursors.Pairwise (· < ·) ∧ ∀ c ∈ cursors, cursor ≤ c ∧ c ≤ t.size := by
  induction h with
  | missed _ => simpa using inside
  | ended _ _ => simpa using inside
  | next hm after _ ih =>
    have lt := lt_of_cursorAfter? hm after
    obtain ⟨grow, bounds⟩ := ih (Text.isBoundary_le (isBoundary_of_cursorAfter? hm after))
    constructor
    · refine List.pairwise_cons.mpr ⟨fun c hc => ?_, grow⟩
      have := (bounds c hc).1
      omega
    · intro c hc
      rcases List.mem_cons.mp hc with rfl | later
      · exact ⟨Nat.le_refl _, inside⟩
      · have := bounds c later
        omega

theorem matchesFrom_succ (hm : p.find? t cursor = some m) :
    p.matchesFrom t (bound + 1) cursor last = reported last m ++
      (cursorAfter? t m).elim [] fun k => p.matchesFrom t bound k (some m.stop) := by
  rw [matchesFrom, hm]
  dsimp only
  by_cases empty : m.isEmpty
  · have after : cursorAfter? t m = afterChar? t m.stop := if_pos empty
    rw [after, if_pos empty, reported]
    by_cases touching : m.isEmpty ∧ last = some m.start
    · rw [if_pos touching, if_pos touching]
      cases afterChar? t m.stop with
      | none => rfl
      | some k => rfl
    · rw [if_neg touching, if_neg touching]
      cases afterChar? t m.stop with
      | none => rfl
      | some k => rfl
  · have after : cursorAfter? t m = some m.stop := if_neg empty
    have apart : ¬(m.isEmpty ∧ last = some m.start) := fun both => empty both.1
    rw [after, if_neg empty, reported, if_neg apart, if_neg apart]
    rfl

theorem rounds_matchesFrom (enough : t.size < cursor + bound) :
    ∃ cursors, p.Rounds t cursor last cursors (p.matchesFrom t bound cursor last) := by
  -- The bound is never reached, as it counts the places that the cursor can still go to.
  induction bound generalizing cursor last with
  | zero => exact ⟨_, .missed (find?_of_size_lt enough)⟩
  | succ bound ih =>
    cases hm : p.find? t cursor with
    | none =>
      rw [matchesFrom, hm]
      exact ⟨_, .missed hm⟩
    | some m =>
      rw [matchesFrom_succ hm]
      cases after : cursorAfter? t m with
      | none =>
        rw [Option.elim_none, List.append_nil]
        exact ⟨_, .ended hm after⟩
      | some k =>
        have lt := lt_of_cursorAfter? hm after
        obtain ⟨cursors, rounds⟩ : ∃ cursors, p.Rounds t k (some m.stop) cursors
            (p.matchesFrom t bound k (some m.stop)) := ih (by omega)
        exact ⟨_, .next hm after rounds⟩

/-! ### Scans -/

theorem Scans.unique (h : p.Scans t n last found) (h' : p.Scans t n last others) :
    found = others := by
  induction h generalizing others with
  | done none =>
    cases h' with
    | done _ => rfl
    | next some _ => cases none.symm.trans some
  | next some _ ih =>
    cases h' with
    | done none => cases none.symm.trans some
    | next other later =>
      obtain rfl := Option.some.inj (some.symm.trans other)
      rw [ih later]

theorem nextMatch?_behind (hm : p.nextMatch? t n last = some m) (le : k ≤ n)
    (stop : last = some k) :
    n ≤ m.start ∧ (m.isEmpty → k < m.start) := by
  unfold nextMatch? at hm
  split at hm
  · cases hm
  · next q found =>
    split at hm
    · have behind := (find?_eq_some hm).2
      exact ⟨by omega, fun _ => by omega⟩
    · next apart =>
      obtain rfl : q = m := Option.some.inj hm
      have behind := (find?_eq_some found).2
      refine ⟨behind, fun empty => ?_⟩
      have ends := Region.isEmpty_iff.mp empty
      have other : k ≠ q.stop := fun same => apart ⟨empty, stop.trans (congrArg some same)⟩
      omega

theorem Scans.bounds (h : p.Scans t n last found) :
    ∀ m ∈ found, t.Valid m ∧ n ≤ m.start ∧
      ∀ k, k ≤ n → last = some k → m.isEmpty → k < m.start := by
  induction h with
  | done _ => simp
  | next hm _ ih =>
    obtain ⟨valid, behind⟩ := nextMatch?_eq_some hm
    have le := valid.1
    intro q hq
    rcases List.mem_cons.mp hq with rfl | later
    · exact ⟨valid, behind, fun k le stop => (nextMatch?_behind hm le stop).2⟩
    · obtain ⟨valid, start, _⟩ := ih q later
      refine ⟨valid, by omega, fun k le _ empty => ?_⟩
      have := (ih q later).2.2 _ (Nat.le_refl _) rfl empty
      omega

theorem Scans.pairwise (h : p.Scans t n last found) : found.Pairwise Region.Follows := by
  induction h with
  | done _ => exact .nil
  | next _ scans ih =>
    refine .cons (fun q hq => ?_) ih
    obtain ⟨_, start, apart⟩ := scans.bounds q hq
    exact ⟨start, apart _ (Nat.le_refl _) rfl⟩

theorem scans_scanFrom
    (enough : t.size < n + bound ∨ last = some n ∧ t.size ≤ n + bound) :
    p.Scans t n last (p.scanFrom t bound n last) := by
  -- The bound is never reached. All matches stop at different places, and one that is still to
  -- come where the match before stops does not stop there.
  induction bound generalizing n last with
  | zero =>
    refine .done ?_
    cases hm : p.nextMatch? t n last with
    | none => rfl
    | some m =>
      obtain ⟨valid, behind⟩ := nextMatch?_eq_some hm
      have le := valid.1
      have inside := Text.isBoundary_le valid.2.2
      rcases enough with outside | ⟨stop, outside⟩
      · omega
      · have apart := (nextMatch?_behind hm (Nat.le_refl n) stop).2
        have empty : m.isEmpty := Region.isEmpty_iff.mpr (by omega)
        have := apart empty
        omega
  | succ bound ih =>
    rw [scanFrom]
    cases hm : p.nextMatch? t n last with
    | none => exact .done hm
    | some m =>
      obtain ⟨valid, behind⟩ := nextMatch?_eq_some hm
      have le := valid.1
      refine .next hm (ih (Or.inr ⟨rfl, ?_⟩))
      rcases enough with outside | ⟨stop, outside⟩
      · omega
      · have apart := (nextMatch?_behind hm (Nat.le_refl n) stop).2
        by_cases empty : m.isEmpty
        · have := apart empty
          omega
        · rw [Region.isEmpty_iff] at empty
          omega

theorem scans_scan : p.Scans t 0 none (p.scan t) := scans_scanFrom (Or.inl (by omega))

/-! ### Both together -/

/-- A cursor that stands where a scan stands at byte `n`, or behind the empty match that the scan
finds there and does not report. -/
inductive Aligned (p : Pattern) (t : Text) : Nat → Nat → Option Nat → Prop
  | same {n : Nat} {last : Option Nat} : (∀ k, last = some k → k ≤ n) → Aligned p t n n last
  | past {n cursor : Nat} : p.find? t n = some (.point n) → afterChar? t n = some cursor →
      Aligned p t n cursor (some n)

theorem nextMatch?_of_apart (hm : p.find? t n = some m)
    (apart : ¬(m.isEmpty ∧ last = some m.start)) : p.nextMatch? t n last = some m := by
  have other : ¬(m.isEmpty ∧ last = some m.stop) := by
    rintro ⟨empty, stop⟩
    exact apart ⟨empty, by rw [stop, Region.isEmpty_iff.mp empty]⟩
  simp only [nextMatch?, hm, if_neg other]

theorem nextMatch?_of_touching (hm : p.find? t n = some (.point n)) :
    p.nextMatch? t n (some n) = (afterChar? t n).bind (p.find? t) := by
  have touching : (Region.point n).isEmpty ∧ some n = some (Region.point n).stop :=
    ⟨Region.isEmpty_iff.mpr rfl, rfl⟩
  have boundary : t.isBoundary n := (find?_eq_some hm).1.2.1
  simp only [nextMatch?, hm, if_pos touching]
  cases after : afterChar? t n with
  | none =>
    have ends := eq_size_of_afterChar? boundary after
    exact find?_of_size_lt (by omega)
  | some k => exact find?_succ_of_afterChar? boundary after

theorem find?_stop (hm : p.find? t cursor = some m) (empty : m.isEmpty) :
    p.find? t m.stop = some (.point m.stop) := by
  have ends := Region.isEmpty_iff.mp empty
  have point : m = .point m.stop := by
    rw [Region.point, Region.mk.injEq]
    exact ⟨ends, rfl⟩
  have again := find?_start hm
  rw [ends] at again
  exact again.trans (congrArg some point)

theorem aligned_cursorAfter? (hm : p.find? t cursor = some m) (after : cursorAfter? t m = some k) :
    p.Aligned t m.stop k (some m.stop) := by
  rw [cursorAfter?] at after
  by_cases empty : m.isEmpty
  · rw [if_pos empty] at after
    exact .past (find?_stop hm empty) after
  · rw [if_neg empty] at after
    obtain rfl : m.stop = k := Option.some.inj after
    exact .same fun k stop => by cases stop; exact Nat.le_refl _

theorem scans_of_ended (hm : p.find? t cursor = some m) (after : cursorAfter? t m = none) :
    p.Scans t m.stop (some m.stop) [] := by
  rw [cursorAfter?] at after
  by_cases empty : m.isEmpty
  · rw [if_pos empty] at after
    refine .done ?_
    rw [nextMatch?_of_touching (find?_stop hm empty), after, Option.bind_none]
  · rw [if_neg empty] at after
    cases after

/-- What a round does, and what becomes of the scan: it takes the match that is reported, or there
is none and it stays where it is. -/
theorem scans_of_round (aligned : p.Aligned t n cursor last) (hm : p.find? t cursor = some m)
    (later : p.Scans t m.stop (some m.stop) found) :
    p.Scans t n last (reported last m ++ found) := by
  obtain ⟨valid, behind⟩ := find?_eq_some hm
  have le := valid.1
  cases aligned with
  | same before =>
    rw [reported]
    by_cases touching : m.isEmpty ∧ last = some m.start
    · -- The match before stops where this one is, so a scan that stands there is as far as this.
      have stop := before m.start touching.2
      have ends := Region.isEmpty_iff.mp touching.1
      have here : m.stop = n := by omega
      rw [if_pos touching, List.nil_append, touching.2, ends, here]
      rwa [here] at later
    · rw [if_neg touching]
      exact .next (nextMatch?_of_apart hm touching) later
  | past point after =>
    have lt := lt_of_afterChar? after
    have apart : ¬(m.isEmpty ∧ some n = some m.start) := by
      rintro ⟨-, touches⟩
      have := Option.some.inj touches
      omega
    rw [reported, if_neg apart]
    refine .next ?_ later
    rw [nextMatch?_of_touching point, after]
    exact hm

theorem Rounds.scans (h : p.Rounds t cursor last cursors found)
    (aligned : p.Aligned t n cursor last) : p.Scans t n last found := by
  induction h generalizing n with
  | missed hm =>
    refine .done ?_
    cases aligned with
    | same _ => simp only [nextMatch?, hm]
    | past point after =>
      rw [nextMatch?_of_touching point, after]
      exact hm
  | ended hm after =>
    have round := scans_of_round aligned hm (scans_of_ended hm after)
    rwa [List.append_nil] at round
  | next hm after _ ih => exact scans_of_round aligned hm (ih (aligned_cursorAfter? hm after))

theorem rounds_matchesIn : ∃ cursors, p.Rounds t 0 none cursors (p.matchesIn t) :=
  rounds_matchesFrom (by omega)

theorem matchesIn_eq_scan (p : Pattern) (t : Text) : p.matchesIn t = p.scan t := by
  obtain ⟨cursors, rounds⟩ := rounds_matchesIn (p := p) (t := t)
  exact (rounds.scans (.same fun k stop => by cases stop)).unique scans_scan

theorem Scans.nodup (h : p.Scans t n last found) : found.Nodup := by
  -- No match of a scan comes twice: it would be empty, and then it would not follow itself.
  refine h.pairwise.imp_of_mem fun {q m} hq _ follows => ?_
  rintro rfl
  have le := (h.bounds q hq).1.1
  have stops := follows.1
  have behind := follows.2 (Region.isEmpty_iff.mpr (by omega))
  omega

/-- The regions `found` are all matches of a pattern in a text that starts at byte `base`. -/
structure Enumerates (p : Pattern) (t : Text) (base : Nat) (found : List Region) : Prop where
  scanned : found = (p.scan t).map (·.shift base)
  successive : ∀ ms, p.Scans t 0 none ms ↔ found = ms.map (·.shift base)
  ended : ∃ cursors ms, p.Rounds t 0 none cursors ms ∧ found = ms.map (·.shift base) ∧
    cursors.Pairwise (· < ·) ∧ ∀ c ∈ cursors, c ≤ t.size
  ordered : found.Pairwise Region.Follows
  distinct : found.Nodup
  occurs : found ≠ [] ↔ p.occursIn t = true

/-- The rounds of a search enumerate the matches as a scan does, and they end. -/
theorem matchesIn_enumerates (p : Pattern) (t : Text) (base : Nat) :
    p.Enumerates t base ((p.matchesIn t).map (·.shift base)) := by
  have scans : p.Scans t 0 none (p.matchesIn t) := by
    rw [matchesIn_eq_scan]
    exact scans_scan
  constructor
  case scanned => rw [matchesIn_eq_scan]
  case successive =>
    intro ms
    rw [List.map_inj_right fun q m same => Region.shift_inj.mp same]
    constructor
    · exact fun others => scans.unique others
    · rintro rfl
      exact scans
  case ended =>
    obtain ⟨cursors, rounds⟩ := rounds_matchesIn (p := p) (t := t)
    obtain ⟨grow, inside⟩ := rounds.cursors_grow (Nat.zero_le _)
    exact ⟨cursors, _, rounds, rfl, grow, fun c hc => (inside c hc).2⟩
  case ordered => exact List.pairwise_map.mpr (scans.pairwise.imp fun follows => follows.shift base)
  case distinct =>
    exact List.pairwise_map.mpr (scans.nodup.imp fun other same => other (Region.shift_inj.mp same))
  case occurs =>
    rw [matchesIn_eq_scan, ne_eq, List.map_eq_nil_iff, scan_eq_nil_iff, occursIn,
      Option.isSome_iff_ne_none]

end Pattern

end StructuralEdit
