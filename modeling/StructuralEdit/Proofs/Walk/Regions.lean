import StructuralEdit.Proofs.Change.Order
import StructuralEdit.Proofs.Command.Shape
import StructuralEdit.Proofs.Pattern.Scan
import StructuralEdit.Proofs.Walk.Targets
/-!
Every region that comes up in a walk is valid. Places that are given as numbers are moved back
into the text, lines and matches cover whole characters, and a range that would run backward is
empty at its start. So addresses and extractions give valid regions for valid ones, and the steps
of a walk that starts at a valid region keep to valid regions.
-/
namespace StructuralEdit

namespace Text

variable {t : Text} {a b n : Nat}

theorem isBoundary_clamp (t : Text) (n : Nat) : t.isBoundary (t.clamp n) :=
  isBoundary_iff.mpr ⟨takeBytes t n, dropBytes t n, by simp, rfl⟩

theorem valid_point (h : t.isBoundary n) : t.Valid (.point n) := ⟨Nat.le_refl n, h, h⟩

theorem valid_between (ha : t.isBoundary a) (hb : t.isBoundary b) : t.Valid (.between a b) := by
  refine ⟨Nat.le_max_left a b, ha, ?_⟩
  rcases Nat.le_total a b with h | h
  · simpa only [Region.between, Nat.max_eq_right h] using hb
  · simpa only [Region.between, Nat.max_eq_left h] using ha

theorem valid_clampRegion (t : Text) (a b : Nat) : t.Valid (t.clampRegion a b) :=
  valid_between (isBoundary_clamp t _) (isBoundary_clamp t _)

theorem clampRegion_eq_whole (low : min a b = 0) (high : t.size ≤ max a b) :
    t.clampRegion a b = t.whole := by
  rw [clampRegion, low, clamp, clamp, takeBytes_zero, takeBytes_eq_self t high, size_nil,
    Region.between, Nat.max_eq_right (Nat.zero_le _), whole]

theorem flatten_lines (t : Text) : t.lines.flatten = t := by
  induction t with
  | nil => rfl
  | cons c t ih =>
    rw [lines]
    split
    · simp only [List.flatten_cons, ih, List.singleton_append]
    · split
      · next none => simpa [none] using ih
      · next l ls some => simpa [some] using ih

theorem valid_lineFrom {u : Text} {ls : List Text} (h : t = u ++ ls.flatten) (n : Nat) :
    t.Valid (lineFrom (size u) ls n) := by
  induction ls generalizing u n with
  | nil =>
    have whole : t = u := by simpa using h
    rw [lineFrom, whole]
    exact valid_point (isBoundary_size u)
  | cons l ls ih =>
    cases n with
    | zero => exact valid_iff.mpr ⟨u, l, ls.flatten, h, rfl⟩
    | succ n =>
      have next : t = (u ++ l) ++ ls.flatten := by simpa using h
      rw [lineFrom, ← size_append]
      exact ih next n

theorem valid_line (t : Text) (n : Nat) : t.Valid (t.line n) := by
  cases n with
  | zero => exact valid_point (isBoundary_zero t)
  | succ n => exact valid_lineFrom (u := []) (flatten_lines t).symm n

end Text

namespace Address

variable {t : Text} {r m : Region} {p : Pattern}

theorem searchForward_valid {n : Nat} (h : searchForward t p n = some m) : t.Valid m := by
  rcases Option.or_eq_some_iff.mp h with found | ⟨-, found⟩
  · exact (Pattern.find?_eq_some found).1
  · exact Pattern.scan_valid m (List.mem_of_find?_eq_some found)

theorem searchBackward_valid {n : Nat} (h : searchBackward t p n = some m) : t.Valid m := by
  have inScan : ∀ q : Region → Bool, ((p.scan t).filter q).getLast? = some m → t.Valid m := by
    intro q found
    exact Pattern.scan_valid m (List.mem_filter.mp (List.mem_of_getLast? found)).1
  rcases Option.or_eq_some_iff.mp h with found | ⟨-, found⟩
  · exact inScan _ found
  · exact inScan _ found

theorem resolve_valid {a : Address} (hr : t.Valid r) (h : a.resolve t r = .ok m) : t.Valid m := by
  -- The induction is on the address; the start of a range is the current region of its end.
  induction a generalizing r m with
  | dot =>
    cases h
    exact hr
  | finish =>
    cases h
    exact Text.valid_point (Text.isBoundary_size t)
  | char n =>
    cases h
    exact Text.valid_point (Text.isBoundary_clamp t n)
  | line n =>
    cases h
    exact Text.valid_line t n
  | search d p =>
    cases d with
    | forward =>
      rw [resolve] at h
      split at h
      · next found =>
        cases h
        exact searchForward_valid found
      · cases h
    | backward =>
      rw [resolve] at h
      split at h
      · next found =>
        cases h
        exact searchBackward_valid found
      · cases h
  | range a b first second =>
    rw [resolve] at h
    cases start : a.resolve t r with
    | error f => simp [start, bind, Except.bind] at h
    | ok q =>
      cases stop : b.resolve t q with
      | error f => simp [start, stop, bind, Except.bind] at h
      | ok k =>
        have hq := first hr start
        have hk := second hq stop
        simp only [start, stop, bind, Except.bind, pure, Except.pure, Except.ok.injEq] at h
        rw [← h]
        exact Text.valid_between hq.2.1 hk.2.2

end Address

def Step.region : Step → Region
  | .print r => r
  | .edit c => c.region
  | .filter _ r => r

namespace Walk

variable {step : Step}

theorem mem_steps_andThen {v w : Walk} (h : step ∈ (v.andThen w).steps) :
    step ∈ v.steps ∨ step ∈ w.steps := by
  rw [andThen] at h
  split at h
  · exact Or.inl h
  · exact List.mem_append.mp h

theorem mem_steps_each {walk : α → Walk} {xs : List α} (h : step ∈ (each walk xs).steps) :
    ∃ x ∈ xs, step ∈ (walk x).steps := by
  induction xs with
  | nil => cases h
  | cons x xs ih =>
    have first : step ∈ (walk x).steps → ∃ y ∈ x :: xs, step ∈ (walk y).steps :=
      fun h => ⟨x, by simp, h⟩
    rw [each] at h
    split at h
    · exact first h
    · rcases mem_steps_andThen h with h | h
      · exact first h
      · obtain ⟨y, hy, h⟩ := ih h
        exact ⟨y, List.mem_cons_of_mem x hy, h⟩

end Walk

namespace Command

variable {t : Text} {r : Region}

theorem walkMembers_eq_each (t : Text) (cs : List Command) (r : Region) :
    walkMembers t cs r = Walk.each (fun c => walk t c r) cs := by
  induction cs with
  | nil => rw [walkMembers, Walk.each]
  | cons c cs ih => rw [walkMembers, Walk.each, ih]

/-- A walk from a valid region makes its steps on valid regions. -/
theorem walk_valid {c : Command} (hr : t.Valid r) :
    ∀ step ∈ (c.walk t r).steps, t.Valid step.region := by
  induction c using Command.induction generalizing r with
  | print => simpa [walk, Step.region] using hr
  | delete => simpa [walk, Step.region] using hr
  | change u => simpa [walk, Step.region] using hr
  | append u => simpa [walk, Step.region] using Text.valid_point hr.2.2
  | insert u => simpa [walk, Step.region] using Text.valid_point hr.2.1
  | filter f => simpa [walk, Step.region] using hr
  | extract inverse p sub ih =>
    intro step hstep
    rw [walk] at hstep
    obtain ⟨m, hm, hstep⟩ := Walk.mem_steps_each hstep
    exact ih (targets_valid hr m hm) step hstep
  | guard inverse p sub ih =>
    intro step hstep
    rw [walk] at hstep
    split at hstep
    · exact ih hr step hstep
    · cases hstep
  | group members ih =>
    intro step hstep
    rw [walk, walkMembers_eq_each] at hstep
    obtain ⟨c, hc, hstep⟩ := Walk.mem_steps_each hstep
    exact ih c hc hr step hstep
  | addressed a sub ih =>
    intro step hstep
    rw [walk] at hstep
    split at hstep
    · next found => exact ih (Address.resolve_valid hr found) step hstep
    · cases hstep

end Command

end StructuralEdit
