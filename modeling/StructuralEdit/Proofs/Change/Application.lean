import StructuralEdit.Evaluation
import StructuralEdit.Proofs.Change.Order
import StructuralEdit.Proofs.Text.Sequence
/-!
When changes can be made together, and what text they make. Application goes from the last change
to the first and looks only at the place where the next one starts. This is enough: in the order
of places, changes that do not overlap stop before the next one starts. The text is then made of
the unchanged parts and the texts of the changes, from the left.
-/
namespace StructuralEdit

namespace Text

def splice? (t : Text) (r : Region) (u : Text) : Option Text :=
  if t.Valid r then some (t.takeBytes r.start ++ u ++ t.dropBytes r.stop) else none

variable {t v : Text} {m n : Nat}

theorem takeBytes_takeBytes_append (h : t.isBoundary m) (k : m ≤ n) :
    takeBytes (takeBytes t n ++ v) m = takeBytes t m := by
  obtain ⟨a, b, rfl, rfl⟩ := isBoundary_iff.mp h
  obtain ⟨n, rfl⟩ := Nat.exists_eq_add_of_le k
  simp

theorem dropBytes_takeBytes_append (h : t.isBoundary m) (k : m ≤ n) :
    dropBytes (takeBytes t n ++ v) m = slice t ⟨m, n⟩ ++ v := by
  obtain ⟨a, b, rfl, rfl⟩ := isBoundary_iff.mp h
  obtain ⟨n, rfl⟩ := Nat.exists_eq_add_of_le k
  simp [slice]

theorem isBoundary_takeBytes_append (h : t.isBoundary m) (k : m ≤ n) :
    (takeBytes t n ++ v).isBoundary m := by
  rw [size_takeBytes_iff, takeBytes_takeBytes_append h k, size_takeBytes h]

theorem splice?_takeBytes_append {r : Region} {u : Text} (h : t.Valid r) (k : r.stop ≤ n) :
    splice? (takeBytes t n ++ v) r u =
      some (takeBytes t r.start ++ (u ++ slice t ⟨r.stop, n⟩ ++ v)) := by
  obtain ⟨hle, hstart, hstop⟩ := h
  have valid : (takeBytes t n ++ v).Valid r :=
    ⟨hle, isBoundary_takeBytes_append hstart (by omega), isBoundary_takeBytes_append hstop k⟩
  rw [splice?, if_pos valid, takeBytes_takeBytes_append hstart (by omega),
    dropBytes_takeBytes_append hstop k]
  simp only [List.append_assoc]

end Text

namespace Change

open Region (Sequence sequence_iff sequence_append_cons)

variable {t : Text} {cs ds : List Change}

/-- Two changes that both replace some byte, or of which one inserts inside what the other one
replaces. -/
def Overlaps (a b : Change) : Prop := a.start < b.stop ∧ b.start < a.stop

instance (a b : Change) : Decidable (a.Overlaps b) := inferInstanceAs (Decidable (_ ∧ _))

/-- Changes that can be made together: each one replaces a valid region, and no two overlap. -/
structure Compatible (t : Text) (cs : List Change) : Prop where
  valid : ∀ c ∈ cs, t.Valid c.region
  apart : cs.Pairwise fun a b => ¬ a.Overlaps b

/-- The part of a text between two places with changes made in it, from the left: what is
unchanged before each change, and its text. -/
def weave (t : Text) (here : Nat) : List Change → Nat → Text
  | [], stop => t.slice ⟨here, stop⟩
  | c :: cs, stop => t.slice ⟨here, c.start⟩ ++ c.text ++ weave t c.stop cs stop

/-- Makes changes by splices in a buffer, from the last to the first. The text is only looked at
to see where characters end. There is no result if a splice has none. -/
def spliceBackward (t : Text) (limit : Nat) (buffer : Text) :
    List Change → Option (Except Conflict Text)
  | [] => some (.ok buffer)
  | c :: cs =>
    if c.stop < c.start ∨ limit < c.stop then some (.error (.overlap c.start c.stop))
    else if t.isBoundary c.start ∧ t.isBoundary c.stop then
      (buffer.splice? c.region c.text).bind fun b => spliceBackward t c.start b cs
    else some (.error (.splitsCharacter c.start c.stop))

theorem spliceBackward_eq_applyBackward (cs : List Change) (limit : Nat) (tail : Text) :
    spliceBackward t limit (t.takeBytes limit ++ tail) cs =
      some (applyBackward t limit tail cs) := by
  -- Every splice lies in the part of the buffer that is still unchanged.
  induction cs generalizing limit tail with
  | nil => rfl
  | cons c cs ih =>
    rw [spliceBackward, applyBackward]
    by_cases outside : c.stop < c.start ∨ limit < c.stop
    · simp only [if_pos outside]
    · by_cases whole : t.isBoundary c.start ∧ t.isBoundary c.stop
      · have valid : t.Valid c.region := ⟨by simp only [region]; omega, whole⟩
        have inside : c.region.stop ≤ limit := by simp only [region]; omega
        simp only [if_neg outside, if_pos whole, Text.splice?_takeBytes_append valid inside,
          Option.bind_some]
        exact ih c.start _
      · simp only [if_neg outside, if_neg whole]

theorem weave_append_cons (c : Change) (here stop : Nat) :
    weave t here (cs ++ c :: ds) stop =
      weave t here cs c.start ++ c.text ++ weave t c.stop ds stop := by
  induction cs generalizing here with
  | nil => rfl
  | cons d cs ih => simp only [List.cons_append, weave, ih, List.append_assoc]

theorem applyBackward_eq_ok_iff (limit : Nat) (tail u : Text) :
    applyBackward t limit tail cs = .ok u ↔
      (∀ c ∈ cs, t.isBoundary c.start ∧ t.isBoundary c.stop) ∧
      Sequence 0 (cs.reverse.map region) limit ∧ u = weave t 0 cs.reverse limit ++ tail := by
  -- The induction is on the changes still to be made, which are the first ones of the text.
  induction cs generalizing limit tail with
  | nil =>
    rw [applyBackward, Except.ok.injEq, eq_comm]
    simp [Sequence, weave, Text.slice_zero]
  | cons c cs ih =>
    simp only [List.forall_mem_cons, List.reverse_cons, List.map_append, List.map_cons,
      List.map_nil, sequence_append_cons, weave_append_cons, Sequence, weave, applyBackward]
    by_cases outside : c.stop < c.start ∨ limit < c.stop
    · have inside : ¬ (c.start ≤ c.stop ∧ c.stop ≤ limit) := by omega
      simp [outside, region, inside]
    · have inside : c.start ≤ c.stop ∧ c.stop ≤ limit := by omega
      by_cases whole : t.isBoundary c.start ∧ t.isBoundary c.stop
      · rw [if_neg outside, if_pos whole, ih]
        simp only [region, inside, whole, true_and, and_true, List.append_assoc]
      · simp [outside, whole]

theorem applyBackward_error (limit : Nat) (tail : Text) {why : Conflict}
    (h : applyBackward t limit tail cs = .error why) :
    ∃ c ∈ cs, why = .overlap c.start c.stop ∨ why = .splitsCharacter c.start c.stop := by
  induction cs generalizing limit tail with
  | nil => simp [applyBackward] at h
  | cons c cs ih =>
    rw [applyBackward] at h
    split at h
    · exact ⟨c, by simp, Or.inl (Except.error.inj h).symm⟩
    · split at h
      · obtain ⟨d, hd, hwhy⟩ := ih _ _ h
        exact ⟨d, by simp [hd], hwhy⟩
      · exact ⟨c, by simp, Or.inr (Except.error.inj h).symm⟩

theorem overlaps_iff_of_sorted {a b : Change} (hb : b.start ≤ b.stop)
    (h : a.start < b.start ∨ a.start = b.start ∧ a.stop ≤ b.stop) :
    ¬ a.Overlaps b ↔ a.stop ≤ b.start := by
  unfold Overlaps
  omega

theorem Overlaps.symm {a b : Change} (h : a.Overlaps b) : b.Overlaps a := ⟨h.2, h.1⟩

theorem compatible_perm (h : ds.Perm cs) : Compatible t ds ↔ Compatible t cs := by
  have apart := h.pairwise_iff (R := fun a b : Change => ¬ a.Overlaps b)
    fun hab hba => hab hba.symm
  constructor
  · intro k
    exact ⟨fun c hc => k.valid c (h.mem_iff.mpr hc), apart.mp k.apart⟩
  · intro k
    exact ⟨fun c hc => k.valid c (h.mem_iff.mp hc), apart.mpr k.apart⟩

theorem compatible_iff_of_arranged (h : Arranged cs ds) :
    Compatible t cs ↔ (∀ c ∈ ds, t.isBoundary c.start ∧ t.isBoundary c.stop) ∧
      Sequence 0 (ds.map region) t.size := by
  rw [← compatible_perm h.perm, sequence_iff, List.pairwise_map]
  constructor
  · intro k
    refine ⟨fun c hc => (k.valid c hc).2, Nat.zero_le _, ?_, ?_⟩
    · intro r hr
      obtain ⟨c, hc, rfl⟩ := List.mem_map.mp hr
      have valid := k.valid c hc
      exact ⟨Nat.zero_le _, valid.1, Text.isBoundary_le valid.2.2⟩
    · refine (h.sorted.and k.apart).imp_of_mem fun {a b} _ hb hab => ?_
      exact (overlaps_iff_of_sorted (k.valid b hb).1 hab.1).mp hab.2
  · rintro ⟨whole, -, inside, apart⟩
    have le : ∀ c ∈ ds, c.start ≤ c.stop := fun c hc =>
      (inside c.region (List.mem_map_of_mem hc)).2.1
    refine ⟨fun c hc => ⟨le c hc, whole c hc⟩, ?_⟩
    refine (h.sorted.and apart).imp_of_mem fun {a b} _ hb hab => ?_
    exact (overlaps_iff_of_sorted (le b hb) hab.1).mpr hab.2

theorem applyAll_eq_ok_iff {u : Text} :
    applyAll t cs = .ok u ↔ Compatible t cs ∧ u = weave t 0 (ordered cs) t.size := by
  rw [applyAll, applyBackward_eq_ok_iff, compatible_iff_of_arranged (ordered_arranged cs)]
  simp [and_assoc]

theorem applyAll_of_compatible (h : Compatible t cs) :
    applyAll t cs = .ok (weave t 0 (ordered cs) t.size) :=
  applyAll_eq_ok_iff.mpr ⟨h, rfl⟩

theorem applyAll_of_not_compatible (h : ¬ Compatible t cs) :
    ∃ c ∈ cs, applyAll t cs = .error (.overlap c.start c.stop) ∨
      applyAll t cs = .error (.splitsCharacter c.start c.stop) := by
  cases result : applyAll t cs with
  | ok u => exact absurd (applyAll_eq_ok_iff.mp result).1 h
  | error why =>
    obtain ⟨c, hc, hwhy⟩ := applyBackward_error t.size [] result
    have hc : c ∈ cs := (ordered_arranged cs).perm.mem_iff.mp (List.mem_reverse.mp hc)
    rcases hwhy with rfl | rfl
    · exact ⟨c, hc, Or.inl rfl⟩
    · exact ⟨c, hc, Or.inr rfl⟩

/-- Changes can be made if and only if each one is valid and no two overlap. What they make is
then woven from the left in the order of places; otherwise the failure is internal and names one
of them. No splice falls outside the buffer or splits a character of it. -/
theorem applyAll_exact (t : Text) (cs : List Change) :
    ((∃ u, applyAll t cs = .ok u) ↔ Compatible t cs) ∧
    (Compatible t cs → ∃ ds, Arranged cs ds ∧ applyAll t cs = .ok (weave t 0 ds t.size)) ∧
    (¬ Compatible t cs → ∃ c ∈ cs, ∃ why, applyAll t cs = .error why ∧
      (why = .overlap c.start c.stop ∨ why = .splitsCharacter c.start c.stop) ∧
      ∀ e : Evaluation, e.changes = cs → ∃ f, e.apply t = .error f ∧ f.isInternal) ∧
    spliceBackward t t.size t (ordered cs).reverse = some (applyAll t cs) := by
  refine ⟨⟨?_, ?_⟩, ?_, ?_, ?_⟩
  · rintro ⟨u, h⟩
    exact (applyAll_eq_ok_iff.mp h).1
  · intro h
    exact ⟨_, applyAll_of_compatible h⟩
  · intro h
    exact ⟨ordered cs, ordered_arranged cs, applyAll_of_compatible h⟩
  · intro h
    obtain ⟨c, hc, result⟩ := applyAll_of_not_compatible h
    have internal : ∀ why, applyAll t cs = .error why → ∀ e : Evaluation, e.changes = cs →
        ∃ f, e.apply t = .error f ∧ f.isInternal := by
      rintro why hwhy e rfl
      exact ⟨.conflict why, by rw [Evaluation.apply, hwhy], rfl⟩
    rcases result with result | result
    · exact ⟨c, hc, _, result, Or.inl rfl, internal _ result⟩
    · exact ⟨c, hc, _, result, Or.inr rfl, internal _ result⟩
  · have := spliceBackward_eq_applyBackward (t := t) (ordered cs).reverse t.size []
    simpa only [Text.takeBytes_size, List.append_nil, applyAll] using this

end Change

end StructuralEdit
