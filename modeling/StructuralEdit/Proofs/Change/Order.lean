import StructuralEdit.Change
/-!
The order in which changes are made. It sorts them by their places and keeps those that are at one
place as they were found, which fixes it.
-/
namespace StructuralEdit.Change

variable {cs ds : List Change}

def region (c : Change) : Region := ⟨c.start, c.stop⟩

@[simp] theorem region_start (c : Change) : c.region.start = c.start := rfl

@[simp] theorem region_stop (c : Change) : c.region.stop = c.stop := rfl

@[simp] theorem region_replace (r : Region) (u : Text) : (replace r u).region = r := rfl

@[simp] theorem region_insert (n : Nat) (u : Text) : (insert n u).region = .point n := rfl

/-- The changes `ds` are the changes `cs` by start and stop, with ties as in `cs`. -/
structure Arranged (cs ds : List Change) : Prop where
  perm : ds.Perm cs
  sorted : ds.Pairwise fun a b => a.start < b.start ∨ a.start = b.start ∧ a.stop ≤ b.stop
  stable : ∀ r : Region, ds.filter (·.region = r) = cs.filter (·.region = r)

theorem precedes_iff {a b : Change} :
    a.precedes b ↔ a.start < b.start ∨ a.start = b.start ∧ a.stop ≤ b.stop := by
  simp [precedes]

theorem precedes_trans (a b c : Change) (h : a.precedes b) (k : b.precedes c) : a.precedes c := by
  rw [precedes_iff] at *
  omega

theorem precedes_total (a b : Change) : a.precedes b || b.precedes a := by
  rw [Bool.or_eq_true, precedes_iff, precedes_iff]
  omega

theorem ordered_arranged (cs : List Change) : Arranged cs (ordered cs) := by
  have perm : (ordered cs).Perm cs := List.mergeSort_perm cs precedes
  refine ⟨perm, ?_, fun r => ?_⟩
  · have := List.pairwise_mergeSort precedes_trans precedes_total cs
    exact this.imp precedes_iff.mp
  · -- Changes at one place are sorted as they are found, so sorting keeps them as a sublist.
    have equal : (cs.filter (·.region = r)).Pairwise (fun a b => a.precedes b) := by
      refine List.pairwise_of_forall_mem_list fun a ha b hb => ?_
      have ha : a.region = r := by simpa using (List.mem_filter.mp ha).2
      have hb : b.region = r := by simpa using (List.mem_filter.mp hb).2
      subst ha
      simp only [region, Region.mk.injEq] at hb
      rw [precedes_iff]
      omega
    have kept : (cs.filter (·.region = r)).Sublist (ordered cs) :=
      List.sublist_mergeSort precedes_trans precedes_total equal List.filter_sublist
    have found := kept.filter (fun c => c.region = r)
    simp only [List.filter_filter, Bool.and_self] at found
    exact (found.eq_of_length (perm.filter _).length_eq.symm).symm

theorem ordered_eq_self (h : cs.Pairwise fun a b => a.precedes b) : ordered cs = cs :=
  List.mergeSort_of_pairwise h

end StructuralEdit.Change
