import StructuralEdit.Proofs.Change.Reordering
import StructuralEdit.Proofs.Evaluation.Locality
import StructuralEdit.Proofs.Evaluation.Transcript
import StructuralEdit.Proofs.Walk.Layout
/-!
Edits of the matches of a pattern and of the gaps between them. What an unbranched command changes
lies in its region, so two such commands, one for the matches and one for the gaps, never stand in
each other's way, whichever comes first. If they replace their regions, the text is made of the
replacements in the order of the places.
-/
namespace StructuralEdit

open Region (Sequence Joined)

variable {σ : Type} {t : Text} {p : Pattern} {r : Region}

/-- One region stops where the other one starts, or before that. -/
def Region.Apart (q r : Region) : Prop := q.stop ≤ r.start ∨ r.stop ≤ q.start

namespace Region

theorem Apart.symm {q r : Region} (h : q.Apart r) : r.Apart q := Or.symm h

theorem Sequence.pairwise_apart {rs : List Region} {a b : Nat} (h : Sequence a rs b) :
    rs.Pairwise Apart := by
  obtain ⟨-, -, apart⟩ := sequence_iff.mp h
  exact apart.imp Or.inl

theorem pairwise_apart_flatMap {α : Type} {xs : List α} {place : α → Region}
    {edits : α → List Region} (apart : xs.Pairwise fun x y => (place x).Apart (place y))
    (inside : ∀ x ∈ xs, Sequence (place x).start (edits x) (place x).stop) :
    (xs.flatMap edits).Pairwise Apart := by
  rw [List.pairwise_flatMap]
  constructor
  · intro x hx
    exact (inside x hx).pairwise_apart
  · refine apart.imp_of_mem fun {x y} hx hy hxy q hq k hk => ?_
    have first := (inside x hx).bounds q hq
    have second := (inside y hy).bounds k hk
    rcases hxy with before | behind
    · exact Or.inl (by omega)
    · exact Or.inr (by omega)

end Region

def Step.edited? : Step → Option Region
  | .print _ => none
  | .edit c => some c.region
  | .filter _ r => some r

/-- The regions that a walk replaces if no filter fails. -/
def Walk.edited (w : Walk) : List Region := w.steps.filterMap Step.edited?

namespace Evaluation

theorem regions_ofSteps (filter : Filter σ) (t : Text) (steps : List Step) (s : σ) :
    ((ofSteps filter t s steps).1.changes.map Change.region).Sublist
      (steps.filterMap Step.edited?) := by
  induction steps generalizing s with
  | nil => exact .slnil
  | cons step steps ih =>
    rw [ofSteps_cons, append, List.map_append]
    cases step with
    | print q => exact ih s
    | edit c => exact (ih s).cons_cons c.region
    | filter command q =>
      rw [ofStep_filter]
      have rest := ih (filter command (t.slice q) s).2
      cases (filter command (t.slice q) s).1 with
      | ok u => exact rest.cons_cons q
      | error f => exact rest.cons q

theorem ofSteps_edits (filter : Filter σ) (cs : List Change) (s : σ) :
    ofSteps filter t s (cs.map .edit) = ({ changes := cs }, s) := by
  induction cs with
  | nil => rfl
  | cons c cs ih => simp [ofSteps, ofStep, append, ih]

theorem compatible_ofSteps (filter : Filter σ) {steps : List Step}
    (valid : ∀ step ∈ steps, t.Valid step.region)
    (apart : (steps.filterMap Step.edited?).Pairwise Region.Apart) (s : σ) :
    Change.Compatible t (ofSteps filter t s steps).1.changes := by
  have inside := ofSteps_valid filter valid s
  refine ⟨inside, ?_⟩
  have regions := List.pairwise_map.mp (apart.sublist (regions_ofSteps filter t steps s))
  refine regions.imp_of_mem fun {c d} hc hd hcd overlap => ?_
  have first := (inside c hc).1
  have second := (inside d hd).1
  simp only [Region.Apart, Change.Overlaps, Change.region_start, Change.region_stop] at *
  omega

end Evaluation

theorem Step.map_region_changes (steps : List Step) :
    (steps.flatMap (Step.changes (fun _ u => .ok u) t)).map Change.region =
      steps.filterMap Step.edited? := by
  induction steps with
  | nil => rfl
  | cons step steps ih =>
    rw [List.flatMap_cons, List.map_append, ih]
    cases step <;> rfl

def Piece.change (text : Bool → Text) (q : Piece) : Change := .replace q.region (text q.inverse)

namespace Change

theorem rewrites_joined {pieces : List Piece} {text : Bool → Text} {a b : Nat}
    (valid : ∀ q ∈ pieces, t.Valid q.region) (h : Joined a (pieces.map Piece.region) b) :
    Rewrites t a b (pieces.map (Piece.change text)) (pieces.flatMap fun q => text q.inverse) := by
  induction pieces generalizing a with
  | nil =>
    obtain rfl : a = b := h
    have kept := Rewrites.nil (t := t) (Nat.le_refl a)
    rwa [Text.slice_point] at kept
  | cons q pieces ih =>
    obtain ⟨rfl, -, later⟩ := h
    obtain ⟨first, rest⟩ := List.forall_mem_cons.mp valid
    exact (Rewrites.replace first (text q.inverse)).append (ih rest later)

end Change

namespace Command

theorem Unbranched.edited_sequence {c : Command} (hc : c.Unbranched) (hr : t.Valid r) :
    Sequence r.start (c.walk t r).edited r.stop := by
  have rewrites := (hc.walk_rewrites (f := fun _ u => .ok u) hr).2.sequence
  rwa [Walk.changes, Step.map_region_changes] at rewrites

theorem Unbranched.addressFree {c : Command} (hc : c.Unbranched) : c.AddressFree := by
  induction hc with
  | print => exact .print
  | delete => exact .delete
  | change u => exact .change u
  | append u => exact .append u
  | insert u => exact .insert u
  | filter f => exact .filter f
  | extract inverse p _ ih => exact .extract inverse p ih
  | guard inverse p _ ih => exact .guard inverse p ih

def side (a b : Command) (inverse : Bool) : Command := if inverse then b else a

/-- Two extractions in a group, one for matches and one for gaps. -/
def pair (p : Pattern) (sub : Bool → Command) (first : Bool) : Command :=
  .group [.extract first p (sub first), .extract (!first) p (sub !first)]

variable {sub : Bool → Command}

theorem walk_pair (free : ∀ inverse, (sub inverse).AddressFree) (first : Bool) :
    (pair p sub first).walk t r =
      ⟨(turns t p r first).flatMap fun q => ((sub q.inverse).walk t q.region).steps, none⟩ := by
  have part : ∀ inverse, walk t (.extract inverse p (sub inverse)) r =
      ⟨(targets t inverse p r).flatMap fun m => ((sub inverse).walk t m).steps, none⟩ := by
    intro inverse
    rw [walk]
    exact Walk.each_of_failure_eq_none fun m _ => (free inverse).walk_succeeds m
  rw [pair, walk, walkMembers_eq_each, Walk.each_of_failure_eq_none]
  · simp [part, turns, List.flatMap_map]
  · simp [part]

theorem pairwise_apart_pair (hr : t.Valid r) (hsub : ∀ inverse, (sub inverse).Unbranched)
    (first : Bool) : ((pair p sub first).walk t r).edited.Pairwise Region.Apart := by
  have joined := (joined_layout (p := p) hr).sequence.pairwise_apart
  have apart := (List.pairwise_map.mp joined).perm (turns_perm hr first).symm Region.Apart.symm
  have edits := Region.pairwise_apart_flatMap apart fun q hq =>
    (hsub q.inverse).edited_sequence (turns_valid hr first q hq)
  rw [Walk.edited, walk_pair fun inverse => (hsub inverse).addressFree]
  rwa [List.filterMap_flatMap]

/-- The text that a command puts in place of its region, if it does nothing else. -/
def replacement? : Command → Option Text
  | .delete => some []
  | .change u => some u
  | _ => none

theorem walk_of_replacement {c : Command} {u : Text} (h : c.replacement? = some u) (r : Region) :
    (c.walk t r).steps = [.edit (.replace r u)] := by
  cases c with
  | delete =>
    cases h
    rfl
  | change v =>
    cases h
    rfl
  | _ => cases h

/-- The pieces are replaced in their order, although the changes come in another one. -/
theorem applyAll_turns (hr : t.Valid r) (first : Bool) (text : Bool → Text) :
    Change.applyAll t ((turns t p r first).map (Piece.change text)) =
      .ok (t.takeBytes r.start ++ (layout t p r).flatMap (fun q => text q.inverse) ++
        t.dropBytes r.stop) := by
  have perm := (turns_perm (p := p) hr first).map (Piece.change text)
  have alike : ((layout t p r).map (Piece.change text)).Pairwise
      fun c d => c.region = d.region → c = d :=
    List.pairwise_map.mpr ((layout_alike hr).imp fun equal same =>
      congrArg (Piece.change text) (equal same))
  have ties := fun k => Change.filter_region_eq_of_perm perm
    (alike.imp fun equal hc hd => equal (hc.trans (Eq.symm (b := k) hd)))
  have valid : ∀ q ∈ layout t p r, t.Valid q.region := fun q hq =>
    turns_valid hr first q ((turns_perm hr first).mem_iff.mpr hq)
  rw [Change.applyAll_eq_of_ties perm ties]
  exact Change.applyAll_of_rewrites hr (Change.rewrites_joined valid (joined_layout hr))

theorem evaluate_pair (hr : t.Valid r) (hsub : ∀ inverse, (sub inverse).Unbranched)
    (first : Bool) (filter : Filter σ) (s : σ) :
    ∃ e s', (pair p sub first).evaluate filter t r s = (.ok e, s') ∧
      Evaluation.ofSteps filter t s ((pair p sub first).walk t r).steps = (e, s') ∧
      ∃ u, e.apply t = .ok u := by
  have done : ((pair p sub first).walk t r).failure = none := by
    rw [walk_pair fun inverse => (hsub inverse).addressFree]
  have compatible := Evaluation.compatible_ofSteps filter (walk_valid (c := pair p sub first) hr)
    (pairwise_apart_pair hr hsub first) s
  rcases steps : Evaluation.ofSteps filter t s ((pair p sub first).walk t r).steps with ⟨e, s'⟩
  rw [steps] at compatible
  have applied := Change.applyAll_of_compatible compatible
  refine ⟨e, s', ?_, rfl, ⟨_, by rw [Evaluation.apply, applied]⟩⟩
  simp only [evaluate, steps, done, Option.elim_none]

theorem steps_pair_of_replacement (free : ∀ inverse, (sub inverse).AddressFree)
    {text : Bool → Text} (replaces : ∀ inverse, (sub inverse).replacement? = some (text inverse))
    (first : Bool) :
    ((pair p sub first).walk t r).steps =
      ((turns t p r first).map (Piece.change text)).map .edit := by
  have single : ∀ q : Piece, ((sub q.inverse).walk t q.region).steps = [.edit (q.change text)] :=
    fun q => walk_of_replacement (replaces q.inverse) q.region
  simp only [walk_pair free, single, List.map_map]
  exact List.map_eq_flatMap.symm

/-- An evaluation of two extractions of unbranched commands in a group, one for the matches of a
pattern and one for the gaps, gives changes that can be made, in whatever order they stand. If both
commands only replace their region, the new text has a replacement for each match and each gap, in
the order of their places, and the order of the two makes no difference. -/
theorem evaluate_complement (p : Pattern) (hr : t.Valid r) {a b : Command} (ha : a.Unbranched)
    (hb : b.Unbranched) {members : List Command}
    (order : members = [.extract false p a, .extract true p b] ∨
      members = [.extract true p b, .extract false p a]) (filter : Filter σ) (s : σ) :
    Joined r.start ((layout t p r).map Piece.region) r.stop ∧
    (∀ inverse, (layout t p r).filter (·.inverse = inverse) =
      (targets t inverse p r).map (⟨inverse, ·⟩)) ∧
    ∃ e s', (group members).evaluate filter t r s = (.ok e, s') ∧
      (∃ u, e.apply t = .ok u) ∧
      ∀ m g, a.replacement? = some m → b.replacement? = some g →
        e.apply t = .ok (t.takeBytes r.start ++
          (layout t p r).flatMap (fun q => if q.inverse then g else m) ++ t.dropBytes r.stop) := by
  refine ⟨joined_layout hr, filter_layout hr, ?_⟩
  have hsub : ∀ inverse, (side a b inverse).Unbranched := by
    intro inverse
    cases inverse
    · exact ha
    · exact hb
  -- Both orders of the members are one pair, told apart by which extraction comes first.
  obtain ⟨first, both⟩ : ∃ first, group members = pair p (side a b) first := by
    rcases order with rfl | rfl
    · exact ⟨false, rfl⟩
    · exact ⟨true, rfl⟩
  obtain ⟨e, s', evaluated, collected, applied⟩ := evaluate_pair (p := p) hr hsub first filter s
  rw [both]
  refine ⟨e, s', evaluated, applied, fun m g hm hg => ?_⟩
  have replaces : ∀ inverse, (side a b inverse).replacement? = some (if inverse then g else m) := by
    intro inverse
    cases inverse
    · exact hm
    · exact hg
  rw [steps_pair_of_replacement (fun inverse => (hsub inverse).addressFree) replaces,
    Evaluation.ofSteps_edits] at collected
  cases collected
  rw [Evaluation.apply, applyAll_turns hr first fun inverse => if inverse then g else m]

theorem evaluate_complement_lettersA :
    Text.Valid "xbaab,,ay".toList ⟨1, 8⟩ ∧
    ∃ e e' s s',
      evaluate (.group [.extract false lettersA (.change ['M']),
        .extract true lettersA (.change ['G'])]) (fun _ w s => (.ok w, s)) "xbaab,,ay".toList
        ⟨1, 8⟩ () = (.ok e, s) ∧
      evaluate (.group [.extract true lettersA (.change ['G']),
        .extract false lettersA (.change ['M'])]) (fun _ w s => (.ok w, s)) "xbaab,,ay".toList
        ⟨1, 8⟩ () = (.ok e', s') ∧
      e.apply "xbaab,,ay".toList = .ok "xMGMGMGMGMy".toList ∧
      e'.apply "xbaab,,ay".toList = .ok "xMGMGMGMGMy".toList := by
  have valid : Text.Valid "xbaab,,ay".toList ⟨1, 8⟩ := by decide +kernel
  have made : Text.takeBytes "xbaab,,ay".toList 1 ++
      (layout "xbaab,,ay".toList lettersA ⟨1, 8⟩).flatMap
        (fun q => if q.inverse then ['G'] else ['M']) ++
      Text.dropBytes "xbaab,,ay".toList 8 = "xMGMGMGMGMy".toList := by
    decide +kernel
  obtain ⟨-, -, e, s, evaluated, -, replaced⟩ := evaluate_complement lettersA valid
    (.change ['M']) (.change ['G']) (Or.inl rfl) (fun _ w s => (.ok w, s)) ()
  obtain ⟨-, -, e', s', evaluated', -, replaced'⟩ := evaluate_complement lettersA valid
    (.change ['M']) (.change ['G']) (Or.inr rfl) (fun _ w s => (.ok w, s)) ()
  have first := replaced ['M'] ['G'] rfl rfl
  have second := replaced' ['M'] ['G'] rfl rfl
  rw [made] at first second
  exact ⟨valid, e, e', s, s', evaluated, evaluated', first, second⟩

end Command

end StructuralEdit
