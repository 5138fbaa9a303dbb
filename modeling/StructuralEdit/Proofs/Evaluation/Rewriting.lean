import StructuralEdit.Proofs.Change.Application
import StructuralEdit.Proofs.Evaluation.Steps
import StructuralEdit.Proofs.Walk.Targets
/-!
Commands without groups and addresses rewrite their region on the spot. What such a command makes
of a text is defined by recursion on the command, with no changes and no places of the whole
text; making the changes that its walk collects gives the same. The invariant is that every part
of the walk adds changes in sequence between the ends of its region.
-/
namespace StructuralEdit

open Region (Sequence)

/-- Rewrites each of the given parts of `w` behind byte `here`, and keeps what is between. -/
def rewriteMatches (g : Text → Text) (w : Text) (here : Nat) : List Region → Text
  | [] => w.dropBytes here
  | m :: ms => w.slice ⟨here, m.start⟩ ++ g (w.slice m) ++ rewriteMatches g w m.stop ms

def rewriteGaps (g : Text → Text) (w : Text) (here : Nat) : List Region → Text
  | [] => ofGap (w.dropBytes here)
  | m :: ms => ofGap (w.slice ⟨here, m.start⟩) ++ w.slice m ++ rewriteGaps g w m.stop ms
where
  ofGap (u : Text) : Text := if u = [] then [] else g u

namespace Command

/-- Commands built from single actions by extractions and guards alone. -/
inductive Unbranched : Command → Prop
  | print : Unbranched .print
  | delete : Unbranched .delete
  | change (u : Text) : Unbranched (.change u)
  | append (u : Text) : Unbranched (.append u)
  | insert (u : Text) : Unbranched (.insert u)
  | filter (f : Text) : Unbranched (.filter f)
  | extract (inverse : Bool) (p : Pattern) {sub : Command} :
      Unbranched sub → Unbranched (.extract inverse p sub)
  | guard (inverse : Bool) (p : Pattern) {sub : Command} :
      Unbranched sub → Unbranched (.guard inverse p sub)

/-- What an unbranched command makes of a text, when `f` says what filters answer. -/
def rewrite (f : Text → Text → Except Failure Text) : Command → Text → Text
  | .print, w => w
  | .delete, _ => []
  | .change u, _ => u
  | .append u, w => w ++ u
  | .insert u, w => u ++ w
  | .filter command, w =>
    match f command w with
    | .ok u => u
    | .error _ => w
  | .extract false p sub, w => rewriteMatches (rewrite f sub) w 0 (p.matchesIn w)
  | .extract true p sub, w =>
    if (p.matchesIn w).isEmpty then rewrite f sub w
    else rewriteGaps (rewrite f sub) w 0 (p.matchesIn w)
  | .guard inverse p sub, w => if p.occursIn w != inverse then rewrite f sub w else w
  | .group _, w => w
  | .addressed _ _, w => w

end Command

namespace Change

variable {t u v : Text} {cs ds : List Change} {a b c : Nat}

/-- Changes in sequence between two places that make `u` of what stands there. -/
structure Rewrites (t : Text) (a b : Nat) (cs : List Change) (u : Text) : Prop where
  whole : ∀ c ∈ cs, t.isBoundary c.start ∧ t.isBoundary c.stop
  sequence : Sequence a (cs.map region) b
  weave_eq : weave t a cs b = u

theorem Rewrites.nil (h : a ≤ b) : Rewrites t a b [] (t.slice ⟨a, b⟩) :=
  ⟨by simp, h, rfl⟩

theorem Rewrites.single {d : Change} (h : t.Valid d.region) (ha : a ≤ d.start) (hb : d.stop ≤ b) :
    Rewrites t a b [d] (t.slice ⟨a, d.start⟩ ++ d.text ++ t.slice ⟨d.stop, b⟩) :=
  ⟨by simpa using h.2, ⟨ha, h.1, hb⟩, rfl⟩

theorem slice_append_weave (h : a ≤ b) (k : Sequence b (cs.map region) c) :
    t.slice ⟨a, b⟩ ++ weave t b cs c = weave t a cs c := by
  cases cs with
  | nil => exact Text.slice_append_slice t h k
  | cons d cs =>
    have hd : b ≤ d.start := k.1
    rw [weave, weave, ← Text.slice_append_slice t h hd]
    simp only [List.append_assoc]

theorem weave_append (h : Sequence a (cs.map region) b) (k : Sequence b (ds.map region) c) :
    weave t a (cs ++ ds) c = weave t a cs b ++ weave t b ds c := by
  induction cs generalizing a with
  | nil => exact (slice_append_weave h k).symm
  | cons d cs ih =>
    have later : weave t d.stop (cs ++ ds) c = weave t d.stop cs b ++ weave t b ds c := ih h.2.2
    simp only [List.cons_append, weave, later, List.append_assoc]

theorem Rewrites.append (h : Rewrites t a b cs u) (k : Rewrites t b c ds v) :
    Rewrites t a c (cs ++ ds) (u ++ v) := by
  refine ⟨fun d hd => ?_, ?_, ?_⟩
  · exact (List.mem_append.mp hd).elim (h.whole d) (k.whole d)
  · rw [List.map_append]
    exact h.sequence.append k.sequence
  · rw [weave_append h.sequence k.sequence, h.weave_eq, k.weave_eq]

theorem ordered_of_sequence (h : Sequence a (cs.map region) b) : ordered cs = cs := by
  obtain ⟨-, inside, apart⟩ := Region.sequence_iff.mp h
  refine ordered_eq_self (List.Pairwise.imp_of_mem ?_ (List.pairwise_map.mp apart))
  intro c d hc hd hcd
  have first := inside c.region (List.mem_map_of_mem hc)
  have second := inside d.region (List.mem_map_of_mem hd)
  simp only [region] at first second hcd
  rw [precedes_iff]
  omega

theorem applyAll_of_rewrites {r : Region} (hr : t.Valid r)
    (h : Rewrites t r.start r.stop cs u) :
    applyAll t cs = .ok (t.takeBytes r.start ++ u ++ t.dropBytes r.stop) := by
  have hstop := Text.isBoundary_le hr.2.2
  have before : Rewrites t 0 r.start [] (t.slice ⟨0, r.start⟩) := .nil (Nat.zero_le _)
  have behind : Rewrites t r.stop t.size [] (t.slice ⟨r.stop, t.size⟩) := .nil hstop
  have all : Rewrites t 0 t.size cs
      (t.slice ⟨0, r.start⟩ ++ (u ++ t.slice ⟨r.stop, t.size⟩)) := by
    simpa using before.append (h.append behind)
  have order := ordered_of_sequence all.sequence
  rw [applyAll_eq_ok_iff, order, compatible_iff_of_arranged (ordered_arranged cs), order]
  refine ⟨⟨all.whole, all.sequence⟩, ?_⟩
  rw [all.weave_eq, Text.slice_zero, Text.slice_size, List.append_assoc]

theorem Rewrites.replace {r : Region} (hr : t.Valid r) (u : Text) :
    Rewrites t r.start r.stop [.replace r u] u := by
  have single := Rewrites.single (d := .replace r u) hr (Nat.le_refl r.start) (Nat.le_refl r.stop)
  simpa [Change.replace, Text.slice_point] using single

theorem Rewrites.insert {n : Nat} (hn : t.isBoundary n) (ha : a ≤ n) (hb : n ≤ b) (u : Text) :
    Rewrites t a b [.insert n u] (t.slice ⟨a, n⟩ ++ u ++ t.slice ⟨n, b⟩) :=
  .single (d := .insert n u) ⟨Nat.le_refl n, hn, hn⟩ ha hb

section Parts

variable {r : Region} {g : Text → Text} {changes : Region → List Change} {i j : Nat}

def RewritesEach (t : Text) (changes : Region → List Change) (g : Text → Text) : Prop :=
  ∀ m, t.Valid m → Rewrites t m.start m.stop (changes m) (g (t.slice m))

theorem rewrites_kept (hr : t.Valid r) (hm : (t.slice r).Valid ⟨i, j⟩) :
    Rewrites t (i + r.start) (j + r.start) [] ((t.slice r).slice ⟨i, j⟩) := by
  rw [Text.slice_slice hr hm]
  exact .nil (Nat.add_le_add_right hm.1 _)

theorem rewrites_part (hr : t.Valid r) (hg : RewritesEach t changes g)
    (hm : (t.slice r).Valid ⟨i, j⟩) :
    Rewrites t (i + r.start) (j + r.start) (changes (.shift ⟨i, j⟩ r.start))
      (g ((t.slice r).slice ⟨i, j⟩)) := by
  rw [Text.slice_slice hr hm]
  exact hg _ (Text.valid_shift hr hm)

theorem rewrites_gap (hr : t.Valid r) (hg : RewritesEach t changes g)
    (hm : (t.slice r).Valid ⟨i, j⟩) :
    Rewrites t (i + r.start) (j + r.start)
      (([Region.between (i + r.start) (j + r.start)].filter (!·.isEmpty)).flatMap changes)
      (rewriteGaps.ofGap g ((t.slice r).slice ⟨i, j⟩)) := by
  have hij : i ≤ j := hm.1
  rw [Region.between_of_le (by omega)]
  by_cases empty : i = j
  · subst empty
    have kept := rewrites_kept hr hm
    simpa [Region.isEmpty, rewriteGaps.ofGap, Text.slice_point] using kept
  · have size := Text.size_slice hm
    have some : (t.slice r).slice ⟨i, j⟩ ≠ [] := by
      intro none
      simp only [none, Text.size_nil] at size
      omega
    have part := rewrites_part hr hg hm
    simpa [Region.shift, Region.isEmpty, empty, rewriteGaps.ofGap, some] using part

theorem rewrites_matches (hr : t.Valid r) (hg : RewritesEach t changes g) {ms : List Region}
    (hi : (t.slice r).isBoundary i) (valid : ∀ m ∈ ms, (t.slice r).Valid m)
    (h : Sequence i ms (t.slice r).size) :
    Rewrites t (i + r.start) ((t.slice r).size + r.start)
      ((ms.map (·.shift r.start)).flatMap changes) (rewriteMatches g (t.slice r) i ms) := by
  -- The induction is on the matches still to come; what is before them is rewritten.
  induction ms generalizing i with
  | nil =>
    rw [rewriteMatches, ← Text.slice_size]
    exact rewrites_kept hr ⟨h, hi, Text.isBoundary_size _⟩
  | cons m ms ih =>
    obtain ⟨hm, hle, h⟩ := h
    have first := valid m (by simp)
    have before := rewrites_kept hr ⟨hm, hi, first.2.1⟩
    have later := ih first.2.2 (fun m hm => valid m (by simp [hm])) h
    have all := (before.append (rewrites_part hr hg first)).append later
    simpa [rewriteMatches] using all

theorem rewrites_gaps (hr : t.Valid r) (hg : RewritesEach t changes g) {ms : List Region}
    (hi : (t.slice r).isBoundary i) (valid : ∀ m ∈ ms, (t.slice r).Valid m)
    (h : Sequence i ms (t.slice r).size) :
    Rewrites t (i + r.start) ((t.slice r).size + r.start)
      (((stretches (i + r.start) ((t.slice r).size + r.start)
        (ms.map (·.shift r.start))).filter (!·.isEmpty)).flatMap changes)
      (rewriteGaps g (t.slice r) i ms) := by
  induction ms generalizing i with
  | nil =>
    rw [rewriteGaps, ← Text.slice_size]
    exact rewrites_gap hr hg ⟨h, hi, Text.isBoundary_size _⟩
  | cons m ms ih =>
    obtain ⟨hm, hle, h⟩ := h
    have first := valid m (by simp)
    have before := rewrites_gap hr hg ⟨hm, hi, first.2.1⟩
    have later := ih first.2.2 (fun m hm => valid m (by simp [hm])) h
    have all := (before.append (rewrites_kept hr first)).append later
    simp only [List.append_nil, ← List.flatMap_append, ← List.filter_append] at all
    exact all

end Parts

end Change

namespace Command

open Change (Rewrites RewritesEach)

variable {f : Text → Text → Except Failure Text} {t : Text} {r : Region} {sub : Command}

theorem changes_extract (inverse : Bool) (p : Pattern)
    (h : ∀ m ∈ targets t inverse p r, (sub.walk t m).failure = none) :
    (walk t (.extract inverse p sub) r).failure = none ∧
      (walk t (.extract inverse p sub) r).changes f t =
        (targets t inverse p r).flatMap fun m => (sub.walk t m).changes f t := by
  rw [walk, Walk.each_of_failure_eq_none h]
  exact ⟨rfl, List.flatMap_assoc⟩

theorem rewrites_extract {inverse : Bool} {p : Pattern} (hr : t.Valid r)
    (hg : RewritesEach t (fun m => (sub.walk t m).changes f t) (sub.rewrite f)) :
    Rewrites t r.start r.stop
      ((targets t inverse p r).flatMap fun m => (sub.walk t m).changes f t)
      (rewrite f (.extract inverse p sub) (t.slice r)) := by
  have stop := Text.size_slice hr
  rw [Nat.add_comm] at stop
  have zero := Text.isBoundary_zero (t.slice r)
  have valid := Pattern.matchesIn_valid (p := p) (t := t.slice r)
  have sequence := Pattern.matchesIn_sequence (p := p) (t := t.slice r)
  cases inverse with
  | false =>
    have all := Change.rewrites_matches hr hg zero valid sequence
    rwa [Nat.zero_add, stop] at all
  | true =>
    rw [rewrite, targets, if_pos rfl, gaps, matchesInRegion, List.isEmpty_map]
    split
    · simpa using hg r hr
    · have all := Change.rewrites_gaps hr hg zero valid sequence
      rwa [Nat.zero_add, stop] at all

theorem Unbranched.walk_rewrites {c : Command} (hc : c.Unbranched) (hr : t.Valid r) :
    (c.walk t r).failure = none ∧
      Rewrites t r.start r.stop ((c.walk t r).changes f t) (c.rewrite f (t.slice r)) := by
  induction hc generalizing r with
  | print => exact ⟨rfl, .nil hr.1⟩
  | delete => exact ⟨rfl, .replace hr []⟩
  | change u => exact ⟨rfl, .replace hr u⟩
  | append u =>
    have behind := Rewrites.insert hr.2.2 hr.1 (Nat.le_refl r.stop) u
    rw [Text.slice_point, List.append_nil] at behind
    exact ⟨rfl, behind⟩
  | insert u =>
    have before := Rewrites.insert hr.2.1 (Nat.le_refl r.start) hr.1 u
    rw [Text.slice_point, List.nil_append] at before
    exact ⟨rfl, before⟩
  | filter command =>
    refine ⟨rfl, ?_⟩
    simp only [walk, Walk.changes, Step.changes, rewrite, List.flatMap_cons, List.flatMap_nil,
      List.append_nil]
    cases f command (t.slice r) with
    | ok u => exact .replace hr u
    | error e => exact .nil hr.1
  | extract inverse p _ ih =>
    -- The targets are in sequence, so what their walks make can be put together.
    obtain ⟨done, collected⟩ := changes_extract (f := f) inverse p
      fun m hm => (ih (targets_valid hr m hm)).1
    refine ⟨done, ?_⟩
    rw [collected]
    exact rewrites_extract hr fun m hm => (ih hm).2
  | guard inverse p _ ih =>
    simp only [walk, rewrite]
    split
    · exact ih hr
    · exact ⟨rfl, .nil hr.1⟩

/-- Evaluating an unbranched command and then making its changes rewrites the region, and leaves
all around it as it is. -/
theorem evaluate_apply_eq_rewrite {filter : Filter σ} (hf : Answers filter f) {c : Command}
    (hc : c.Unbranched) (hr : t.Valid r) (s : σ) :
    ∃ e s', c.evaluate filter t r s = (.ok e, s') ∧
      e.apply t = .ok (t.takeBytes r.start ++ c.rewrite f (t.slice r) ++ t.dropBytes r.stop) := by
  obtain ⟨done, rewrites⟩ := hc.walk_rewrites (f := f) hr
  obtain ⟨e, s', evaluated, collected⟩ := evaluate_of_walk hf done s
  rw [← collected] at rewrites
  refine ⟨e, s', evaluated, ?_⟩
  rw [Evaluation.apply, Change.applyAll_of_rewrites hr rewrites]

def lettersA : Pattern :=
  ⟨"a*".toList, ⟨#[.accept, .branch 2 0, .read ⟨[(97, 97)]⟩ 1], 1⟩, rfl⟩

def comma : Pattern := ⟨",".toList, ⟨#[.accept, .read ⟨[(44, 44)]⟩ 0], 1⟩, rfl⟩

theorem evaluate_apply_hyphens :
    ∃ e s', evaluate (.extract true comma (.extract false lettersA (.insert ['-'])))
        (fun _ w s => (.ok w, s)) "xbaab,,ay".toList ⟨1, 8⟩ () = (.ok e, s') ∧
      e.apply "xbaab,,ay".toList = .ok "x-b-aab-,,-ay".toList := by
  have answers : Answers (fun _ w (s : Unit) => (.ok w, s)) fun _ w => .ok w :=
    fun _ _ _ => rfl
  obtain ⟨e, s', evaluated, applied⟩ := evaluate_apply_eq_rewrite (t := "xbaab,,ay".toList)
    (r := ⟨1, 8⟩) answers
    (.extract true comma (.extract false lettersA (.insert ['-']))) (by decide +kernel) ()
  refine ⟨e, s', evaluated, applied.trans (congrArg Except.ok ?_)⟩
  decide +kernel

end Command

end StructuralEdit
