import StructuralEdit.Proofs.Evaluation.Agenda
import StructuralEdit.Proofs.Walk.Backward
/-!
What an address depends on. Only the simple address at which it begins sees the current region:
nothing of it, its stop or its start. Each later address of a chain is looked for from where the
one before it has landed. A range starts where its start does, and it is empty there if its end
lies before.
-/
namespace StructuralEdit.Address

variable {t : Text} {a b : Address} {q r s m : Region}

def leading : Address → Address
  | .range a _ => a.leading
  | a => a

/-- The current regions look the same to a simple address: numbers and the end of the text do not
look at them, and a search looks at the place from which it starts. -/
def LooksSame (q r : Region) : Address → Prop
  | .finish | .char _ | .line _ => True
  | .search .forward _ => q.stop = r.stop
  | .search .backward _ => q.start = r.start
  | .dot | .range _ _ => q = r

def parts : Address → List Address
  | .range a b => a :: b.parts
  | a => [a]

/-- Where addresses land, each of them looked for from where the one before it has landed. -/
inductive Lands (t : Text) : Region → List Address → List Region → Prop
  | nil (r : Region) : Lands t r [] []
  | cons {a : Address} {r s : Region} {as : List Address} {ss : List Region} :
      a.resolve t r = .ok s → Lands t s as ss → Lands t r (a :: as) (s :: ss)

def spanned : Region → List Region → Region
  | s, [] => s
  | s, u :: us => .between s.start (spanned u us).stop

theorem resolve_eq_of_looksSame (h : LooksSame q r a.leading) : a.resolve t q = a.resolve t r := by
  -- The induction goes along the starts of ranges; an end sees no current region.
  induction a with
  | dot => exact congrArg Except.ok h
  | finish => rfl
  | char n => rfl
  | line n => rfl
  | search d p =>
    cases d with
    | forward =>
      have stop : q.stop = r.stop := h
      rw [resolve, resolve, stop]
    | backward =>
      have start : q.start = r.start := h
      rw [resolve, resolve, start]
  | range a b first _ => rw [resolve_range, resolve_range, first h]

theorem resolve_range_eq_ok_iff :
    (range a b).resolve t r = .ok m ↔
      ∃ s u, a.resolve t r = .ok s ∧ b.resolve t s = .ok u ∧
        m = ⟨s.start, max s.start u.stop⟩ := by
  rw [resolve_range]
  cases first : a.resolve t r with
  | error f => simp
  | ok s =>
    cases second : b.resolve t s with
    | error f => simp [Except.map, second]
    | ok u => simp [Except.map, second, Region.between, eq_comm]

theorem resolve_range_eq_error_iff {f : Failure} :
    (range a b).resolve t r = .error f ↔
      a.resolve t r = .error f ∨ ∃ s, a.resolve t r = .ok s ∧ b.resolve t s = .error f := by
  rw [resolve_range]
  cases first : a.resolve t r with
  | error g => simp
  | ok s => cases second : b.resolve t s <;> simp [Except.map, second]

theorem resolve_of_found? {d : Direction} {p : Pattern} (found : found? t r d p = some m) :
    (search d p).resolve t r = .ok m := by
  rw [resolve_search, found, Option.elim_some]

theorem lands_singleton_iff {ss : List Region} :
    Lands t r [a] (s :: ss) ↔ a.resolve t r = .ok s ∧ ss = [] := by
  constructor
  · intro h
    cases h with
    | cons found later =>
      cases later
      exact ⟨found, rfl⟩
  · rintro ⟨found, rfl⟩
    exact .cons found (.nil s)

theorem Lands.exists_cons {ss : List Region} (h : Lands t r a.parts ss) :
    ∃ s us, ss = s :: us := by
  cases a with
  | _ =>
    cases h
    exact ⟨_, _, rfl⟩

theorem resolve_eq_ok_iff_lands :
    a.resolve t r = .ok m ↔ ∃ s ss, Lands t r a.parts (s :: ss) ∧ m = spanned s ss := by
  induction a generalizing r m with
  | range a b _ second =>
    rw [resolve_range_eq_ok_iff]
    constructor
    · rintro ⟨s, u, start, stop, rfl⟩
      obtain ⟨v, vs, lands, rfl⟩ := second.mp stop
      exact ⟨s, v :: vs, .cons start lands, rfl⟩
    · rintro ⟨s, ss, lands, rfl⟩
      cases lands with
      | cons start lands =>
        obtain ⟨v, vs, rfl⟩ := lands.exists_cons
        exact ⟨s, spanned v vs, start, second.mpr ⟨v, vs, lands, rfl⟩, rfl⟩
  | _ =>
    constructor
    · intro found
      exact ⟨m, [], .cons found (.nil m), rfl⟩
    · rintro ⟨s, ss, lands, rfl⟩
      obtain ⟨found, rfl⟩ := lands_singleton_iff.mp lands
      exact found

/-- Two current regions that look the same to the simple address at which an address begins give the
same region or the same failure. The end of a range is looked for from where its start has landed,
and from nowhere else; the range starts where its start does, and stops where its end does or is
empty. So all parts of a chain are looked for in turn, each from where the one before has landed. -/
theorem resolve_depends (t : Text) :
    (∀ (a : Address) (q r : Region), LooksSame q r a.leading → a.resolve t q = a.resolve t r) ∧
    (∀ (a b : Address) (r m : Region), (range a b).resolve t r = .ok m ↔
      ∃ s u, a.resolve t r = .ok s ∧ b.resolve t s = .ok u ∧
        m = ⟨s.start, max s.start u.stop⟩) ∧
    (∀ (a b : Address) (r : Region) (f : Failure), (range a b).resolve t r = .error f ↔
      a.resolve t r = .error f ∨ ∃ s, a.resolve t r = .ok s ∧ b.resolve t s = .error f) ∧
    ∀ (a : Address) (r m : Region), a.resolve t r = .ok m ↔
      ∃ s ss, Lands t r a.parts (s :: ss) ∧ m = spanned s ss :=
  ⟨fun _ _ _ h => resolve_eq_of_looksSame h, fun _ _ _ _ => resolve_range_eq_ok_iff,
    fun _ _ _ _ => resolve_range_eq_error_iff, fun _ _ _ => resolve_eq_ok_iff_lands⟩

theorem resolve_depends_aba :
    let a : Address := .range (.search .forward aba) (.search .forward aba)
    LooksSame ⟨0, 1⟩ ⟨1, 1⟩ a.leading ∧
      a.resolve "aba aba aba".toList ⟨0, 1⟩ = .ok ⟨4, 11⟩ ∧
      a.resolve "aba aba aba".toList ⟨1, 1⟩ = .ok ⟨4, 11⟩ := by
  intro a
  have next : (search .forward aba).resolve "aba aba aba".toList ⟨0, 1⟩ = .ok ⟨4, 7⟩ :=
    resolve_of_found? (by decide +kernel)
  have later : (search .forward aba).resolve "aba aba aba".toList ⟨4, 7⟩ = .ok ⟨8, 11⟩ :=
    resolve_of_found? (by decide +kernel)
  obtain ⟨alike, range, -, -⟩ := resolve_depends "aba aba aba".toList
  have found : a.resolve "aba aba aba".toList ⟨0, 1⟩ = .ok ⟨4, 11⟩ :=
    (range _ _ _ _).mpr ⟨_, _, next, later, rfl⟩
  exact ⟨rfl, found, (alike a ⟨0, 1⟩ ⟨1, 1⟩ rfl).symm.trans found⟩

end StructuralEdit.Address
