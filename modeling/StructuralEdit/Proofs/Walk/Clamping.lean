import StructuralEdit.Proofs.Text.Utf8
import StructuralEdit.Proofs.Walk.Regions
/-!
Places moved back to where a character starts. In the UTF-8 form of a text each byte tells whether
it starts a character or goes on with one, so a machine that sees only the bytes can move a place
down until a character starts there. It ends at the nearest such place that is not behind the given
one. Hence places keep their order, and the two ends of a region need no further care.
-/
namespace StructuralEdit

namespace Text

def continues (b : UInt8) : Bool := 0x80 ≤ b.toNat && b.toNat < 0xC0

def startsAt (bytes : List UInt8) (n : Nat) : Bool :=
  n = 0 ||
    match bytes[n]? with
    | some b => !continues b
    | none => n = bytes.length

/-- Moves a place down to the next one where a character starts. There is no place below the
first. -/
def descend (bytes : List UInt8) : Nat → Option Nat
  | 0 => if startsAt bytes 0 then some 0 else none
  | n + 1 => if startsAt bytes (n + 1) then some (n + 1) else descend bytes n

section Bytes

variable {c : Char} {t : Text} {n : Nat}

theorem continues_later (ns : List Nat) :
    ∀ b ∈ ns.map fun n => (0x80 + n % 64).toUInt8, continues b := by
  intro b hb
  obtain ⟨n, -, rfl⟩ := List.mem_map.1 hb
  rw [continues, toNat_toUInt8 (by omega), Bool.and_eq_true, decide_eq_true_iff, decide_eq_true_iff]
  omega

theorem not_continues_first (h : n < 0x80 ∨ 0xC0 ≤ n ∧ n < 256) : continues n.toUInt8 = false := by
  rw [continues, toNat_toUInt8 (by omega), Bool.and_eq_false_iff, decide_eq_false_iff_not,
    decide_eq_false_iff_not]
  omega

theorem utf8Size_eq (c : Char) : c.utf8Size =
    if c.toNat < 0x80 then 1 else if c.toNat < 0x800 then 2 else if c.toNat < 0x10000 then 3
    else 4 := by
  unfold Char.utf8Size
  simp only [UInt32.le_iff_toNat_le, ← Nat.lt_succ_iff]
  rfl

theorem charBytes_shape (c : Char) : ∃ first later, charBytes c = first :: later ∧
    later.length + 1 = c.utf8Size ∧ continues first = false ∧ ∀ b ∈ later, continues b := by
  have valid : c.toNat < 0xD800 ∨ 0xDFFF < c.toNat ∧ c.toNat < 0x110000 := c.valid
  rw [charBytes, utf8Size_eq]
  dsimp only
  by_cases one : c.toNat < 0x80
  · rw [if_pos one, if_pos one]
    exact ⟨_, [], rfl, rfl, not_continues_first (Or.inl one), List.forall_mem_nil _⟩
  rw [if_neg one, if_neg one]
  by_cases two : c.toNat < 0x800
  · rw [if_pos two, if_pos two]
    exact ⟨_, _, rfl, rfl, not_continues_first (by omega), continues_later [c.toNat / 1]⟩
  rw [if_neg two, if_neg two]
  by_cases three : c.toNat < 0x10000
  · rw [if_pos three, if_pos three]
    exact ⟨_, _, rfl, rfl, not_continues_first (by omega),
      continues_later [c.toNat / 64, c.toNat / 1]⟩
  · rw [if_neg three, if_neg three]
    exact ⟨_, _, rfl, rfl, not_continues_first (by omega),
      continues_later [c.toNat / 4096, c.toNat / 64, c.toNat / 1]⟩

theorem length_charBytes (c : Char) : (charBytes c).length = c.utf8Size := by
  obtain ⟨first, later, shape, size, -, -⟩ := charBytes_shape c
  rw [shape, List.length_cons, size]

theorem length_toBytes (t : Text) : (toBytes t).length = t.size := by
  induction t with
  | nil => rfl
  | cons c t ih => rw [toBytes_cons, List.length_append, length_charBytes, ih, size_cons]

theorem startsAt_zero (bytes : List UInt8) : startsAt bytes 0 := rfl

theorem startsAt_within (positive : 0 < n) (within : n < c.utf8Size) :
    startsAt (toBytes (c :: t)) n = false := by
  obtain ⟨first, later, shape, size, -, goesOn⟩ := charBytes_shape c
  obtain ⟨k, rfl⟩ := Nat.exists_eq_add_one_of_ne_zero (Nat.ne_zero_of_lt positive)
  have inside : k < later.length := by omega
  have byte : (toBytes (c :: t))[k + 1]? = some later[k] := by
    rw [toBytes_cons, shape, List.cons_append, List.getElem?_cons_succ,
      List.getElem?_append_left inside, List.getElem?_eq_getElem inside]
  simp [startsAt, byte, goesOn _ (List.getElem_mem inside)]

theorem startsAt_behind (c : Char) (t : Text) (n : Nat) :
    startsAt (toBytes (c :: t)) (c.utf8Size + n) = startsAt (toBytes t) n := by
  have positive := c.utf8Size_pos
  have byte : (toBytes (c :: t))[c.utf8Size + n]? = (toBytes t)[n]? := by
    rw [toBytes_cons, List.getElem?_append_right (by rw [length_charBytes]; omega),
      length_charBytes, Nat.add_sub_cancel_left]
  have length : (toBytes (c :: t)).length = c.utf8Size + (toBytes t).length := by
    rw [toBytes_cons, List.length_append, length_charBytes]
  cases n with
  | zero =>
    -- The place is the front of the rest, which starts a character or is the end.
    rw [startsAt_zero, startsAt, byte, length]
    cases t with
    | nil => simp [toBytes]
    | cons d t =>
      obtain ⟨first, later, shape, -, starts, -⟩ := charBytes_shape d
      have front : (toBytes (d :: t))[0]? = some first := by
        rw [toBytes_cons, shape]
        rfl
      simp [front, starts]
  | succ n => simp [startsAt, byte, length]

theorem isBoundary_within (positive : 0 < n) (within : n < c.utf8Size) :
    isBoundary (c :: t) n = false := by
  rw [isBoundary, clamp, takeBytes, if_neg (by omega), decide_eq_false_iff_not]
  exact Nat.ne_of_lt positive

theorem isBoundary_behind (c : Char) (t : Text) (n : Nat) :
    isBoundary (c :: t) (c.utf8Size + n) = isBoundary t n := by
  rw [isBoundary, isBoundary, clamp, clamp, takeBytes, if_pos (Nat.le_add_right _ _), size_cons,
    Nat.add_sub_cancel_left]
  simp

theorem startsAt_toBytes (t : Text) (n : Nat) : startsAt (toBytes t) n = t.isBoundary n := by
  induction t generalizing n with
  | nil => simp [startsAt, toBytes, isBoundary, clamp, takeBytes, eq_comm]
  | cons c t ih =>
    by_cases front : n = 0
    · rw [front, startsAt_zero, isBoundary_zero]
    · by_cases within : n < c.utf8Size
      · have positive := Nat.pos_of_ne_zero front
        rw [startsAt_within positive within, isBoundary_within positive within]
      · obtain ⟨k, rfl⟩ := Nat.exists_eq_add_of_le (Nat.le_of_not_lt within)
        rw [startsAt_behind, isBoundary_behind, ih]

end Bytes

variable {t : Text} {a b m n : Nat}

theorem clamp_le (t : Text) (n : Nat) : t.clamp n ≤ n := by
  induction t generalizing n with
  | nil => exact Nat.zero_le n
  | cons c t ih =>
    rw [clamp, takeBytes]
    split
    · next fits =>
      have later : size (takeBytes t (n - c.utf8Size)) ≤ n - c.utf8Size := ih _
      rw [size_cons]
      omega
    · exact Nat.zero_le n

theorem le_clamp (boundary : t.isBoundary m) (h : m ≤ n) : m ≤ t.clamp n := by
  obtain ⟨u, v, rfl, rfl⟩ := isBoundary_iff.1 boundary
  obtain ⟨more, rfl⟩ := Nat.exists_eq_add_of_le h
  rw [clamp, takeBytes_append_size, size_append]
  exact Nat.le_add_right _ _

theorem clamp_eq_self (h : t.isBoundary n) : t.clamp n = n := size_takeBytes h

theorem clamp_mono (h : m ≤ n) : t.clamp m ≤ t.clamp n :=
  le_clamp (isBoundary_clamp t m) (Nat.le_trans (clamp_le t m) h)

theorem clamp_min_le_clamp_max (t : Text) (a b : Nat) : t.clamp (min a b) ≤ t.clamp (max a b) :=
  clamp_mono (Nat.le_trans (Nat.min_le_left a b) (Nat.le_max_left a b))

theorem clampRegion_eq_clamp (t : Text) (a b : Nat) :
    t.clampRegion a b = ⟨t.clamp (min a b), t.clamp (max a b)⟩ :=
  congrArg _ (Nat.max_eq_right (clamp_min_le_clamp_max t a b))

theorem clamp_eq_clamp (h : m ≤ n) (inside : t.clamp n ≤ m) : t.clamp n = t.clamp m :=
  Nat.le_antisymm (le_clamp (isBoundary_clamp t n) inside) (clamp_mono h)

theorem clamp_le_size (t : Text) (n : Nat) : t.clamp n ≤ t.size :=
  isBoundary_le (isBoundary_clamp t n)

theorem clamp_min_size (t : Text) (n : Nat) : t.clamp (min n t.size) = t.clamp n :=
  (clamp_eq_clamp (Nat.min_le_left _ _)
    (Nat.le_min.2 ⟨clamp_le t n, clamp_le_size t n⟩)).symm

theorem lt_clamp_add_four (t : Text) (n : Nat) : min n t.size < t.clamp n + 4 := by
  induction t generalizing n with
  | nil => simp [clamp]
  | cons c t ih =>
    have four := c.utf8Size_le_four
    rw [clamp, takeBytes]
    split
    · next fits =>
      have later : min (n - c.utf8Size) (size t) < size (takeBytes t (n - c.utf8Size)) + 4 := ih _
      rw [size_cons, size_cons]
      omega
    · omega

theorem descend_eq (t : Text) (n : Nat) : descend t.toBytes n = some (t.clamp n) := by
  induction n with
  | zero => rw [descend, if_pos (startsAt_zero _), clamp_eq_self (isBoundary_zero t)]
  | succ n ih =>
    rw [descend, startsAt_toBytes]
    split
    · next boundary => rw [clamp_eq_self boundary]
    · next other =>
      have moves : t.clamp (n + 1) ≠ n + 1 := fun same => other (decide_eq_true same)
      have below : t.clamp (n + 1) ≤ n := by
        have := clamp_le t (n + 1)
        omega
      rw [ih, clamp_eq_clamp (Nat.le_succ n) below]

/-- The last place up to `n` and the end of the text at which the bytes show that a character starts
or the text stops. -/
structure Nearest (t : Text) (n m : Nat) : Prop where
  starts : startsAt t.toBytes m
  inside : m ≤ min n t.size
  greatest : ∀ k, startsAt t.toBytes k → k ≤ min n t.size → k ≤ m

theorem nearest_clamp (t : Text) (n : Nat) : t.Nearest n (t.clamp n) := by
  refine ⟨?_, Nat.le_min.2 ⟨clamp_le t n, clamp_le_size t n⟩, fun k starts inside => ?_⟩
  · rw [startsAt_toBytes]
    exact isBoundary_clamp t n
  · rw [startsAt_toBytes] at starts
    exact le_clamp starts (Nat.le_trans inside (Nat.min_le_left _ _))

end Text

namespace Checked

variable {t : Text}

def clamp (t : Text) (n : Nat) : Option Nat := Text.descend t.toBytes (min n t.toBytes.length)

def clampRegion (t : Text) (a b : Nat) : Option Region := do
  let (low, high) := if a ≤ b then (a, b) else (b, a)
  let start ← clamp t low
  let stop ← clamp t high
  if start ≤ stop then return ⟨start, stop⟩ else none

theorem clamp_eq (t : Text) (n : Nat) : clamp t n = some (t.clamp n) := by
  rw [clamp, Text.descend_eq, Text.length_toBytes, Text.clamp_min_size]

theorem clampRegion_eq (t : Text) (a b : Nat) : clampRegion t a b = some (t.clampRegion a b) := by
  have ends : (if a ≤ b then (a, b) else (b, a)) = (min a b, max a b) := by
    split
    · next h => rw [Nat.min_eq_left h, Nat.max_eq_right h]
    · next h =>
      have le := Nat.le_of_not_le h
      rw [Nat.min_eq_right le, Nat.max_eq_left le]
  simp only [clampRegion, ends, clamp_eq, bind, Option.bind, if_pos (t.clamp_min_le_clamp_max a b),
    Text.clampRegion_eq_clamp]
  rfl

end Checked

namespace Text

variable {t : Text} {a b n : Nat}

/-- What two places, in either order, are moved to: a region of whole characters inside the text,
whose ends are in order as soon as each has been moved by itself. One that is valid is kept. -/
structure ClampedRegion (t : Text) (a b : Nat) (r : Region) : Prop where
  ends : Checked.clampRegion t a b = some r
  swapped : t.clampRegion b a = r
  between : r = ⟨t.clamp (min a b), t.clamp (max a b)⟩
  ordered : r.start ≤ r.stop
  inside : r.stop ≤ t.size
  starts : startsAt t.toBytes r.start
  stops : startsAt t.toBytes r.stop
  kept : a ≤ b → startsAt t.toBytes a → startsAt t.toBytes b → r = ⟨a, b⟩

theorem clampRegion_comm (t : Text) (a b : Nat) : t.clampRegion a b = t.clampRegion b a := by
  rw [clampRegion, clampRegion, Nat.min_comm, Nat.max_comm]

theorem clampedRegion (t : Text) (a b : Nat) : t.ClampedRegion a b (t.clampRegion a b) := by
  obtain ⟨ordered, starts, stops⟩ := valid_clampRegion t a b
  refine ⟨Checked.clampRegion_eq t a b, clampRegion_comm t b a, clampRegion_eq_clamp t a b, ordered,
    isBoundary_le stops, ?_, ?_, fun le startsA startsB => ?_⟩
  · rwa [startsAt_toBytes]
  · rwa [startsAt_toBytes]
  · rw [startsAt_toBytes] at startsA startsB
    rw [clampRegion_eq_clamp, Nat.min_eq_left le, Nat.max_eq_right le, clamp_eq_self startsA,
      clamp_eq_self startsB]

/-- Moving a place down byte by byte ends, after three steps at most, at the nearest place in the
text where a character starts or the text stops. Places keep their order, one that has been moved
is not moved again, and neither is one where a character starts. So two places in either order give
a valid region. -/
theorem clampRegion_nearest (t : Text) :
    (∀ n, Checked.clamp t n = some (t.clamp n) ∧ t.Nearest n (t.clamp n) ∧
      min n t.size < t.clamp n + 4) ∧
      (∀ m n, m ≤ n → t.clamp m ≤ t.clamp n) ∧
      (∀ n, t.clamp (t.clamp n) = t.clamp n) ∧
      (∀ n, startsAt t.toBytes n → t.clamp n = n) ∧
      ∀ a b, t.ClampedRegion a b (t.clampRegion a b) := by
  refine ⟨fun n => ⟨Checked.clamp_eq t n, nearest_clamp t n, lt_clamp_add_four t n⟩,
    fun _ _ => clamp_mono, fun n => clamp_eq_self (isBoundary_clamp t n), fun n starts => ?_,
    clampedRegion t⟩
  rw [startsAt_toBytes] at starts
  exact clamp_eq_self starts

/-- Characters of one, two, three and four bytes, seen from within and from behind the text. -/
example : [0, 2, 3, 5, 9, 10, 11].map (clamp "aé€𝄞".toList) = [0, 1, 3, 3, 6, 10, 10] ∧
    Checked.clampRegion "aé€𝄞".toList 8 2 = some ⟨1, 6⟩ := by decide

end Text

end StructuralEdit
