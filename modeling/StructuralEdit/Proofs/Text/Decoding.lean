import StructuralEdit.Proofs.Text.Utf8
/-!
Bytes that stand for a text are the UTF-8 form of this text, and of no other. What a decoder has
taken without a fault is the form of the characters that it has given, and then the bytes of one
that has begun: whatever bytes it allows next complete them to the form of a character.
-/
namespace StructuralEdit.Text

section Bytes

variable {a b c d : UInt8} {n lo hi : Nat}

theorem toUInt8_eq (h : n = a.toNat) : n.toUInt8 = a := by
  rw [h]
  exact UInt8.ofNat_toNat

theorem toNat_ofNat (valid : n < 0xD800 ∨ 0xDFFF < n ∧ n < 0x110000) :
    (Char.ofNat n).toNat = n := by
  rw [Char.ofNat, dif_pos valid]
  rfl

theorem charBytes_one (h : a.toNat < 0x80) : charBytes (Char.ofNat a.toNat) = [a] := by
  rw [charBytes, toNat_ofNat (by omega)]
  dsimp only
  rw [if_pos h, toUInt8_eq rfl]

theorem charBytes_two (code : n = 64 * (a.toNat - 0xC0) + (b.toNat - 0x80))
    (first : 0xC2 ≤ a.toNat ∧ a.toNat < 0xE0) (second : 0x80 ≤ b.toNat ∧ b.toNat ≤ 0xBF) :
    charBytes (Char.ofNat n) = [a, b] := by
  have one : 0xC0 + n / 64 = a.toNat := by omega
  have two : 0x80 + n / 1 % 64 = b.toNat := by omega
  rw [charBytes, toNat_ofNat (by omega)]
  dsimp only
  rw [if_neg (by omega), if_pos (by omega), toUInt8_eq one, toUInt8_eq two]

theorem charBytes_three
    (code : n = 64 * (64 * (a.toNat - 0xE0) + (b.toNat - 0x80)) + (c.toNat - 0x80))
    (first : 0xE0 ≤ a.toNat ∧ a.toNat < 0xF0) (second : 0x80 ≤ b.toNat ∧ b.toNat ≤ 0xBF)
    (third : 0x80 ≤ c.toNat ∧ c.toNat ≤ 0xBF) (long : 0x800 ≤ n)
    (valid : n < 0xD800 ∨ 0xDFFF < n) : charBytes (Char.ofNat n) = [a, b, c] := by
  have one : 0xE0 + n / 4096 = a.toNat := by omega
  have two : 0x80 + n / 64 % 64 = b.toNat := by omega
  have three : 0x80 + n / 1 % 64 = c.toNat := by omega
  rw [charBytes, toNat_ofNat (by omega)]
  dsimp only
  rw [if_neg (by omega), if_neg (by omega), if_pos (by omega), toUInt8_eq one, toUInt8_eq two,
    toUInt8_eq three]

theorem charBytes_four
    (code : n = 64 * (64 * (64 * (a.toNat - 0xF0) + (b.toNat - 0x80)) + (c.toNat - 0x80)) +
      (d.toNat - 0x80))
    (first : 0xF0 ≤ a.toNat ∧ a.toNat < 0xF5) (second : 0x80 ≤ b.toNat ∧ b.toNat ≤ 0xBF)
    (third : 0x80 ≤ c.toNat ∧ c.toNat ≤ 0xBF) (fourth : 0x80 ≤ d.toNat ∧ d.toNat ≤ 0xBF)
    (long : 0x10000 ≤ n) (valid : n < 0x110000) : charBytes (Char.ofNat n) = [a, b, c, d] := by
  have one : 0xF0 + n / 262144 = a.toNat := by omega
  have two : 0x80 + n / 4096 % 64 = b.toNat := by omega
  have three : 0x80 + n / 64 % 64 = c.toNat := by omega
  have four : 0x80 + n / 1 % 64 = d.toNat := by omega
  rw [charBytes, toNat_ofNat (by omega)]
  dsimp only
  rw [if_neg (by omega), if_neg (by omega), if_neg (by omega), toUInt8_eq one, toUInt8_eq two,
    toUInt8_eq three, toUInt8_eq four]

def Begins : Nat → Nat → Nat → Nat → List UInt8 → Prop
  | 0, _, _, _, _ => False
  | 1, code, lo, hi, bs => ∀ b : UInt8, lo ≤ b.toNat → b.toNat ≤ hi →
    charBytes (Char.ofNat (64 * code + (b.toNat - 0x80))) = bs ++ [b]
  | more + 2, code, lo, hi, bs => ∀ b : UInt8, lo ≤ b.toNat → b.toNat ≤ hi →
    Begins (more + 1) (64 * code + (b.toNat - 0x80)) 0x80 0xBF (bs ++ [b])

theorem begins_two (first : 0xC2 ≤ a.toNat ∧ a.toNat < 0xE0) :
    Begins 1 (a.toNat - 0xC0) 0x80 0xBF [a] :=
  fun _ lower upper => charBytes_two rfl first ⟨lower, upper⟩

theorem begins_three (lo hi : Nat) (first : 0xE0 ≤ a.toNat ∧ a.toNat < 0xF0) (bounds : 0x80 ≤ lo ∧ hi ≤ 0xBF)
    (long : a.toNat = 0xE0 → 0xA0 ≤ lo) (valid : a.toNat = 0xED → hi ≤ 0x9F) :
    Begins 2 (a.toNat - 0xE0) lo hi [a] := by
  -- The bounds keep out what has a shorter form, and the surrogates.
  intro b lower upper c lower' upper'
  exact charBytes_three rfl first (by omega) ⟨lower', upper'⟩ (by omega) (by omega)

theorem begins_four (lo hi : Nat) (first : 0xF0 ≤ a.toNat ∧ a.toNat < 0xF5) (bounds : 0x80 ≤ lo ∧ hi ≤ 0xBF)
    (long : a.toNat = 0xF0 → 0x90 ≤ lo) (valid : a.toNat = 0xF4 → hi ≤ 0x8F) :
    Begins 3 (a.toNat - 0xF0) lo hi [a] := by
  intro b lower upper c lower' upper' d lower'' upper''
  exact charBytes_four rfl first (by omega) ⟨lower', upper'⟩ ⟨lower'', upper''⟩ (by omega)
    (by omega)

end Bytes

variable {bs : List UInt8} {t : Text}

def Decoding.Spells (bs : List UInt8) : Decoding → Prop
  | .char c => charBytes c = bs
  | .begun p => Begins p.more p.code p.lo p.hi bs
  | .invalid => True

theorem Decoding.spells_ofByte (a : UInt8) : (ofByte a.toNat).Spells [a] := by
  unfold ofByte
  split
  · next one => exact charBytes_one one
  split
  · trivial
  split
  · exact begins_two (by omega)
  split
  · next least =>
    have begins := begins_three (a := a) 0xA0 0xBF
    rw [least] at begins
    exact begins (by decide) (by decide) (by decide) (by decide)
  split
  · next surrogates =>
    have begins := begins_three (a := a) 0x80 0x9F
    rw [surrogates] at begins
    exact begins (by decide) (by decide) (by decide) (by decide)
  split
  · exact begins_three 0x80 0xBF (by omega) ⟨Nat.le_refl _, Nat.le_refl _⟩ (by omega) (by omega)
  split
  · next least =>
    have begins := begins_four (a := a) 0x90 0xBF
    rw [least] at begins
    exact begins (by decide) (by decide) (by decide) (by decide)
  split
  · exact begins_four 0x80 0xBF (by omega) ⟨Nat.le_refl _, Nat.le_refl _⟩ (by omega) (by omega)
  split
  · next greatest =>
    have begins := begins_four (a := a) 0x80 0x8F
    rw [greatest] at begins
    exact begins (by decide) (by decide) (by decide) (by decide)
  · trivial

theorem Decoding.spells_next {p : PartialChar} {b : UInt8}
    (begins : Begins p.more p.code p.lo p.hi bs) (lower : p.lo ≤ b.toNat) (upper : b.toNat ≤ p.hi) :
    (p.next b.toNat).Spells (bs ++ [b]) := by
  obtain ⟨code, more, lo, hi⟩ := p
  match more with
  | 0 => exact begins.elim
  | 1 => exact begins b lower upper
  | more + 2 => exact begins b lower upper

namespace Decoder

/-- A decoder that has taken the bytes and has found no fault: they are the form of its characters,
and then bytes that begin one more if it is within a character. -/
def Taken (bs : List UInt8) (d : Decoder) : Prop :=
  ∃ t begun, d.chars = (t.map some).reverse ∧ bs = toBytes t ++ begun ∧
    match d.begun with
    | none => begun = []
    | some p => Begins p.more p.code p.lo p.hi begun

theorem toBytes_concat (t : Text) (c : Char) : toBytes (t ++ [c]) = toBytes t ++ charBytes c := by
  simp [toBytes]

theorem taken_take {chars : List (Option Char)} {p : Option PartialChar} {found : Decoding}
    (whole : chars = (t.map some).reverse) (spells : found.Spells bs)
    (sound : none ∉ (take ⟨chars, p⟩ found).chars) :
    Taken (toBytes t ++ bs) (take ⟨chars, p⟩ found) := by
  cases found with
  | char c =>
    refine ⟨t ++ [c], [], ?_, ?_, rfl⟩
    · simp [take, whole]
    · rw [toBytes_concat, List.append_nil, show charBytes c = bs from spells]
  | begun q => exact ⟨t, bs, whole, rfl, spells⟩
  | invalid => exact absurd List.mem_cons_self sound

theorem none_mem_take {d : Decoder} (h : none ∈ d.chars) (found : Decoding) :
    none ∈ (d.take found).chars := by
  cases found with
  | char c => exact List.mem_cons_of_mem _ h
  | begun q => exact h
  | invalid => exact List.mem_cons_self

theorem none_mem_push {d : Decoder} (h : none ∈ d.chars) (b : UInt8) : none ∈ (d.push b).chars := by
  unfold push
  dsimp only
  split
  · exact none_mem_take h _
  · split
    · exact none_mem_take h _
    · exact none_mem_take (List.mem_cons_of_mem _ h) _

theorem taken_push {d : Decoder} {b : UInt8} (h : Taken bs d) (sound : none ∉ (d.push b).chars) :
    Taken (bs ++ [b]) (d.push b) := by
  obtain ⟨chars, p⟩ := d
  obtain ⟨t, begun, whole, rfl, within⟩ := h
  rw [List.append_assoc]
  cases p with
  | none =>
    have closed : begun = [] := within
    rw [closed]
    exact taken_take whole (Decoding.spells_ofByte b) sound
  | some p =>
    by_cases allowed : p.lo ≤ b.toNat ∧ b.toNat ≤ p.hi
    · have goes : push ⟨chars, some p⟩ b = take ⟨chars, some p⟩ (p.next b.toNat) := if_pos allowed
      rw [goes] at sound ⊢
      exact taken_take whole (Decoding.spells_next within allowed.1 allowed.2) sound
    · have breaks : push ⟨chars, some p⟩ b = take ⟨none :: chars, some p⟩ (.ofByte b.toNat) :=
        if_neg allowed
      rw [breaks] at sound
      exact absurd (none_mem_take List.mem_cons_self _) sound

theorem none_mem_foldl {d : Decoder} (h : none ∈ d.chars) (bs : List UInt8) :
    none ∈ (bs.foldl push d).chars := by
  induction bs generalizing d with
  | nil => exact h
  | cons b bs ih => exact ih (none_mem_push h b)

theorem taken_foldl {d : Decoder} {front : List UInt8} (h : Taken front d)
    (sound : none ∉ (bs.foldl push d).chars) : Taken (front ++ bs) (bs.foldl push d) := by
  induction bs generalizing d front with
  | nil => rwa [List.append_nil]
  | cons b bs ih =>
    rw [← List.singleton_append, ← List.append_assoc]
    exact ih (taken_push h fun fault => sound (none_mem_foldl fault bs)) sound

end Decoder

theorem decode_eq_map_iff : decode bs = t.map some ↔ bs = toBytes t := by
  constructor
  · intro decoded
    have sound : none ∉ t.map some := by simp
    rw [← decoded, decode, Decoder.finish, List.mem_reverse] at sound
    by_cases open_ : (bs.foldl Decoder.push {}).begun.isSome
    · rw [if_pos open_] at sound
      exact absurd List.mem_cons_self sound
    · rw [if_neg open_] at sound
      have start : Decoder.Taken [] {} := ⟨[], [], rfl, rfl, rfl⟩
      obtain ⟨u, begun, whole, split, within⟩ := Decoder.taken_foldl start sound
      rw [List.nil_append] at split
      rw [decode, Decoder.finish, if_neg open_, whole, List.reverse_reverse] at decoded
      have same : u = t := (List.map_inj_right fun _ _ => Option.some.inj).1 decoded
      have closed : (bs.foldl Decoder.push {}).begun = none := by simpa using open_
      rw [closed] at within
      rw [split, same, show begun = [] from within, List.append_nil]
  · rintro rfl
    exact decode_toBytes t

theorem mapM_id_eq_some_iff {α : Type} {xs : List (Option α)} {ys : List α} :
    xs.mapM id = some ys ↔ xs = ys.map some := by
  induction xs generalizing ys with
  | nil => cases ys <;> simp
  | cons x xs ih =>
    cases x with
    | none => cases ys <;> simp
    | some x =>
      have step : (some x :: xs).mapM id = (xs.mapM id).map (x :: ·) := by
        rw [List.mapM_cons]
        cases xs.mapM id <;> rfl
      rw [step, Option.map_eq_some_iff]
      constructor
      · rintro ⟨zs, whole, rfl⟩
        rw [ih.1 whole]
        rfl
      · intro same
        cases ys with
        | nil => cases same
        | cons y ys =>
          obtain ⟨first, later⟩ := List.cons.inj same
          obtain rfl := Option.some.inj first
          exact ⟨ys, ih.2 later, rfl⟩

/-- Bytes stand for a text if and only if they are its form. -/
theorem ofBytes?_eq_some_iff : ofBytes? bs = some t ↔ bs = toBytes t := by
  rw [ofBytes?, mapM_id_eq_some_iff, decode_eq_map_iff]

/-- An overlong form, a surrogate, and a character without its last byte. -/
example : [[0xC0, 0x80], [0xED, 0xA0, 0x80], [0xE2, 0x82]].map ofBytes? = [none, none, none] := by
  decide

end StructuralEdit.Text
