import StructuralEdit.Text.Utf8
/-!
The UTF-8 form of a text is read back as the text. The bytes of a character start with one that
says how many are to come, and which values the next one can have.
-/
namespace StructuralEdit.Text

theorem toBytes_cons (c : Char) (t : Text) : toBytes (c :: t) = charBytes c ++ toBytes t :=
  List.flatMap_cons

theorem toNat_toUInt8 {n : Nat} (h : n < 256) : n.toUInt8.toNat = n := by
  simpa using h

namespace Decoding

theorem ofByte_two {n : Nat} (lower : 0x80 ≤ n) (upper : n < 0x800) :
    ofByte (0xC0 + n / 64) = .begun { code := n / 64, more := 1 } := by
  have code : 0xC0 + n / 64 - 0xC0 = n / 64 := by omega
  rw [ofByte, if_neg (by omega), if_neg (by omega), if_pos (by omega), code]

theorem ofByte_three {n : Nat} (lower : 0x800 ≤ n) (upper : n < 0x10000)
    (valid : n < 0xD800 ∨ 0xDFFF < n) :
    ∃ lo hi, ofByte (0xE0 + n / 4096) = .begun { code := n / 4096, more := 2, lo, hi } ∧
      lo ≤ 0x80 + n / 64 % 64 ∧ 0x80 + n / 64 % 64 ≤ hi := by
  have code : 0xE0 + n / 4096 - 0xE0 = n / 4096 := by omega
  rw [ofByte, if_neg (by omega), if_neg (by omega), if_neg (by omega)]
  by_cases first : 0xE0 + n / 4096 = 0xE0
  · have zero : n / 4096 = 0 := by omega
    rw [if_pos first, zero]
    exact ⟨_, _, rfl, by omega, by omega⟩
  · rw [if_neg first]
    -- After this byte the second one is bounded so that no surrogate can follow.
    by_cases surrogate : 0xE0 + n / 4096 = 0xED
    · have code : n / 4096 = 13 := by omega
      rw [if_pos surrogate, code]
      exact ⟨_, _, rfl, by omega, by omega⟩
    · rw [if_neg surrogate, if_pos (by omega), code]
      exact ⟨_, _, rfl, by omega, by omega⟩

theorem ofByte_four {n : Nat} (lower : 0x10000 ≤ n) (upper : n < 0x110000) :
    ∃ lo hi, ofByte (0xF0 + n / 262144) = .begun { code := n / 262144, more := 3, lo, hi } ∧
      lo ≤ 0x80 + n / 4096 % 64 ∧ 0x80 + n / 4096 % 64 ≤ hi := by
  have code : 0xF0 + n / 262144 - 0xF0 = n / 262144 := by omega
  rw [ofByte, if_neg (by omega), if_neg (by omega), if_neg (by omega), if_neg (by omega),
    if_neg (by omega), if_neg (by omega)]
  by_cases first : 0xF0 + n / 262144 = 0xF0
  · have zero : n / 262144 = 0 := by omega
    rw [if_pos first, zero]
    exact ⟨_, _, rfl, by omega, by omega⟩
  · rw [if_neg first]
    by_cases middle : 0xF0 + n / 262144 < 0xF4
    · rw [if_pos middle, code]
      exact ⟨_, _, rfl, by omega, by omega⟩
    · have last : 0xF0 + n / 262144 = 0xF4 := by omega
      have code : n / 262144 = 4 := by omega
      rw [if_neg middle, if_pos last, code]
      exact ⟨_, _, rfl, by omega, by omega⟩

end Decoding

namespace Decoder

variable {chars : List (Option Char)}

theorem push_start {n : Nat} (h : n < 256) :
    push ⟨chars, none⟩ n.toUInt8 = take ⟨chars, none⟩ (.ofByte n) := by
  rw [push, toNat_toUInt8 h]

theorem push_next {p : PartialChar} {n : Nat} (h : n < 64) (lower : p.lo ≤ 0x80 + n)
    (upper : 0x80 + n ≤ p.hi) :
    push ⟨chars, some p⟩ (0x80 + n).toUInt8 = take ⟨chars, some p⟩ (p.next (0x80 + n)) := by
  -- A byte that the character begun allows ends it or goes on with it.
  have value : (0x80 + n).toUInt8.toNat = 0x80 + n := toNat_toUInt8 (by omega)
  rw [push]
  simp only [value, if_pos (And.intro lower upper)]

theorem push_last {code n lo hi : Nat} (h : n < 64) (lower : lo ≤ 0x80 + n)
    (upper : 0x80 + n ≤ hi) :
    push ⟨chars, some ⟨code, 1, lo, hi⟩⟩ (0x80 + n).toUInt8 =
      ⟨some (Char.ofNat (64 * code + n)) :: chars, none⟩ := by
  have value : 0x80 + n - 0x80 = n := by omega
  rw [push_next h lower upper, PartialChar.next, if_pos rfl, value]
  rfl

theorem push_more {code more n lo hi : Nat} (h : n < 64) (lower : lo ≤ 0x80 + n)
    (upper : 0x80 + n ≤ hi) :
    push ⟨chars, some ⟨code, more + 2, lo, hi⟩⟩ (0x80 + n).toUInt8 =
      ⟨chars, some { code := 64 * code + n, more := more + 1 }⟩ := by
  have value : 0x80 + n - 0x80 = n := by omega
  rw [push_next h lower upper, PartialChar.next, if_neg (by simp), value]
  rfl

theorem foldl_push_charBytes (c : Char) (chars : List (Option Char)) :
    (charBytes c).foldl push ⟨chars, none⟩ = ⟨some c :: chars, none⟩ := by
  have valid : c.toNat < 0xD800 ∨ 0xDFFF < c.toNat ∧ c.toNat < 0x110000 := c.valid
  have same : Char.ofNat c.toNat = c := Char.ofNat_toNat c
  unfold charBytes
  dsimp only
  generalize c.toNat = n at *
  -- One case for each number of bytes.
  by_cases one : n < 0x80
  · rw [if_pos one, List.foldl_cons, push_start (by omega), Decoding.ofByte, if_pos one, same]
    rfl
  rw [if_neg one]
  by_cases two : n < 0x800
  · have code : 64 * (n / 64) + n / 1 % 64 = n := by omega
    rw [if_pos two, List.foldl_cons, push_start (by omega), Decoding.ofByte_two (by omega) two,
      take, List.foldl_cons, push_last (by omega) (by omega) (by omega), code, same]
    rfl
  rw [if_neg two]
  by_cases three : n < 0x10000
  · obtain ⟨lo, hi, starts, lower, upper⟩ :=
      Decoding.ofByte_three (by omega) three (valid.imp id And.left)
    have code : 64 * (64 * (n / 4096) + n / 64 % 64) + n / 1 % 64 = n := by omega
    rw [if_pos three, List.foldl_cons, push_start (by omega), starts, take, List.foldl_cons,
      push_more (by omega) lower upper, List.foldl_cons,
      push_last (by omega) (by omega) (by omega), code, same]
    rfl
  · obtain ⟨lo, hi, starts, lower, upper⟩ := Decoding.ofByte_four (n := n) (by omega) (by omega)
    have code : 64 * (64 * (64 * (n / 262144) + n / 4096 % 64) + n / 64 % 64) + n / 1 % 64 = n := by
      omega
    rw [if_neg three, List.foldl_cons, push_start (by omega), starts, take, List.foldl_cons,
      push_more (by omega) lower upper, List.foldl_cons,
      push_more (by omega) (by omega) (by omega), List.foldl_cons,
      push_last (by omega) (by omega) (by omega), code, same]
    rfl

theorem foldl_push_toBytes (t : Text) (chars : List (Option Char)) :
    (toBytes t).foldl push ⟨chars, none⟩ = ⟨(t.map some).reverse ++ chars, none⟩ := by
  induction t generalizing chars with
  | nil => rfl
  | cons c t ih =>
    rw [toBytes_cons, List.foldl_append, foldl_push_charBytes, ih, List.map_cons, List.reverse_cons,
      List.append_assoc]
    rfl

end Decoder

theorem decode_toBytes (t : Text) : decode (toBytes t) = t.map some := by
  rw [decode, Decoder.foldl_push_toBytes]
  simp [Decoder.finish]

/-- The UTF-8 form of a text stands for that text. -/
theorem ofBytes?_toBytes (t : Text) : ofBytes? (toBytes t) = some t := by
  rw [ofBytes?, decode_toBytes, List.mapM_map]
  exact List.mapM_pure.trans (congrArg some (List.map_id t))

end StructuralEdit.Text
