import StructuralEdit.Command.Read
import StructuralEdit.Proofs.Grammar.Rules
import StructuralEdit.Proofs.Text.Blank
import StructuralEdit.Proofs.Text.Escape
/-!
Blanks, texts between delimiters and numbers: how the grammar spells them, how they are split and
how they are written.
-/
namespace StructuralEdit

variable {s t u v rest : Text} {d : Char}

section Blanks

theorem Blanks.nil : Blanks [] := fun _ hc => absurd hc List.not_mem_nil

theorem Blanks.tail {c : Char} (h : Blanks (c :: s)) : Blanks s :=
  fun x hx => h x (List.mem_cons_of_mem c hx)

theorem Blanks.append (hs : Blanks s) (ht : Blanks t) : Blanks (s ++ t) := by
  intro c hc
  rcases List.mem_append.1 hc with first | second
  · exact hs c first
  · exact ht c second

theorem Blanks.append_iff (ht : Blanks t) : Blanks (s ++ t) ↔ Blanks s :=
  ⟨fun h c hc => h c (List.mem_append_left t hc), fun hs => hs.append ht⟩

theorem Blanks.trimStart_append (hs : Blanks s) (t : Text) :
    (s ++ t).trimStart = t.trimStart := List.dropWhile_append_of_pos hs

theorem Blanks.trimStart_eq_nil (hs : Blanks s) : s.trimStart = [] := by
  have all := hs.trimStart_append []
  rwa [List.append_nil] at all

theorem Blanks.takeWhile (s : Text) : Blanks (s.takeWhile Char.isBlank) :=
  List.all_eq_true.1 List.all_takeWhile

theorem exists_trimEnd (s : Text) : ∃ b, Blanks b ∧ s = Text.trimEnd s ++ b := by
  refine ⟨(s.reverse.takeWhile Char.isBlank).reverse, ?_, ?_⟩
  · exact fun c hc => Blanks.takeWhile s.reverse c (List.mem_reverse.1 hc)
  · rw [Text.trimEnd, ← List.reverse_append, List.takeWhile_append_dropWhile,
      List.reverse_reverse]

theorem trimStart_eq_nil_iff : s.trimStart = [] ↔ Blanks s := by
  constructor
  · intro none
    have whole : s = s.takeWhile Char.isBlank ++ s.trimStart :=
      List.takeWhile_append_dropWhile.symm
    rw [none, List.append_nil] at whole
    rw [whole]
    exact .takeWhile s
  · exact Blanks.trimStart_eq_nil

theorem trim_eq_nil_iff : Text.trim s = [] ↔ Blanks s := by
  rw [← trimStart_eq_nil_iff]
  constructor
  · intro none
    obtain ⟨b, blanks, split⟩ := exists_trimEnd s.trimStart
    rw [← Text.trim, none, List.nil_append] at split
    rw [← Text.trimStart_trimStart, split]
    exact blanks.trimStart_eq_nil
  · intro none
    rw [Text.trim, none]
    rfl

theorem Blanks.trim_append (hb : Blanks s) (t : Text) : Text.trim (t ++ s) = Text.trim t := by
  by_cases none : t.trimStart = []
  · have blanks : Blanks t := trimStart_eq_nil_iff.1 none
    rw [trim_eq_nil_iff.2 (blanks.append hb), trim_eq_nil_iff.2 blanks]
  · have back : Blanks s.reverse := fun c hc => hb c (List.mem_reverse.1 hc)
    rw [Text.trim, Text.trimStart_append_of_ne_nil none, Text.trimEnd_eq, List.reverse_append,
      back.trimStart_append, ← Text.trimEnd_eq, ← Text.trim]

theorem Skips.refl (s : Text) : Skips s s := ⟨[], .nil, rfl⟩

theorem Skips.trans (first : Skips s t) (second : Skips t u) : Skips s u := by
  obtain ⟨b, hb, rfl⟩ := first
  obtain ⟨b', hb', rfl⟩ := second
  exact ⟨b ++ b', hb.append hb', (List.append_assoc b b' u).symm⟩

theorem Skips.trimStart_eq (h : Skips s t) : s.trimStart = t.trimStart := by
  obtain ⟨b, hb, rfl⟩ := h
  exact hb.trimStart_append t

theorem skips_trimStart (s : Text) : Skips s s.trimStart :=
  ⟨s.takeWhile Char.isBlank, .takeWhile s, List.takeWhile_append_dropWhile.symm⟩

theorem Input.skipBlanks_rest (i : Input) : i.skipBlanks.rest = i.rest.trimStart := rfl

theorem Input.skips_skipBlanks (i : Input) : Skips i.rest i.skipBlanks.rest :=
  skips_trimStart i.rest

theorem closes_iff : Closes s ↔ ∀ c ∈ s.trimStart.head?, c = '}' := by
  constructor
  · rintro ⟨t, skips, ended⟩
    have solid : ∀ c ∈ t.head?, c.isBlank = false := by
      intro c hc
      rw [ended c hc]
      decide
    rwa [skips.trimStart_eq, Text.trimStart_eq_self solid]
  · intro ended
    exact ⟨s.trimStart, skips_trimStart s, ended⟩

theorem Skips.closes (h : Skips s t) (closes : Closes t) : Closes s := by
  obtain ⟨u, skips, ended⟩ := closes
  exact ⟨u, h.trans skips, ended⟩

theorem Input.atClose_iff {i : Input} : i.atClose = true ↔ ∀ c ∈ i.rest.head?, c = '}' := by
  unfold atClose
  split
  · next c t cons => simp [cons]
  · next empty => simp [empty]

theorem Input.atClose_skipBlanks {i : Input} :
    i.skipBlanks.atClose = true ↔ Closes i.rest := atClose_iff.trans closes_iff.symm

end Blanks

section Delimited

theorem Delimited.escaped {e : Char} (hd : d ≠ '\\') (h : Delimited d u t) :
    Delimited d ('\\' :: e :: u) (unescapeChar d e ++ t) := by
  unfold unescapeChar
  split
  · next feed => exact feed ▸ .feed h
  split
  · next tab => exact tab ▸ .tab h
  split
  · next backslash => exact backslash ▸ .backslash h
  split
  · next n t _ same =>
    subst same
    exact .delimiter n t h
  · next n t backslash other => exact .pair (by simp [n, t, backslash, other]) h

theorem unescape_delimited (h : unescape d s = some (t, rest)) :
    ∃ u, Delimited d u t ∧ s = u ++ rest := by
  induction s using unescape.induct d generalizing t with
  | case1 => cases h
  | case2 s =>
    rw [unescape_delimiter] at h
    cases h
    exact ⟨[d], .close, rfl⟩
  | case3 hd => simp [unescape, hd] at h
  | case4 e s hd ih =>
    rw [unescape_backslash (Ne.symm hd)] at h
    obtain ⟨⟨a, r⟩, inner, same⟩ := Option.map_eq_some_iff.1 h
    cases same
    obtain ⟨u, delimited, rfl⟩ := ih inner
    exact ⟨'\\' :: e :: u, delimited.escaped (Ne.symm hd), rfl⟩
  | case5 c s hc plain ih =>
    rw [unescape_plain hc plain] at h
    obtain ⟨⟨a, r⟩, inner, same⟩ := Option.map_eq_some_iff.1 h
    cases same
    obtain ⟨u, delimited, rfl⟩ := ih inner
    exact ⟨c :: u, .plain (by simp [hc, plain]) delimited, rfl⟩

theorem Delimited.unescape_append (h : Delimited d u t) (hd : d ≠ '\\') (rest : Text) :
    unescape d (u ++ rest) = some (t, rest) := by
  have pair (e : Char) (u t : Text) (ih : unescape d (u ++ rest) = some (t, rest)) :
      unescape d ('\\' :: e :: (u ++ rest)) = some (unescapeChar d e ++ t, rest) := by
    rw [unescape_backslash hd, ih, Option.map_some]
  induction h with
  | close => exact unescape_delimiter d rest
  | feed _ ih => exact pair 'n' _ _ ih
  | tab _ ih => exact pair 't' _ _ ih
  | backslash _ ih => exact pair '\\' _ _ ih
  | delimiter n t _ ih => simpa [unescapeChar, n, t, hd] using pair d _ _ ih
  | @pair e u t other _ ih =>
    have kept : unescapeChar d e = ['\\', e] := by
      simp only [List.mem_cons, List.not_mem_nil, or_false, not_or] at other
      simp [unescapeChar, other]
    simpa [kept] using pair e u t ih
  | @plain c u t other _ ih =>
    simp only [List.mem_cons, List.not_mem_nil, or_false, not_or] at other
    rw [List.cons_append, unescape_plain other.1 other.2, ih, Option.map_some]

theorem Blanks.unescape_eq_none (hs : Blanks s) (solid : d.isBlank = false) :
    unescape d s = none := by
  induction s with
  | nil => rfl
  | cons c s ih =>
    obtain ⟨blank, behind⟩ := List.forall_mem_cons.1 hs
    have other : c ≠ d := by
      rintro rfl
      exact absurd blank (by simp [solid])
    have plain : c ≠ '\\' := by
      rintro rfl
      exact absurd blank (by decide)
    rw [unescape_plain other plain, ih behind, Option.map_none]

theorem Blanks.unescape_append_eq_none (hs : Blanks s) (solid : d.isBlank = false)
    (h : unescape d t = none) : unescape d (t ++ s) = none := by
  induction t using unescape.induct d with
  | case1 => exact hs.unescape_eq_none solid
  | case2 t =>
    rw [unescape_delimiter] at h
    cases h
  | case3 hd =>
    cases s with
    | nil => exact h
    | cons c s =>
      have behind := hs.tail.unescape_eq_none solid
      rw [List.singleton_append, unescape_backslash (Ne.symm hd), behind, Option.map_none]
  | case4 e t hd ih =>
    rw [unescape_backslash (Ne.symm hd), Option.map_eq_none_iff] at h
    rw [List.cons_append, List.cons_append, unescape_backslash (Ne.symm hd), ih h, Option.map_none]
  | case5 c t hc plain ih =>
    rw [unescape_plain hc plain, Option.map_eq_none_iff] at h
    rw [List.cons_append, unescape_plain hc plain, ih h, Option.map_none]

theorem delimited_escapeChar (hd : d ≠ '\\') (c : Char) (h : Delimited d u t) :
    Delimited d (escapeChar d c ++ u) (restoreChar d c :: t) := by
  unfold escapeChar
  split
  · next feed =>
    rw [restoreChar_eq_self (by simp [feed]) (by simp [feed]), feed]
    exact .feed h
  split
  · next tab =>
    rw [restoreChar_eq_self (by simp [tab]) (by simp [tab]), tab]
    exact .tab h
  split
  · next backslash =>
    rw [restoreChar_eq_self (by simp [backslash]) (by simp [backslash]), backslash]
    exact .backslash h
  split
  · next same =>
    -- A delimiter behind a backslash is seen only if it is not one of the two letters.
    subst same
    by_cases n : c = 'n'
    · subst n
      exact .feed h
    by_cases t : c = 't'
    · subst t
      exact .tab h
    rw [restoreChar_eq_self n t]
    exact .delimiter n t h
  · next plain other =>
    rw [restoreChar_of_ne other]
    exact .plain (by simp [plain, other]) h

theorem delimited_escape_map (hd : d ≠ '\\') (t : Text) :
    Delimited d (escape d t ++ [d]) (t.map (restoreChar d)) := by
  induction t with
  | nil => exact .close
  | cons c t ih =>
    have first : escape d (c :: t) = escapeChar d c ++ escape d t := List.flatMap_cons
    rw [first, List.append_assoc]
    exact delimited_escapeChar hd c ih

theorem delimited_escape (hd : CanEscape d) (t : Text) : Delimited d (escape d t ++ [d]) t := by
  have kept := delimited_escape_map hd.1 t
  rwa [(map_restoreChar_eq_self_iff hd.1).2 (Or.inl hd)] at kept

theorem argument_slashed (t : Text) : Argument (Command.slashed t) t :=
  .mk (by decide) (by decide) (delimited_escape (by decide) t)

end Delimited

section Digits

theorem toDigits_digit {c : Char} (h : c.isDigit = true) :
    c.toNat - '0'.toNat < 10 ∧ Nat.toDigits 10 (c.toNat - '0'.toNat) = [c] := by
  have all : ∀ n < 10, Nat.toDigits 10 n = [Char.ofNat (n + 48)] := by decide
  have code : 48 ≤ c.toNat ∧ c.toNat ≤ 57 := Char.isDigit_iff_toNat.1 h
  have zero : '0'.toNat = 48 := rfl
  have small : c.toNat - '0'.toNat < 10 := by omega
  refine ⟨small, ?_⟩
  have back : c.toNat - '0'.toNat + 48 = c.toNat := by omega
  rw [all _ small, back, Char.ofNat_toNat]

theorem toDigits_append {n : Nat} (hn : 0 < n) (digits : ∀ c ∈ u, c.isDigit = true) :
    Nat.toDigits 10 n ++ u = Nat.toDigits 10 (Nat.ofDigitChars 10 u n) := by
  induction u generalizing n with
  | nil => rw [List.append_nil, Nat.ofDigitChars_nil]
  | cons c u ih =>
    obtain ⟨digit, digits⟩ := List.forall_mem_cons.1 digits
    obtain ⟨small, single⟩ := toDigits_digit digit
    have more : 0 < 10 * n + (c.toNat - '0'.toNat) := by omega
    rw [Nat.ofDigitChars_cons, ← ih more digits,
      ← Nat.toDigits_append_toDigits (by decide) hn small, single, List.append_assoc,
      List.singleton_append]

theorem exists_zeros (some : u ≠ []) (digits : ∀ c ∈ u, c.isDigit = true) :
    ∃ zeros, u = List.replicate zeros '0' ++ Nat.toDigits 10 (Nat.ofDigitChars 10 u 0) := by
  induction u with
  | nil => exact absurd rfl some
  | cons c u ih =>
    obtain ⟨digit, behind⟩ := List.forall_mem_cons.1 digits
    obtain ⟨small, single⟩ := toDigits_digit digit
    have value : Nat.ofDigitChars 10 (c :: u) 0 = Nat.ofDigitChars 10 u (c.toNat - '0'.toNat) := by
      rw [Nat.ofDigitChars_cons, Nat.mul_zero, Nat.zero_add]
    by_cases zero : c.toNat - '0'.toNat = 0
    · rw [zero] at single value
      rw [Nat.toDigits_zero] at single
      obtain rfl : '0' = c := (List.cons.inj single).1
      rw [value]
      by_cases last : u = []
      · exact ⟨0, by rw [last]; rfl⟩
      · obtain ⟨zeros, spelled⟩ := ih last behind
        exact ⟨zeros + 1, congrArg ('0' :: ·) spelled⟩
    · refine ⟨0, ?_⟩
      rw [value, ← toDigits_append (Nat.pos_of_ne_zero zero) behind, single]
      rfl

theorem digits_toDigits {n : Nat} (small : n < numberLimit) : Digits (Nat.toDigits 10 n) n :=
  ⟨small, 0, rfl⟩

theorem isDigit_of_mem_zeros {zeros n : Nat} {c : Char}
    (h : c ∈ List.replicate zeros '0' ++ Nat.toDigits 10 n) : c.isDigit = true := by
  rcases List.mem_append.1 h with zero | digit
  · rw [(List.mem_replicate.1 zero).2]
    rfl
  · exact Nat.isDigit_of_mem_toDigits (by decide) (by decide) digit

theorem toNat?_eq_some_iff {n : Nat} : Text.toNat? u = some n ↔
    ∃ zeros, u = List.replicate zeros '0' ++ Nat.toDigits 10 n := by
  rw [Text.toNat?]
  constructor
  · intro h
    split at h
    · next number =>
      cases h
      exact exists_zeros number.1 (List.all_eq_true.1 number.2)
    · cases h
  · rintro ⟨zeros, rfl⟩
    have some : List.replicate zeros '0' ++ Nat.toDigits 10 n ≠ [] :=
      List.append_ne_nil_of_right_ne_nil _ Nat.toDigits_ne_nil
    have digits : (List.replicate zeros '0' ++ Nat.toDigits 10 n).all Char.isDigit = true :=
      List.all_eq_true.2 fun _ => isDigit_of_mem_zeros
    rw [if_pos ⟨some, digits⟩, Nat.ofDigitChars_append, Nat.ofDigitChars_replicate_zero,
      Nat.mul_zero, Nat.ofDigitChars_ten_toDigits]

end Digits

end StructuralEdit
