import StructuralEdit.Proofs.Grammar.Lexical
/-!
All that is read is spelled as the grammar says. A reader takes a part off the front of a text,
and may take the blanks behind it as well.
-/
namespace StructuralEdit

theorem exists_of_bind_eq_ok {x : Except ε α} {f : α → Except ε β} {b : β}
    (h : (x >>= f) = .ok b) : ∃ a, x = .ok a ∧ f a = .ok b := by
  cases x with
  | ok a => exact ⟨a, rfl, h⟩
  | error e => cases h

variable {i j k : Input} {s t : Text}

theorem readNumber_digits {n : Nat} (h : readNumber i = .ok (n, j)) :
    ∃ u, Digits u n ∧ i.rest = u ++ j.rest := by
  unfold readNumber at h
  extract_lets digits at h
  split at h
  · cases h
  · next number =>
    split at h
    · next small =>
      cases h
      exact ⟨digits, ⟨small, toNat?_eq_some_iff.1 number⟩, List.takeWhile_append_dropWhile.symm⟩
    · cases h

theorem readDelimited_delimited {opening : Input} {d : Char}
    (h : readDelimited opening d i = .ok (t, j)) : ∃ u, Delimited d u t ∧ i.rest = u ++ j.rest := by
  unfold readDelimited at h
  split at h
  · cases h
  · next found =>
    cases h
    exact unescape_delimited found

theorem compilePattern_eq_ok {p : Pattern} (h : compilePattern i s = .ok p) :
    Pattern.ofSource s = .ok p := by
  unfold compilePattern at h
  split at h
  · next compiled =>
    cases h
    exact compiled
  · cases h

theorem readArgument_argument {l : Char} (h : readArgument l i = .ok ((k, t), j)) :
    ∃ u, Argument u t ∧ i.rest = u ++ j.rest := by
  unfold readArgument at h
  split at h
  · cases h
  · next d rest opening =>
    split at h
    · cases h
    · next valid =>
      obtain ⟨solid, plain⟩ := not_or.1 valid
      obtain ⟨⟨a, m⟩, inside, h⟩ := exists_of_bind_eq_ok h
      cases h
      obtain ⟨u, delimited, split⟩ := readDelimited_delimited inside
      refine ⟨d :: u, .mk (Bool.eq_false_iff.2 solid) plain delimited, ?_⟩
      exact opening.trans (congrArg (d :: ·) split)

theorem readText_argument {l : Char} (h : readText l i = .ok (t, j)) :
    ∃ u, Argument u t ∧ i.rest = u ++ j.rest := by
  obtain ⟨⟨⟨a, u⟩, m⟩, inside, h⟩ := exists_of_bind_eq_ok h
  cases h
  exact readArgument_argument inside

theorem readPattern_argument {l : Char} {p : Pattern} (h : readPattern l i = .ok (p, j)) :
    ∃ u source, Argument u source ∧ Pattern.ofSource source = .ok p ∧ i.rest = u ++ j.rest := by
  obtain ⟨⟨⟨a, source⟩, m⟩, inside, h⟩ := exists_of_bind_eq_ok h
  obtain ⟨q, compiled, h⟩ := exists_of_bind_eq_ok h
  cases h
  obtain ⟨u, argument, split⟩ := readArgument_argument inside
  exact ⟨u, source, argument, compilePattern_eq_ok compiled, split⟩

namespace Address

variable {a : Address}

theorem readSearch_delimited {d : Direction} {opening : Input}
    (h : readSearch d opening i = .ok (a, j)) :
    ∃ u, Simple (d.delimiter :: u) a ∧ i.rest = u ++ j.rest := by
  obtain ⟨⟨source, m⟩, inside, h⟩ := exists_of_bind_eq_ok h
  obtain ⟨p, compiled, h⟩ := exists_of_bind_eq_ok h
  cases h
  obtain ⟨u, delimited, split⟩ := readDelimited_delimited inside
  exact ⟨u, .search d delimited (compilePattern_eq_ok compiled), split⟩

theorem readSimple_simple (h : readSimple i = .ok (a, j)) :
    ∃ u, Simple u a ∧ i.rest = u ++ j.rest := by
  unfold readSimple at h
  split at h
  · next opening =>
    cases h
    exact ⟨['.'], .dot, opening⟩
  · next opening =>
    cases h
    exact ⟨['$'], .finish, opening⟩
  · next opening =>
    obtain ⟨⟨n, m⟩, number, h⟩ := exists_of_bind_eq_ok h
    cases h
    obtain ⟨u, digits, split⟩ := readNumber_digits number
    exact ⟨'#' :: u, .char digits, opening.trans (congrArg ('#' :: ·) split)⟩
  · next opening =>
    obtain ⟨u, simple, split⟩ := readSearch_delimited h
    exact ⟨'/' :: u, simple, opening.trans (congrArg ('/' :: ·) split)⟩
  · next opening =>
    obtain ⟨u, simple, split⟩ := readSearch_delimited h
    exact ⟨'?' :: u, simple, opening.trans (congrArg ('?' :: ·) split)⟩
  · obtain ⟨⟨n, m⟩, number, h⟩ := exists_of_bind_eq_ok h
    cases h
    obtain ⟨u, digits, split⟩ := readNumber_digits number
    exact ⟨u, .line digits, split⟩

theorem read_spelled {links : Nat} (h : read links i = .ok (a, j)) :
    ∃ u n rest, Spelled u a n ∧ n < links ∧ i.rest = u ++ rest ∧ Skips rest j.rest := by
  -- The induction is on the links that may still be followed.
  induction links generalizing i a j with
  | zero => cases h
  | succ links ih =>
    unfold read at h
    split at h
    · next behind opening =>
      have skipped : Skips behind _ := (i.after [','] behind).skips_skipBlanks
      dsimp only at h
      split at h
      · obtain ⟨⟨e, m⟩, second, h⟩ := exists_of_bind_eq_ok h
        cases h
        obtain ⟨v, n, rest, spelled, few, split, left⟩ := ih second
        obtain ⟨b, blanks, gap⟩ := skipped
        refine ⟨',' :: (b ++ v), n + 1, rest, .upTo blanks spelled, Nat.succ_lt_succ few, ?_, left⟩
        rw [opening, gap, split]
        simp only [List.cons_append, List.append_assoc]
      · cases h
        exact ⟨[','], 0, behind, .whole, Nat.zero_lt_succ _, opening, skipped⟩
    · obtain ⟨⟨a, m⟩, first, h⟩ := exists_of_bind_eq_ok h
      obtain ⟨u, simple, start⟩ := readSimple_simple first
      have before := m.skips_skipBlanks
      dsimp only at h
      split at h
      · next behind comma =>
        have skipped : Skips behind _ := (m.skipBlanks.after [','] behind).skips_skipBlanks
        split at h
        · obtain ⟨⟨e, l⟩, second, h⟩ := exists_of_bind_eq_ok h
          cases h
          obtain ⟨v, n, rest, spelled, few, split, left⟩ := ih second
          obtain ⟨b, blanks, gap⟩ := before
          obtain ⟨b', blanks', gap'⟩ := skipped
          refine ⟨u ++ (b ++ ',' :: (b' ++ v)), n + 1, rest, .link simple blanks blanks' spelled,
            Nat.succ_lt_succ few, ?_, left⟩
          rw [start, gap, comma, gap', split]
          simp only [List.cons_append, List.append_assoc]
        · cases h
      · cases h
        exact ⟨u, 0, m.rest, .simple simple, Nat.zero_lt_succ _, start, before⟩

end Address

/-- A phrase was taken off the text `s`, and `t` is left but for blanks between them. -/
def Phrase.Taken (φ : Phrase) (s t : Text) : Prop :=
  ∃ u rest, s = u ++ rest ∧ Spelled φ u rest ∧ Skips rest t

variable {c : Command} {cs : List Command} {depth : Nat} {member : Reader Command}

theorem Spelled.blanks_members {b u rest : Text} (blanks : Blanks b)
    (h : Spelled (.members depth cs) u rest) : Spelled (.members depth cs) (b ++ u) rest := by
  cases h with
  | close more =>
    rw [← List.append_assoc]
    exact .close (blanks.append more)
  | member more first later =>
    rw [← List.append_assoc]
    exact .member (blanks.append more) first later

namespace Command

theorem readFilter_taken {behind : Text} (opening : i.rest = '|' :: behind)
    (h : readFilter i (i.after ['|'] behind) = .ok (c, j)) :
    (Phrase.simple depth c).Taken i.rest j.rest := by
  unfold readFilter at h
  extract_lets line at h
  split at h
  · cases h
  · next some =>
    cases h
    have split : behind = line ++ behind.dropWhile (· ≠ '\n') :=
      List.takeWhile_append_dropWhile.symm
    have inLine : '\n' ∉ line := by
      intro feed
      have all := List.all_takeWhile (p := (· ≠ '\n')) (l := behind)
      have other := List.all_eq_true.1 all '\n' feed
      simp at other
    have stop : ∀ c ∈ (behind.dropWhile (· ≠ '\n')).head?, c = '\n' := by
      intro c hc
      have first := List.head?_dropWhile_not (· ≠ '\n') behind
      rw [Option.mem_def.1 hc] at first
      simpa using first
    refine ⟨'|' :: line, _, opening.trans (congrArg ('|' :: ·) split), ?_, .refl _⟩
    exact .filter inLine (by simpa using some) stop

theorem readText_taken {l : Char} {put : Text → Command} {behind : Text}
    (letter : TextLetter l put) (opening : i.rest = l :: behind)
    (h : (do
      let (t, k) ← readText l (i.after [l] behind)
      return (put t, k)) = .ok (c, j)) : (Phrase.simple depth c).Taken i.rest j.rest := by
  obtain ⟨⟨t, m⟩, first, h⟩ := exists_of_bind_eq_ok h
  cases h
  obtain ⟨u, argument, split⟩ := readText_argument first
  exact ⟨l :: u, j.rest, opening.trans (congrArg (l :: ·) split), .text letter argument, .refl _⟩

section Members

variable (inner : ∀ {i c j}, member i = .ok (c, j) →
  ∃ s, Skips i.rest s ∧ (Phrase.command (depth + 1) c).Taken s j.rest)

include inner

theorem readSub_taken (h : readSub member i = .ok (c, j)) :
    (Phrase.optional (depth + 1) c).Taken i.rest j.rest := by
  unfold readSub at h
  dsimp only at h
  split at h
  · next ended =>
    cases h
    exact ⟨[], i.rest, rfl, .omitted (Input.atClose_skipBlanks.1 ended), i.skips_skipBlanks⟩
  · obtain ⟨s, skips, u, rest, split, spelled, left⟩ := inner h
    obtain ⟨b, blanks, gap⟩ := i.skips_skipBlanks.trans skips
    refine ⟨b ++ u, rest, ?_, .given blanks spelled, left⟩
    rw [gap, split, List.append_assoc]

theorem readMembers_taken {opening : Input} {bound : Nat}
    (h : readMembers member opening bound i = .ok (cs, j)) :
    ∃ u, i.rest = u ++ j.rest ∧ Spelled (.members (depth + 1) cs) u j.rest := by
  induction bound generalizing i cs j with
  | zero => cases h
  | succ bound ih =>
    unfold readMembers at h
    dsimp only at h
    split at h
    · cases h
    · next behind brace =>
      cases h
      obtain ⟨b, blanks, gap⟩ := i.skips_skipBlanks
      refine ⟨b ++ ['}'], ?_, .close blanks⟩
      rw [gap, brace]
      exact (List.append_assoc b ['}'] behind).symm
    · obtain ⟨⟨c, m⟩, first, h⟩ := exists_of_bind_eq_ok h
      obtain ⟨⟨ds, l⟩, later, h⟩ := exists_of_bind_eq_ok h
      cases h
      obtain ⟨s, skips, u, rest, split, spelled, b', blanks', gap'⟩ := inner first
      obtain ⟨b, blanks, gap⟩ := i.skips_skipBlanks.trans skips
      obtain ⟨v, split', members⟩ := ih later
      have behind : rest = b' ++ v ++ l.rest := by rw [gap', split', List.append_assoc]
      refine ⟨b ++ (u ++ (b' ++ v)), ?_,
        .member blanks (behind ▸ spelled) (members.blanks_members blanks')⟩
      rw [gap, split, behind]
      simp only [List.append_assoc]

theorem readPattern_taken {l : Char} {wrap : Pattern → Command → Command} {behind : Text}
    (letter : PatternLetter l wrap) (opening : i.rest = l :: behind)
    (h : (do
      let (p, k) ← readPattern l (i.after [l] behind)
      let (sub, k) ← readSub member k
      return (wrap p sub, k)) = .ok (c, j)) : (Phrase.simple depth c).Taken i.rest j.rest := by
  obtain ⟨⟨p, m⟩, first, h⟩ := exists_of_bind_eq_ok h
  obtain ⟨⟨sub, n⟩, second, h⟩ := exists_of_bind_eq_ok h
  cases h
  obtain ⟨u, source, argument, compiled, start⟩ := readPattern_argument first
  obtain ⟨v, rest, split, spelled, left⟩ := readSub_taken inner second
  refine ⟨l :: (u ++ v), rest, ?_, .pattern letter argument compiled spelled, left⟩
  have start : behind = u ++ m.rest := start
  rw [opening, start, split, List.cons_append, List.append_assoc]

theorem readSimple_taken (h : readSimple member i = .ok (c, j)) :
    (Phrase.simple depth c).Taken i.rest j.rest := by
  have letter {l : Char} {c : Command} {behind : Text} (found : Letter l c)
      (opening : i.rest = l :: behind) : (Phrase.simple depth c).Taken i.rest behind :=
    ⟨[l], behind, opening, .letter found, .refl behind⟩
  unfold readSimple at h
  split at h
  · cases h
  · next l behind opening =>
    dsimp only at h
    split at h
    · exact readPattern_taken inner .matching opening h
    · exact readPattern_taken inner .between opening h
    · exact readPattern_taken inner .present opening h
    · exact readPattern_taken inner .absent opening h
    · cases h
      exact letter .print opening
    · cases h
      exact letter .delete opening
    · exact readText_taken .change opening h
    · exact readText_taken .append opening h
    · exact readText_taken .insert opening h
    · exact readFilter_taken opening h
    · obtain ⟨⟨ds, m⟩, members, h⟩ := exists_of_bind_eq_ok h
      cases h
      obtain ⟨u, split, spelled⟩ := readMembers_taken inner members
      exact ⟨'{' :: u, m.rest, opening.trans (congrArg ('{' :: ·) split), .group spelled, .refl _⟩
    · cases h

end Members

theorem readNested_taken {levels : Nat} (level : depth + levels = 101)
    (h : readNested levels i = .ok (c, j)) :
    ∃ s, Skips i.rest s ∧ (Phrase.command depth c).Taken s j.rest := by
  -- The induction is on the levels that are left.
  induction levels generalizing depth i c j with
  | zero => cases h
  | succ levels ih =>
    have flat : depth ≤ 100 := by omega
    have deeper : depth + 1 + levels = 101 := by omega
    unfold readNested at h
    dsimp only at h
    refine ⟨i.skipBlanks.rest, i.skips_skipBlanks, ?_⟩
    split at h
    · obtain ⟨⟨a, m⟩, address, h⟩ := exists_of_bind_eq_ok h
      obtain ⟨u, n, rest, spelled, few, split, skips⟩ := Address.read_spelled address
      have left := skips.trans m.skips_skipBlanks
      have few : n ≤ 100 := Nat.le_of_lt_succ few
      dsimp only at h
      split at h
      · next ended =>
        cases h
        have closes : Closes rest := skips.closes (Input.atClose_skipBlanks.1 ended)
        exact ⟨u, rest, split, .located flat spelled few closes, left⟩
      · obtain ⟨⟨sub, l⟩, second, h⟩ := exists_of_bind_eq_ok h
        cases h
        obtain ⟨v, rest', split', simple, left'⟩ := readSimple_taken (ih deeper) second
        obtain ⟨b, blanks, gap⟩ := left
        refine ⟨u ++ (b ++ v), rest', ?_, .addressed flat spelled few blanks simple, left'⟩
        rw [split, gap, split']
        simp only [List.append_assoc]
    · obtain ⟨u, rest, split, simple, left⟩ := readSimple_taken (ih deeper) h
      exact ⟨u, rest, split, .simple flat simple, left⟩

theorem derives_of_read {t : Text} (h : read t = .ok c) : Derives t c := by
  obtain ⟨⟨d, m⟩, nested, h⟩ := exists_of_bind_eq_ok h
  dsimp only at h
  split at h
  · next ended =>
    cases h
    obtain ⟨s, ⟨b, blanks, start⟩, u, rest, split, spelled, left⟩ :=
      readNested_taken (Nat.zero_add 101) nested
    have nothing : Skips rest m.skipBlanks.rest := left.trans m.skips_skipBlanks
    rw [ended] at nothing
    obtain ⟨b', blanks', gap⟩ := nothing
    rw [List.append_nil] at gap
    exact ⟨b, u, rest, blanks, gap ▸ blanks', start.trans (congrArg (b ++ ·) split), spelled⟩
  · cases h

end Command

end StructuralEdit
