import StructuralEdit.Proofs.Grammar.Completeness
/-!
Two runs of the readers side by side. They start from inputs that differ in where they stand, or in
blanks behind the one. As long as what is left corresponds, both read the same; and where one is
refused, so is the other. What it means to correspond is left open: the proofs say only what the
readers do with their input. Behind the end of the first, the second may have skipped blanks that
the first never had; that the two are abreast says that this has not happened.
-/
namespace StructuralEdit

variable {i j k m : Input} {s t u : Text} {α β : Type}

/-- Inputs that are abreast, inputs that correspond, and errors that do. The second input may have
blanks behind what the first has. Inputs stay abreast when both move on by the same text, and still
correspond when the first is at its end and the second moves on alone. Only an address is missed
behind blanks that may have been skipped at the end; and only where a delimiter is missing can it
be told that there are blanks behind the end. -/
structure Correspondence (A R : Input → Input → Prop) (E : ParseError → ParseError → Prop) :
    Prop where
  loose : ∀ {i j}, A i j → R i j
  abreast : ∀ {i j}, R i j → i.rest ≠ [] → A i j
  rest_eq : ∀ {i j}, R i j → ∃ b, Blanks b ∧ j.rest = i.rest ++ b
  after : ∀ {i j u s t}, A i j → i.rest = u ++ s → j.rest = u ++ t → A (i.after u s) (j.after u t)
  atEnd : ∀ {i j u t}, R i j → i.rest = [] → j.rest = u ++ t → R i (j.after u t)
  fail : ∀ {i j why}, why ≠ .addressExpected → A i j → E ⟨i.offset, why⟩ ⟨j.offset, why⟩
  missing : ∀ {i j}, R i j → (i.rest = [] → j.rest = []) →
    E ⟨i.offset, .addressExpected⟩ ⟨j.offset, .addressExpected⟩
  ragged : ∀ {i j c t} (letter), A i j → i.rest = [] → j.rest = c :: t →
    E ⟨i.offset, .delimiterExpected letter⟩ ⟨j.offset, .delimiterInvalid c letter⟩

inductive Alike (R : Input → Input → Prop) (E : ParseError → ParseError → Prop) :
    Except ParseError (α × Input) → Except ParseError (α × Input) → Prop
  | reads {a : α} {i j : Input} : R i j → Alike R E (.ok (a, i)) (.ok (a, j))
  | refuses {e f : ParseError} : E e f → Alike R E (.error e) (.error f)

variable {A R : Input → Input → Prop} {E : ParseError → ParseError → Prop}

theorem Alike.bind {x y : Except ParseError (α × Input)}
    {f g : α × Input → Except ParseError (β × Input)} (h : Alike R E x y)
    (next : ∀ a {i j}, R i j → Alike R E (f (a, i)) (g (a, j))) :
    Alike R E (x >>= f) (y >>= g) := by
  cases h with
  | reads related => exact next _ related
  | refuses refused => exact .refuses refused

theorem Input.after_nil (hi : i.rest = []) : i.after [] [] = i := by
  cases i with
  | mk offset rest =>
    cases hi
    rfl

theorem Input.skipBlanks_skipBlanks (i : Input) : i.skipBlanks.skipBlanks = i.skipBlanks := by
  cases left : i.skipBlanks.rest with
  | nil =>
    rw [skipBlanks, left]
    exact after_nil left
  | cons c s =>
    have solid := Text.trimStart_head (t := i.rest) c
    rw [← skipBlanks_rest, left] at solid
    exact skipBlanks_eq_self left (solid rfl)

theorem Skips.length_le (h : Skips s t) : t.length ≤ s.length := by
  obtain ⟨b, -, rfl⟩ := h
  rw [List.length_append]
  exact Nat.le_add_left _ _

theorem Command.readMembers_cons (member : Reader Command) (opening : Input) {bound : Nat}
    {c : Char} (hi : i.skipBlanks.rest = c :: s) (more : c ≠ '}') :
    readMembers member opening (bound + 1) i = (do
      let (c, j) ← member i.skipBlanks
      let (cs, k) ← readMembers member opening bound j
      return (c :: cs, k)) := by
  rw [readMembers]
  simp only [hi]
  split
  · next none => cases none
  · next close => exact absurd (List.cons.inj close).1 more
  · rfl

theorem Command.readNested_shorter {levels : Nat} {c : Command} (few : levels ≤ nestingLimit)
    (h : readNested levels i = .ok (c, j)) : j.rest.length < i.rest.length := by
  have level : nestingLimit - levels + levels = 101 := Nat.sub_add_cancel few
  obtain ⟨s, skips, u, rest, rfl, spelled, left⟩ := readNested_taken level h
  obtain ⟨l, v, rfl, -⟩ := spelled.start_command
  have before := skips.length_le
  have behind := left.length_le
  simp only [List.length_append, List.length_cons] at before
  omega

namespace Correspondence

variable (C : Correspondence A R E)

include C

theorem step {c : Char} (h : R i j) (hi : i.rest = c :: s) :
    ∃ t, j.rest = c :: t ∧ A (i.after [c] s) (j.after [c] t) := by
  obtain ⟨b, -, extended⟩ := C.rest_eq h
  have hj : j.rest = c :: (s ++ b) := by rw [extended, hi, List.cons_append]
  have some : i.rest ≠ [] := by simp [hi]
  exact ⟨s ++ b, hj, C.after (C.abreast h some) hi hj⟩

theorem step_back {c : Char} (h : R i j) (solid : c.isBlank = false) (hj : j.rest = c :: t) :
    ∃ s, i.rest = c :: s := by
  obtain ⟨b, blanks, extended⟩ := C.rest_eq h
  rw [hj] at extended
  cases hi : i.rest with
  | nil =>
    rw [hi, List.nil_append] at extended
    have blank := blanks c (extended ▸ List.mem_cons_self)
    rw [solid] at blank
    cases blank
  | cons d s =>
    rw [hi, List.cons_append] at extended
    rw [(List.cons.inj extended).1]
    exact ⟨s, rfl⟩

/-- Both take as much as is of one kind, up to blanks that only the second has. -/
theorem span (h : R i j) (p : Char → Bool) :
    ∃ b, Blanks b ∧ j.rest.takeWhile p = i.rest.takeWhile p ++ b ∧
      R (i.after (i.rest.takeWhile p) (i.rest.dropWhile p))
        (j.after (j.rest.takeWhile p) (j.rest.dropWhile p)) := by
  obtain ⟨b, blanks, extended⟩ := C.rest_eq h
  by_cases ended : i.rest = []
  · have alone := C.atEnd h ended (List.takeWhile_append_dropWhile (p := p) (l := j.rest)).symm
    rw [ended, List.nil_append] at extended
    rw [ended, List.takeWhile_nil, List.dropWhile_nil, Input.after_nil ended]
    refine ⟨j.rest.takeWhile p, fun c hc => blanks c ?_, rfl, alone⟩
    exact extended ▸ (List.takeWhile_prefix p).subset hc
  -- Something is left to the first input, so it is abreast of the second.
  have level := C.abreast h ended
  have all : ∀ c ∈ i.rest.takeWhile p, p c = true := List.all_eq_true.1 List.all_takeWhile
  have parts : i.rest = i.rest.takeWhile p ++ i.rest.dropWhile p :=
    List.takeWhile_append_dropWhile.symm
  have whole : j.rest = i.rest.takeWhile p ++ (i.rest.dropWhile p ++ b) := by
    rw [extended, ← List.append_assoc, ← parts]
  cases left : i.rest.dropWhile p with
  | nil =>
    rw [left, List.nil_append] at whole
    rw [left] at parts
    have moved : A (i.after (i.rest.takeWhile p) []) (j.after (i.rest.takeWhile p) b) :=
      C.after level parts whole
    have alone := C.atEnd (C.loose moved) rfl
      (List.takeWhile_append_dropWhile (p := p) (l := b)).symm
    rw [Input.after_after] at alone
    rw [whole, List.takeWhile_append_of_pos all, List.dropWhile_append_of_pos all]
    exact ⟨b.takeWhile p, fun c hc => blanks c ((List.takeWhile_prefix p).subset hc), rfl, alone⟩
  | cons c s =>
    have first := List.head?_dropWhile_not p i.rest
    rw [left] at whole parts first
    have stop : ∀ d ∈ (c :: s ++ b).head?, p d = false := by
      rintro d ⟨⟩
      exact first
    obtain ⟨taken, dropped⟩ := span_append all stop
    rw [whole, taken, dropped]
    exact ⟨[], .nil, (List.append_nil _).symm, C.loose (C.after level parts whole)⟩

theorem skipBlanks (h : R i j) : R i.skipBlanks j.skipBlanks := by
  obtain ⟨-, -, -, related⟩ := C.span h Char.isBlank
  exact related

theorem skipBlanks_ended (h : R i j) (ended : i.skipBlanks.rest = []) :
    j.skipBlanks.rest = [] := by
  obtain ⟨b, blanks, extended⟩ := C.rest_eq h
  rw [Input.skipBlanks_rest, trimStart_eq_nil_iff] at ended ⊢
  rw [extended]
  exact ended.append blanks

theorem abreast_atAddress (h : R i j) (start : i.atAddress = true) : A i j := by
  refine C.abreast h fun ended => ?_
  rw [Input.atAddress, ended] at start
  cases start

theorem abreast_skipBlanks (h : R i j) (more : i.skipBlanks.atClose = false) :
    A i.skipBlanks j.skipBlanks := by
  refine C.abreast (C.skipBlanks h) fun ended => ?_
  rw [Input.atClose, ended] at more
  cases more

theorem atAddress_eq (h : R i j) : i.atAddress = j.atAddress := by
  cases hi : i.rest with
  | cons c s =>
    obtain ⟨t, hj, -⟩ := C.step h hi
    rw [Input.atAddress_eq hi, Input.atAddress_eq hj]
  | nil =>
    have first : i.atAddress = false := by rw [Input.atAddress, hi]
    rw [first]
    cases hj : j.rest with
    | nil => rw [Input.atAddress, hj]
    | cons c t =>
      rw [Input.atAddress_eq hj]
      refine (Bool.eq_false_iff.2 fun start => ?_).symm
      obtain ⟨s, other⟩ := C.step_back h (isBlank_of_startsAddress start) hj
      rw [hi] at other
      cases other

theorem atClose_eq (h : R i j) (ended : i.rest = [] → j.rest = []) : i.atClose = j.atClose := by
  cases hi : i.rest with
  | nil => rw [Input.atClose, Input.atClose, hi, ended hi]
  | cons c s =>
    obtain ⟨t, hj, -⟩ := C.step h hi
    rw [Input.atClose, Input.atClose, hi, hj]

theorem refuses {why : Malformed} (h : A i j) (other : why ≠ .addressExpected) :
    Alike (α := α) R E (i.fail why) (j.fail why) := .refuses (C.fail other h)

theorem readNumber_alike (h : A i j) : Alike R E (readNumber i) (readNumber j) := by
  obtain ⟨b, blanks, taken, related⟩ := C.span (C.loose h) Char.isDigit
  have none : b = [] := by
    refine List.eq_nil_iff_forall_not_mem.2 fun c hc => ?_
    have all := List.all_eq_true.1 (List.all_takeWhile (p := Char.isDigit) (l := j.rest)) c
    rw [taken, not_digit_of_blank (blanks c hc)] at all
    cases all (List.mem_append_right _ hc)
  rw [none, List.append_nil] at taken
  rw [taken] at related
  unfold readNumber
  simp only [taken]
  split
  · exact C.refuses h (by simp)
  · split
    · exact .reads related
    · exact C.refuses h (by simp)

theorem readDelimited_alike {d : Char} {opening opening' : Input} (ho : A opening opening')
    (h : A i j) (solid : d.isBlank = false) (plain : d ≠ '\\') :
    Alike R E (readDelimited opening d i) (readDelimited opening' d j) := by
  obtain ⟨b, blanks, extended⟩ := C.rest_eq (C.loose h)
  cases found : unescape d i.rest with
  | none =>
    have open_ := blanks.unescape_append_eq_none solid found
    rw [← extended] at open_
    simp only [readDelimited, found, open_]
    exact C.refuses ho (by simp)
  | some p =>
    obtain ⟨t, rest⟩ := p
    obtain ⟨u, delimited, parts⟩ := unescape_delimited found
    have parts' : j.rest = u ++ (rest ++ b) := by rw [extended, parts, List.append_assoc]
    rw [delimited.readDelimited_eq plain opening parts,
      delimited.readDelimited_eq plain opening' parts']
    exact .reads (C.loose (C.after h parts parts'))

theorem compilePattern_alike (h : A i j) (related : R k m) (source : Text) (wrap : Pattern → α) :
    Alike R E (compilePattern i source >>= fun p => .ok (wrap p, k))
      (compilePattern j source >>= fun p => .ok (wrap p, m)) := by
  -- The error of a pattern is at the place where it starts, and both go on behind it.
  unfold compilePattern
  split
  · exact .reads related
  · exact .refuses (C.fail (by simp) h)

theorem readArgument_cases (h : A i j) (letter : Char) :
    (∃ t k m, readArgument letter i = .ok ((i, t), k) ∧
        readArgument letter j = .ok ((j, t), m) ∧ R k m) ∨
      ∃ e f, readArgument letter i = .error e ∧ readArgument letter j = .error f ∧ E e f := by
  -- A delimiter is missing on one side if it is on the other, where a blank may stand instead.
  cases hi : i.rest with
  | nil =>
    refine Or.inr ?_
    cases hj : j.rest with
    | nil =>
      simp only [readArgument, hi, hj]
      exact ⟨_, _, rfl, rfl, C.fail (by simp) h⟩
    | cons c t =>
      obtain ⟨b, blanks, extended⟩ := C.rest_eq (C.loose h)
      rw [hi, hj, List.nil_append] at extended
      have blank : c.isBlank = true := blanks c (extended ▸ List.mem_cons_self)
      simp only [readArgument, hi, hj, blank, true_or, if_true]
      exact ⟨_, _, rfl, rfl, C.ragged letter h hi hj⟩
  | cons d s =>
    obtain ⟨t, hj, related⟩ := C.step (C.loose h) hi
    simp only [readArgument, hi, hj]
    split
    · exact Or.inr ⟨_, _, rfl, rfl, C.fail (by simp) h⟩
    · next valid =>
      obtain ⟨solid, plain⟩ := not_or.1 valid
      have inside := C.readDelimited_alike h related (Bool.eq_false_iff.2 solid) plain
      generalize readDelimited i d (i.after [d] s) = x at inside
      generalize readDelimited j d (j.after [d] t) = y at inside
      cases inside with
      | reads later => exact Or.inl ⟨_, _, _, rfl, rfl, later⟩
      | refuses refused => exact Or.inr ⟨_, _, rfl, rfl, refused⟩

theorem readText_alike (h : A i j) (letter : Char) :
    Alike R E (readText letter i) (readText letter j) := by
  rcases C.readArgument_cases h letter with ⟨t, k, m, hk, hm, related⟩ | ⟨e, f, he, hf, refused⟩
  · simp only [readText, hk, hm]
    exact .reads related
  · simp only [readText, he, hf]
    exact .refuses refused

theorem readPattern_alike (h : A i j) (letter : Char) :
    Alike R E (readPattern letter i) (readPattern letter j) := by
  rcases C.readArgument_cases h letter with ⟨t, k, m, hk, hm, related⟩ | ⟨e, f, he, hf, refused⟩
  · simp only [readPattern, hk, hm]
    exact C.compilePattern_alike h related t id
  · simp only [readPattern, he, hf]
    exact .refuses refused

theorem readSearch_alike {opening opening' : Input} (ho : A opening opening') (h : A i j)
    (d : Direction) :
    Alike R E (Address.readSearch d opening i) (Address.readSearch d opening' j) := by
  have solid : d.delimiter.isBlank = false ∧ d.delimiter ≠ '\\' := by cases d <;> decide
  refine (C.readDelimited_alike ho h solid.1 solid.2).bind fun source i j related => ?_
  exact C.compilePattern_alike ho related source (Address.search d)

theorem marks_eq (h : R i j) (unmarked : ∀ c ∈ i.rest.head?, c ∉ ".$#/?".toList) :
    ∀ c ∈ j.rest.head?, c ∉ ".$#/?".toList := by
  intro c hc mark
  have all : ".$#/?".toList.all (!·.isBlank) = true := by decide
  have solid : c.isBlank = false := by simpa using List.all_eq_true.1 all c mark
  obtain ⟨t, hj⟩ := List.head?_eq_some_iff.1 hc
  obtain ⟨s, hi⟩ := C.step_back h solid hj
  exact unmarked c (by rw [hi]; rfl) mark

theorem addressSimple_alike (h : A i j) :
    Alike R E (Address.readSimple i) (Address.readSimple j) := by
  by_cases unmarked : ∀ c ∈ i.rest.head?, c ∉ ".$#/?".toList
  · have unmarked' := C.marks_eq (C.loose h) unmarked
    rw [Address.readSimple_number unmarked, Address.readSimple_number unmarked']
    exact (C.readNumber_alike h).bind fun _ _ _ related => .reads related
  · cases hi : i.rest with
    | nil => exact absurd (by rw [hi]; rintro c ⟨⟩) unmarked
    | cons c s =>
      have mark : c ∈ ['.', '$', '#', '/', '?'] := by
        refine Decidable.byContradiction fun other => unmarked ?_
        rw [hi]
        rintro _ ⟨⟩
        exact other
      obtain ⟨t, hj, related⟩ := C.step (C.loose h) hi
      simp only [List.mem_cons, List.not_mem_nil, or_false] at mark
      rcases mark with rfl | rfl | rfl | rfl | rfl
      · simp only [Address.readSimple, hi, hj]
        exact .reads (C.loose related)
      · simp only [Address.readSimple, hi, hj]
        exact .reads (C.loose related)
      · simp only [Address.readSimple, hi, hj]
        exact (C.readNumber_alike related).bind fun _ _ _ later => .reads later
      · simp only [Address.readSimple, hi, hj]
        exact C.readSearch_alike h related .forward
      · simp only [Address.readSimple, hi, hj]
        exact C.readSearch_alike h related .backward

theorem address_alike (links : Nat) (h : A i j) :
    Alike R E (Address.read links i) (Address.read links j) := by
  induction links generalizing i j with
  | zero => exact C.refuses h (by simp)
  | succ links ih =>
    by_cases comma : ∃ s, i.rest = ',' :: s
    · obtain ⟨s, hi⟩ := comma
      obtain ⟨t, hj, related⟩ := C.step (C.loose h) hi
      have skipped := C.skipBlanks (C.loose related)
      simp only [Address.read, hi, hj, ← C.atAddress_eq skipped]
      split
      · next start =>
        exact (ih (C.abreast_atAddress skipped start)).bind fun _ _ _ later => .reads later
      · exact .reads skipped
    · have alone : ∀ s, i.rest ≠ ',' :: s := fun s hi => comma ⟨s, hi⟩
      have alone' : ∀ t, j.rest ≠ ',' :: t :=
        fun t hj => comma (C.step_back (C.loose h) (by decide) hj)
      rw [Address.read_succ links alone, Address.read_succ links alone']
      refine (C.addressSimple_alike h).bind fun a i j related => ?_
      have skipped := C.skipBlanks related
      by_cases more : ∃ s, i.skipBlanks.rest = ',' :: s
      · obtain ⟨s, hi⟩ := more
        obtain ⟨t, hj, behind⟩ := C.step skipped hi
        have ended := C.skipBlanks_ended (C.loose behind)
        have behind := C.skipBlanks (C.loose behind)
        simp only [hi, hj, ← C.atAddress_eq behind]
        split
        · next start =>
          exact (ih (C.abreast_atAddress behind start)).bind fun _ _ _ later => .reads later
        · exact .refuses (C.missing behind ended)
      · have last : ∀ s, i.skipBlanks.rest ≠ ',' :: s := fun s hi => more ⟨s, hi⟩
        have last' : ∀ t, j.skipBlanks.rest ≠ ',' :: t :=
          fun t hj => more (C.step_back skipped (by decide) hj)
        dsimp only
        split
        · next hi => exact absurd hi (last _)
        · exact .reads skipped

theorem readFilter_alike {opening opening' : Input} (ho : A opening opening') (h : R i j) :
    Alike R E (Command.readFilter opening i) (Command.readFilter opening' j) := by
  obtain ⟨b, blanks, taken, related⟩ := C.span h fun c => decide (c ≠ '\n')
  have same : Text.trim (j.rest.takeWhile fun c => decide (c ≠ '\n')) =
      Text.trim (i.rest.takeWhile fun c => decide (c ≠ '\n')) := by
    rw [taken, blanks.trim_append]
  simp only [Command.readFilter, same]
  split
  · exact C.refuses ho (by simp)
  · exact .reads related

section Members

variable {member : Reader Command}
  (inner : ∀ {i j}, A i j → A i.skipBlanks j.skipBlanks → Alike R E (member i) (member j))

include inner

theorem readSub_alike (h : R i j) :
    Alike R E (Command.readSub member i) (Command.readSub member j) := by
  have skipped := C.skipBlanks h
  simp only [Command.readSub, ← C.atClose_eq skipped (C.skipBlanks_ended h)]
  split
  · exact .reads skipped
  · next more =>
    have level := C.abreast_skipBlanks h (Bool.eq_false_iff.2 more)
    exact inner level (by simpa only [Input.skipBlanks_skipBlanks] using level)

variable (shorter : ∀ {i c j}, member i = .ok (c, j) → j.rest.length < i.rest.length)

include shorter

theorem readMembers_alike {opening opening' : Input} (ho : A opening opening')
    {bound bound' : Nat} (h : R i j) (hb : i.rest.length < bound) (hb' : j.rest.length < bound') :
    Alike R E (Command.readMembers member opening bound i)
      (Command.readMembers member opening' bound' j) := by
  -- The bounds may differ, as long as both are greater than what is left.
  induction bound generalizing i j bound' with
  | zero => exact absurd hb (Nat.not_lt_zero _)
  | succ bound ih =>
    obtain ⟨bound', rfl⟩ := Nat.exists_eq_add_one_of_ne_zero (Nat.ne_zero_of_lt hb')
    have skipped := C.skipBlanks h
    have less := i.skips_skipBlanks.length_le
    have less' := j.skips_skipBlanks.length_le
    cases hi : i.skipBlanks.rest with
    | nil =>
      have hj := C.skipBlanks_ended h hi
      simp only [Command.readMembers, hi, hj]
      exact C.refuses ho (by simp)
    | cons c s =>
      obtain ⟨t, hj, related⟩ := C.step skipped hi
      by_cases close : c = '}'
      · subst close
        simp only [Command.readMembers, hi, hj]
        exact .reads (C.loose related)
      · rw [Command.readMembers_cons member opening hi close,
          Command.readMembers_cons member opening' hj close]
        have level : A i.skipBlanks j.skipBlanks := C.abreast skipped (by simp [hi])
        have first := inner level (by simpa only [Input.skipBlanks_skipBlanks] using level)
        rcases one : member i.skipBlanks with e | ⟨d, k⟩
        · rw [one] at first
          rcases other : member j.skipBlanks with f | ⟨d', m⟩
          · rw [other] at first
            cases first with
            | refuses refused => exact .refuses refused
          · rw [other] at first
            cases first
        · rw [one] at first
          rcases other : member j.skipBlanks with f | ⟨d', m⟩
          · rw [other] at first
            cases first
          · rw [other] at first
            cases first with
            | reads later =>
              have left := shorter one
              have left' := shorter other
              exact (ih later (by omega) (by omega)).bind fun _ _ _ last => .reads last

theorem simple_alike (h : A i j) (ended : i.rest = [] → j.rest = []) :
    Alike R E (Command.readSimple member i) (Command.readSimple member j) := by
  cases hi : i.rest with
  | nil =>
    simp only [Command.readSimple, hi, ended hi]
    exact C.refuses h (by simp)
  | cons l s =>
    obtain ⟨t, hj, related⟩ := C.step (C.loose h) hi
    rcases Command.letter_cases l with ⟨c, found⟩ | ⟨put, found⟩ | ⟨wrap, found⟩ | rfl | rfl | other
    · rw [found.readSimple_eq hi, found.readSimple_eq hj]
      exact .reads (C.loose related)
    · rw [found.readSimple_eq hi, found.readSimple_eq hj]
      exact (C.readText_alike related l).bind fun _ _ _ later => .reads later
    · rw [found.readSimple_eq hi, found.readSimple_eq hj]
      refine (C.readPattern_alike related l).bind fun p _ _ behind => ?_
      exact (C.readSub_alike inner behind).bind fun _ _ _ later => .reads later
    · simp only [Command.readSimple, hi, hj]
      exact C.readFilter_alike h (C.loose related)
    · simp only [Command.readSimple, hi, hj]
      exact (C.readMembers_alike inner shorter h (C.loose related) (Nat.lt_succ_self _)
        (Nat.lt_succ_self _)).bind fun _ _ _ later => .reads later
    · rw [Command.readSimple_unknown other hi, Command.readSimple_unknown other hj]
      exact C.refuses h (by simp)

end Members

theorem nested_alike {levels : Nat} (few : levels ≤ nestingLimit) (h : A i j)
    (skipped : A i.skipBlanks j.skipBlanks) :
    Alike R E (Command.readNested levels i) (Command.readNested levels j) := by
  -- The induction is on the levels that are left.
  induction levels generalizing i j with
  | zero => exact C.refuses h (by simp)
  | succ levels ih =>
    have fewer : levels ≤ nestingLimit := Nat.le_of_succ_le few
    have simple {i j : Input} (h : A i j) (ended : i.rest = [] → j.rest = []) :=
      C.simple_alike (ih fewer) (Command.readNested_shorter fewer) h ended
    simp only [Command.readNested, ← C.atAddress_eq (C.loose skipped)]
    split
    · refine (C.address_alike nestingLimit skipped).bind fun a i j related => ?_
      have behind := C.skipBlanks related
      simp only [← C.atClose_eq behind (C.skipBlanks_ended related)]
      split
      · exact .reads behind
      · next more =>
        have level := C.abreast_skipBlanks related (Bool.eq_false_iff.2 more)
        exact (simple level (C.skipBlanks_ended related)).bind fun _ _ _ later => .reads later
    · exact simple skipped (C.skipBlanks_ended (C.loose h))

end Correspondence

end StructuralEdit
