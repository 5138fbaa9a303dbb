import StructuralEdit.Proofs.Command.Reading
/-!
Reading addresses. No separator has to stand behind an address, so its end is found by what can
follow there: an address ends where no other one can start. One that is spelled as the grammar says
is refused only for the number of its links, and this holds for all that are written out.
-/
namespace StructuralEdit

def startsAddress (c : Char) : Bool := c.isDigit || ".,$#/?".toList.contains c

theorem Input.atAddress_eq {i : Input} {c : Char} {u : Text} (hi : i.rest = c :: u) :
    i.atAddress = startsAddress c := by
  rw [atAddress, hi, startsAddress]

theorem Input.skipBlanks_eq_self {i : Input} {c : Char} {u : Text} (hi : i.rest = c :: u)
    (solid : c.isBlank = false) : i.skipBlanks = i := by
  cases i with
  | mk offset t =>
    cases hi
    simp [skipBlanks, after, solid]

theorem isBlank_of_startsAddress {c : Char} (h : startsAddress c = true) : c.isBlank = false := by
  rw [startsAddress, Bool.or_eq_true] at h
  rcases h with digit | mark
  · have code : 48 ≤ c.toNat ∧ c.toNat ≤ 57 := Char.isDigit_iff_toNat.mp digit
    simp [Char.isBlank]
    omega
  · have all : ".,$#/?".toList.all (!·.isBlank) = true := by decide
    simpa using List.all_eq_true.mp all c (List.contains_iff_mem.mp mark)

theorem toDigits_start (n : Nat) : ∃ d ds, Nat.toDigits 10 n = d :: ds ∧ d.isDigit = true := by
  cases digits : Nat.toDigits 10 n with
  | nil => exact absurd digits Nat.toDigits_ne_nil
  | cons d ds =>
    refine ⟨d, ds, rfl, Nat.isDigit_of_mem_toDigits (b := 10) (n := n) (by decide) (by decide) ?_⟩
    simp [digits]

theorem Digits.start {n : Nat} {u : Text} (h : Digits u n) :
    ∃ d v, u = d :: v ∧ d.isDigit = true := by
  obtain ⟨zeros, rfl⟩ := h.spelled
  cases zeros with
  | zero => exact toDigits_start n
  | succ zeros => exact ⟨'0', _, rfl, rfl⟩

theorem not_digit_of_blank {c : Char} (h : c.isBlank = true) : c.isDigit = false := by
  refine Bool.eq_false_iff.2 fun digit => ?_
  have solid := isBlank_of_startsAddress (c := c) (by simp [startsAddress, digit])
  rw [solid] at h
  cases h

theorem Blanks.not_digit {b : Text} (hb : Blanks b) {c : Char} (hc : c.isDigit = false) (s : Text) :
    ∀ d ∈ (b ++ c :: s).head?, d.isDigit = false := by
  intro d hd
  cases b with
  | nil =>
    cases hd
    exact hc
  | cons x b =>
    cases hd
    exact not_digit_of_blank (hb d List.mem_cons_self)

/-- No address starts behind the blanks. -/
def Stops (s : Text) : Prop := ∀ c ∈ s.trimStart.head?, startsAddress c = false

theorem Stops.not_digit {rest : Text} (h : Stops rest) : ∀ c ∈ rest.head?, c.isDigit = false := by
  intro c hc
  cases rest with
  | nil => cases hc
  | cons d rest =>
    cases hc
    cases blank : c.isBlank with
    | true => exact not_digit_of_blank blank
    | false =>
      have other := h c (by rw [Text.trimStart_solid blank]; rfl)
      exact (Bool.or_eq_false_iff.1 other).1

theorem Blanks.stops {b : Text} (hb : Blanks b) {c : Char} (solid : c.isBlank = false)
    (other : startsAddress c = false) (s : Text) : Stops (b ++ c :: s) := by
  intro d hd
  rw [hb.trimStart_append, Text.trimStart_solid solid] at hd
  cases hd
  exact other

theorem Closes.stops {rest : Text} (h : Closes rest) : Stops rest := by
  intro c hc
  rw [closes_iff.1 h c hc]
  decide

theorem Stops.atAddress {i : Input} (h : Stops i.rest) : i.skipBlanks.atAddress = false := by
  unfold Input.atAddress
  split
  · next c s next => exact h c (by rw [← i.skipBlanks_rest, next]; rfl)
  · rfl

namespace Address

variable {a : Address} {i : Input} {c : Char} {u rest : Text} {n links : Nat}

theorem render_start (a : Address) : ∃ c u, a.render = c :: u ∧ startsAddress c = true := by
  induction a with
  | dot => exact ⟨'.', [], rfl, by decide⟩
  | finish => exact ⟨'$', [], rfl, by decide⟩
  | char n => exact ⟨'#', _, rfl, by decide⟩
  | line n =>
    obtain ⟨d, ds, digits, digit⟩ := toDigits_start n
    exact ⟨d, ds, digits, by simp [startsAddress, digit]⟩
  | search d p => cases d <;> exact ⟨_, _, rfl, by decide⟩
  | range a b ih _ =>
    by_cases whole : a = .line 0 ∧ b = .finish
    · obtain ⟨rfl, rfl⟩ := whole
      exact ⟨',', [], rfl, by decide⟩
    · obtain ⟨c, u, render, start⟩ := ih
      exact ⟨c, u ++ ',' :: b.render, by rw [render_range whole, render]; rfl, start⟩

theorem readSimple_number (h : ∀ c ∈ i.rest.head?, c ∉ ".$#/?".toList) :
    readSimple i = (readNumber i >>= fun (n, j) => pure (.line n, j)) := by
  unfold readSimple
  split
  case h_6 => rfl
  all_goals
    next mark =>
    rw [mark] at h
    exact absurd (by decide) (h _ rfl)

theorem readSimple_digit {d : Char} {t : Text} (hd : d.isDigit = true) (hi : i.rest = d :: t) :
    readSimple i = (readNumber i >>= fun (n, j) => pure (.line n, j)) := by
  refine readSimple_number fun c hc mark => ?_
  rw [hi] at hc
  cases hc
  have all : ".$#/?".toList.all (!·.isDigit) = true := by decide
  have other := List.all_eq_true.mp all d mark
  rw [hd] at other
  cases other

theorem Simple.start (h : Simple u a) :
    ∃ c v, u = c :: v ∧ startsAddress c = true ∧ c ≠ ',' := by
  cases h with
  | dot => exact ⟨'.', [], rfl, by decide, by decide⟩
  | finish => exact ⟨'$', [], rfl, by decide, by decide⟩
  | char digits => exact ⟨'#', _, rfl, by decide, by decide⟩
  | line digits =>
    obtain ⟨d, v, rfl, digit⟩ := digits.start
    refine ⟨d, v, rfl, by simp [startsAddress, digit], ?_⟩
    rintro rfl
    exact absurd digit (by decide)
  | search d => cases d <;> exact ⟨_, _, rfl, by decide, by decide⟩

theorem reads_search {d : Direction} {source : Text} {p : Pattern} (opening : Input)
    (delimited : Delimited d.delimiter u source) (compiled : Pattern.ofSource source = .ok p)
    (hi : i.rest = u ++ rest) : Reads (.search d p) rest (readSearch d opening i) := by
  have plain : d.delimiter ≠ '\\' := by cases d <;> decide
  refine (delimited.reads plain opening hi).map fun j => ?_
  simp only [compilePattern_of_ofSource opening compiled]
  rfl

theorem Simple.reads (h : Simple u a) (stop : ∀ c ∈ rest.head?, c.isDigit = false)
    (hi : i.rest = u ++ rest) : Reads a rest (readSimple i) := by
  cases h with
  | dot =>
    simp only [readSimple, hi, List.singleton_append]
    exact .ok rfl
  | finish =>
    simp only [readSimple, hi, List.singleton_append]
    exact .ok rfl
  | char digits =>
    simp only [readSimple, hi, List.cons_append]
    exact (digits.reads stop rfl).map fun _ => rfl
  | line digits =>
    obtain ⟨d, v, split, digit⟩ := digits.start
    rw [readSimple_digit digit (by rw [hi, split]; rfl)]
    exact (digits.reads stop hi).map fun _ => rfl
  | search d delimited compiled =>
    cases d with
    | forward =>
      simp only [readSimple, hi, Direction.delimiter, List.cons_append]
      exact reads_search i delimited compiled rfl
    | backward =>
      simp only [readSimple, hi, Direction.delimiter, List.cons_append]
      exact reads_search i delimited compiled rfl

theorem WellFormed.simple (h : a.WellFormed) (simple : a.isRange = false) :
    Simple a.render a := by
  cases h with
  | dot => exact .dot
  | finish => exact .finish
  | char hn => exact .char (digits_toDigits hn)
  | line hn => exact .line (digits_toDigits hn)
  | search d p =>
    have hidden : CanEscape d.delimiter := by cases d <;> decide
    exact .search d (delimited_escape hidden p.source) p.ofSource_source
  | range => cases simple

theorem read_succ (links : Nat) (h : ∀ t, i.rest ≠ ',' :: t) : read (links + 1) i = (do
    let (a, j) ← readSimple i
    let j := j.skipBlanks
    match j.rest with
    | ',' :: rest =>
      let k := (j.after [','] rest).skipBlanks
      if k.atAddress then
        let (b, l) ← read links k
        return (.range a b, l)
      else k.fail .addressExpected
    | _ => return (a, j)) := by
  rw [read]
  split
  · next comma => exact absurd comma (h _)
  · rfl

theorem Spelled.start (h : Spelled u a n) : ∃ c v, u = c :: v ∧ startsAddress c = true := by
  cases h with
  | simple simple =>
    obtain ⟨c, v, split, start, -⟩ := simple.start
    exact ⟨c, v, split, start⟩
  | whole => exact ⟨',', [], rfl, by decide⟩
  | upTo => exact ⟨',', _, rfl, by decide⟩
  | link simple =>
    obtain ⟨c, v, rfl, start, -⟩ := simple.start
    exact ⟨c, _, rfl, start⟩

theorem Spelled.trimStart_append (h : Spelled u a n) (rest : Text) :
    (u ++ rest).trimStart = u ++ rest := by
  obtain ⟨c, v, rfl, start⟩ := h.start
  exact Text.trimStart_solid (isBlank_of_startsAddress start) _

theorem Spelled.atAddress (h : Spelled u a n) (hi : i.rest = u ++ rest) : i.atAddress = true := by
  obtain ⟨c, v, rfl, start⟩ := h.start
  exact (Input.atAddress_eq hi).trans start

theorem Simple.read_eq (h : Simple u a) (hi : i.rest = u ++ rest) (links : Nat) :
    read (links + 1) i = (do
      let (a, j) ← readSimple i
      let j := j.skipBlanks
      match j.rest with
      | ',' :: rest =>
        let k := (j.after [','] rest).skipBlanks
        if k.atAddress then
          let (b, l) ← read links k
          return (.range a b, l)
        else k.fail .addressExpected
      | _ => return (a, j)) := by
  obtain ⟨c, v, rfl, -, other⟩ := h.start
  refine read_succ links fun t comma => other ?_
  exact (List.cons.inj (hi.symm.trans comma)).1

/-- The only reason not to read an address is that its chain has too many links. -/
theorem Spelled.reading (h : Spelled u a n) (stop : Stops rest) (hi : i.rest = u ++ rest) :
    Reading a rest (fun why => why = .addressTooDeep ∧ links ≤ n) (read links i) := by
  -- Each rule but that of one address by itself takes a link, and without links nothing is read.
  induction h generalizing links i with
  | simple simple =>
    cases links with
    | zero => exact .refuses ⟨rfl, Nat.zero_le _⟩
    | succ links =>
      suffices done : Reads _ rest (read (links + 1) i) from done.congr fun why => by simp
      rw [simple.read_eq hi]
      refine (simple.reads stop.not_digit hi).bind fun j left => ?_
      have next : j.skipBlanks.rest = rest.trimStart := left
      dsimp only
      split
      · next behind comma =>
        have other := stop ',' (by rw [← next, comma]; rfl)
        exact absurd other (by decide)
      · exact .reads (fun _ => id) (by rw [next, Text.trimStart_trimStart])
  | whole =>
    cases links with
    | zero => exact .refuses ⟨rfl, Nat.zero_le _⟩
    | succ links =>
      suffices done : Reads wholeText rest (read (links + 1) i) from done.congr fun why => by simp
      have opening : i.rest = ',' :: rest := hi
      have other : (i.after [','] rest).skipBlanks.atAddress = false := Stops.atAddress stop
      simp only [read, opening, other]
      exact .reads (fun _ => id) (Text.trimStart_trimStart rest)
  | @upTo b v e n blanks spelled ih =>
    cases links with
    | zero => exact .refuses ⟨rfl, Nat.zero_le _⟩
    | succ links =>
      have opening : i.rest = ',' :: (b ++ (v ++ rest)) := by
        rw [hi, List.cons_append, List.append_assoc]
      have next : (i.after [','] (b ++ (v ++ rest))).skipBlanks.rest = v ++ rest :=
        (blanks.trimStart_append _).trans (spelled.trimStart_append rest)
      have address := spelled.atAddress next
      simp only [read, opening, address, if_true]
      refine Reading.congr ?_ fun why => and_congr_right fun _ => Nat.succ_le_succ_iff.symm
      exact (ih next).map fun _ => rfl
  | @link u a b b' v e n simple blanks blanks' spelled ih =>
    cases links with
    | zero => exact .refuses ⟨rfl, Nat.zero_le _⟩
    | succ links =>
      have whole : i.rest = u ++ (b ++ ',' :: (b' ++ (v ++ rest))) := by
        rw [hi]
        simp only [List.append_assoc, List.cons_append]
      rw [simple.read_eq whole]
      refine (simple.reads (blanks.not_digit (by decide) _) whole).bind fun j left => ?_
      have comma : j.skipBlanks.rest = ',' :: (b' ++ (v ++ rest)) :=
        left.trans ((blanks.trimStart_append _).trans (Text.trimStart_solid (by decide) _))
      have next : (j.skipBlanks.after [','] (b' ++ (v ++ rest))).skipBlanks.rest = v ++ rest :=
        (blanks'.trimStart_append _).trans (spelled.trimStart_append rest)
      have address := spelled.atAddress next
      simp only [comma, address, if_true]
      refine Reading.congr ?_ fun why => and_congr_right fun _ => Nat.succ_le_succ_iff.symm
      exact (ih next).map fun _ => rfl

theorem Spelled.reads (h : Spelled u a n) (few : n < links) (stop : Stops rest)
    (hi : i.rest = u ++ rest) : Reads a rest (read links i) :=
  (h.reading stop hi).congr fun _ => iff_false_intro fun ⟨_, many⟩ => absurd few (by omega)

theorem WellFormed.spelled (h : a.WellFormed) : Spelled a.render a a.links := by
  induction h with
  | dot => exact .simple .dot
  | finish => exact .simple .finish
  | char hn => exact .simple ((WellFormed.char hn).simple rfl)
  | line hn => exact .simple ((WellFormed.line hn).simple rfl)
  | search d p => exact .simple ((WellFormed.search d p).simple rfl)
  | @range a b simple first _ _ ih =>
    by_cases whole : a = .line 0 ∧ b = .finish
    · obtain ⟨rfl, rfl⟩ := whole
      exact .whole
    · rw [render_range whole, links_range whole]
      exact .link (first.simple simple) .nil .nil ih

/-- What may stand behind an address that is written out: no blank, and nothing that an address
starts with. -/
structure EndsAddress (c : Char) : Prop where
  other : startsAddress c = false
  solid : c.isBlank = false

theorem read_render (h : a.WellFormed) (hc : EndsAddress c) (hi : i.rest = a.render ++ c :: u) :
    Reading a (c :: u) (fun why => why = .addressTooDeep ∧ links ≤ a.links) (read links i) :=
  h.spelled.reading (Blanks.nil.stops hc.solid hc.other u) hi

end Address

end StructuralEdit
