import StructuralEdit.Proofs.Command.Surroundings
import StructuralEdit.Proofs.Session.Reports
/-!
The place of an error that a session reports. The blanks around a command are cut off before it is
read, and the place counts from what is left: so it falls short of the place in the text that was
given, by the blanks in front. The blanks behind matter only where a reader comes to the end: it
skips them before it misses an address, and it finds one of them where it misses a delimiter.
-/
namespace StructuralEdit

theorem Text.size_eq_zero_iff {t : Text} : t.size = 0 ↔ t = [] := by
  cases t with
  | nil => exact ⟨fun _ => rfl, fun _ => rfl⟩
  | cons c t =>
    have positive := c.utf8Size_pos
    rw [Text.size_cons]
    exact ⟨fun none => by omega, nofun⟩

/-- What is wrong with a text, and what with the text that has blanks behind: the first of these may
stand in the place of a delimiter. -/
inductive Malformed.Restated (behind : Text) : Malformed → Malformed → Prop
  | same (why : Malformed) : Restated behind why why
  | blank {c : Char} (letter : Char) : behind.head? = some c →
      Restated behind (.delimiterExpected letter) (.delimiterInvalid c letter)

def ParseError.addressLess (t : Text) : ParseError := ⟨t.size, .addressExpected⟩

/-- The error of a text, and that of the text with blanks behind, which moves behind these if it is
that there is no address at the end. -/
structure ParseError.Extended (t behind : Text) (f e : ParseError) : Prop where
  offset_eq : e.offset = f.offset + if f = addressLess t then behind.size else 0
  why : f.why.Restated behind e.why

/-- The same place, with blanks behind what is left to the second input. -/
structure Input.Level (t behind : Text) (i j : Input) : Prop where
  offset_eq : j.offset = i.offset
  size_eq : i.offset + i.rest.size = t.size
  rest_eq : j.rest = i.rest ++ behind

structure Input.Ended (t behind : Text) (i j : Input) : Prop where
  rest_eq : i.rest = []
  offset_eq : i.offset = t.size
  blanks : Blanks j.rest
  size_eq : j.offset + j.rest.size = t.size + behind.size

variable {i j : Input} {t behind : Text}

theorem Input.Level.ended (h : i.Level t behind j) (blanks : Blanks behind) (ended : i.rest = []) :
    i.Ended t behind j := by
  have place := h.size_eq
  rw [ended, Text.size_nil, Nat.add_zero] at place
  have rest := h.rest_eq
  rw [ended, List.nil_append] at rest
  exact ⟨ended, place, rest ▸ blanks, by rw [h.offset_eq, place, rest]⟩

theorem Input.Level.not_addressLess (h : i.Level t behind j) (some : i.rest ≠ []) :
    (⟨i.offset, .addressExpected⟩ : ParseError) ≠ .addressLess t := by
  intro same
  have place : i.offset = t.size := congrArg ParseError.offset same
  have rest := h.size_eq
  exact some (Text.size_eq_zero_iff.1 (by omega))

theorem correspondence_extended (blanks : Blanks behind) :
    Correspondence (Input.Level t behind)
      (fun i j => i.Level t behind j ∨ i.Ended t behind j) (ParseError.Extended t behind) where
  loose := Or.inl
  abreast := by
    rintro i j (level | ended) some
    · exact level
    · exact absurd ended.rest_eq some
  rest_eq := by
    rintro i j (level | ended)
    · exact ⟨behind, blanks, level.rest_eq⟩
    · exact ⟨j.rest, ended.blanks, by rw [ended.rest_eq, List.nil_append]⟩
  after := by
    intro i j u s v level hi hj
    have rest := level.rest_eq
    rw [hi, hj, List.append_assoc] at rest
    have size := level.size_eq
    rw [hi, Text.size_append, ← Nat.add_assoc] at size
    exact ⟨congrArg (· + u.size) level.offset_eq, size, List.append_cancel_left rest⟩
  atEnd := by
    intro i j u v related hi hj
    have ended : i.Ended t behind j := related.elim (·.ended blanks hi) id
    have size := ended.size_eq
    rw [hj, Text.size_append, ← Nat.add_assoc] at size
    have later : Blanks v := fun c hc => ended.blanks c (hj ▸ List.mem_append_right u hc)
    exact Or.inr ⟨hi, ended.offset_eq, later, size⟩
  fail := by
    intro i j why other level
    have address : (⟨i.offset, why⟩ : ParseError) ≠ .addressLess t :=
      fun same => other (congrArg ParseError.why same)
    refine ⟨?_, .same why⟩
    rw [if_neg address]
    exact level.offset_eq
  missing := by
    intro i j related both
    refine ⟨?_, .same _⟩
    -- Here alone the two errors move apart: at the end of the text, the second is behind the
    -- blanks.
    by_cases hi : i.rest = []
    · have ended : i.Ended t behind j := related.elim (·.ended blanks hi) id
      have size := ended.size_eq
      rw [both hi, Text.size_nil] at size
      have less : (⟨i.offset, .addressExpected⟩ : ParseError) = .addressLess t := by
        rw [ended.offset_eq]
        rfl
      rw [if_pos less, ended.offset_eq]
      exact size
    · have level : i.Level t behind j := related.resolve_right fun ended => hi ended.rest_eq
      rw [if_neg (level.not_addressLess hi)]
      exact level.offset_eq
  ragged := by
    intro i j c v letter level hi hj
    have rest := level.rest_eq
    rw [hi, hj, List.nil_append] at rest
    refine ⟨?_, .blank letter (by rw [← rest]; rfl)⟩
    have delimiter : (⟨i.offset, .delimiterExpected letter⟩ : ParseError) ≠ .addressLess t :=
      fun same => nomatch congrArg ParseError.why same
    rw [if_neg delimiter]
    exact level.offset_eq

namespace Command

theorem read_append_blanks_error (solid : ¬Blanks t) (blanks : Blanks behind) {f : ParseError}
    (failed : read t = .error f) :
    ∃ e, read (t ++ behind) = .error e ∧ ParseError.Extended t behind f e := by
  have C := correspondence_extended (t := t) blanks
  have level : Input.Level t behind ⟨0, t⟩ ⟨0, t ++ behind⟩ := ⟨rfl, Nat.zero_add _, rfl⟩
  have some : (Input.mk 0 t).skipBlanks.rest ≠ [] := fun none => solid (trimStart_eq_nil_iff.1 none)
  have start := C.abreast (C.skipBlanks (C.loose level)) some
  rw [read_eq_readFrom] at failed ⊢
  rcases readFrom_cases C level start with ⟨c, done, -⟩ | ⟨g, e, told, refused, extended⟩
  · cases failed.symm.trans done
  · cases failed.symm.trans told
    exact ⟨e, refused, extended⟩

end Command

theorem ParseError.Extended.offset_eq_iff {f e : ParseError} (h : Extended t behind f e) (n : Nat) :
    f.offset = (e.shift n).offset ↔ n = 0 ∧ (f = addressLess t → behind = []) := by
  have offset := h.offset_eq
  have shifted : (e.shift n).offset = n + e.offset := rfl
  rw [shifted, ← Text.size_eq_zero_iff]
  split at offset
  · next less =>
    rw [forall_prop_of_true less]
    omega
  · next other =>
    rw [and_iff_left fun less => absurd less other]
    omega

variable {η σ : Type} [Host η]

namespace Session

/-- A text that is not blank and is refused as a command is refused by a session, which then leaves
everything as it is. The session tells the error of the text without the blanks around it. So the
place that it tells is the place in the text that was given exactly if there are no blanks in front,
and, where an address is missing at the end, none behind. -/
theorem execute_malformed {input : Text} (solid : ¬Blanks input) {e : ParseError}
    (refused : Command.read input = .error e) (s : Session σ) (w : World η σ) :
    ∃ front behind f g, Blanks front ∧ Blanks behind ∧
      input = front ++ (Text.trim input ++ behind) ∧ Command.read (Text.trim input) = .error f ∧
      s.execute input w = (.error (.malformed f), w) ∧
      (∀ a b, s.executeOnRegion input a b w = (.error (.malformed f), w)) ∧
      ParseError.Extended (Text.trim input) behind f g ∧ e = g.shift front.size ∧
      (f.offset = e.offset ↔
        front = [] ∧ (f = ParseError.addressLess (Text.trim input) → behind = [])) := by
  obtain ⟨front, before, start⟩ := skips_trimStart input
  obtain ⟨behind, after, split⟩ := exists_trimEnd input.trimStart
  have whole : input = front ++ (Text.trim input ++ behind) := by
    conv => lhs; rw [start, split]
    rfl
  cases told : Command.read (Text.trim input) with
  | ok c => cases refused.symm.trans ((Command.read_trim_iff input c).1 told)
  | error f =>
    have some : Text.trim input ≠ [] := fun none => solid (trim_eq_nil_iff.1 none)
    have rest : ¬Blanks (Text.trim input) := by
      rw [← trim_eq_nil_iff, Text.trim_eq_self (Text.trimmed_trim input)]
      exact some
    obtain ⟨g, failed, extended⟩ := Command.read_append_blanks_error rest after told
    -- The blanks in front only move the error.
    have shifted := Command.read_append_eq_mapError before (Text.trim input ++ behind)
    rw [← whole, refused, failed] at shifted
    cases shifted
    have given : readInput input = .error (.malformed f) := by
      rw [readInput, if_neg fun empty => some (List.isEmpty_iff.1 empty), told]
    refine ⟨front, behind, f, g, before, after, whole, rfl, ?_, fun a b => ?_, extended, rfl, ?_⟩
    · rw [execute, runOn, given]
    · rw [executeOnRegion, runOn, given]
    · rw [← Text.size_eq_zero_iff]
      exact extended.offset_eq_iff front.size

theorem execute_malformed_comma :
    Command.read "  1, ".toList = .error ⟨5, .addressExpected⟩ ∧
      execute ⟨{}, refusing⟩ "  1, ".toList single =
        (.error (.malformed ⟨2, .addressExpected⟩), single) := by
  have solid : ¬Blanks "  1, ".toList := by decide
  have refused : Command.read "  1, ".toList = .error ⟨5, .addressExpected⟩ := rfl
  obtain ⟨_, _, f, _, _, _, _, told, given, _⟩ :=
    execute_malformed solid refused ⟨{}, refusing⟩ single
  cases told
  exact ⟨refused, given⟩

/-- The place of a letter behind two blanks is told without these. -/
theorem exists_error_misplaced :
    ¬∀ (s : Session Nat) (w : World Recording Nat) (input : Text) (e : ParseError),
      ¬Blanks input → Command.read input = .error e →
        ∃ f, s.execute input w = (.error (.malformed f), w) ∧ f.offset = e.offset := by
  intro all
  have solid : ¬Blanks "  z".toList := by decide
  obtain ⟨f, given, same⟩ :=
    all ⟨{}, refusing⟩ single "  z".toList ⟨2, .commandUnknown 'z'⟩ solid rfl
  have told : execute ⟨{}, refusing⟩ "  z".toList single =
      (.error (.malformed ⟨0, .commandUnknown 'z'⟩), single) := rfl
  cases told.symm.trans given
  cases same

end Session

end StructuralEdit
