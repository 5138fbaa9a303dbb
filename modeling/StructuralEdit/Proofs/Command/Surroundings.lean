import StructuralEdit.Proofs.Command.Correspondence
import StructuralEdit.Proofs.Text.Places
import StructuralEdit.Session
/-!
Blanks around a command. Those in front move the place of an error and change nothing else, and
those behind change nothing that is accepted, so that a session may cut off both. A command is
refused at a place between two characters of its text, or at an end of it.
-/
namespace StructuralEdit

variable {i j : Input} {s t : Text}

def ParseError.shift (n : Nat) (e : ParseError) : ParseError := { e with offset := n + e.offset }

namespace Command

def readFrom (i : Input) : Except ParseError Command := do
  let (c, i) ← readNested nestingLimit i
  let i := i.skipBlanks
  match i.rest with
  | [] => return c
  | found :: _ => i.fail (.trailing found)

theorem read_eq_readFrom (t : Text) : read t = readFrom ⟨0, t⟩ := rfl

theorem readFrom_cases {A R : Input → Input → Prop} {E : ParseError → ParseError → Prop}
    (C : Correspondence A R E) (h : A i j) (start : A i.skipBlanks j.skipBlanks) :
    (∃ c, readFrom i = .ok c ∧ readFrom j = .ok c) ∨
      ∃ e f, readFrom i = .error e ∧ readFrom j = .error f ∧ E e f := by
  have nested := C.nested_alike (Nat.le_refl nestingLimit) h start
  unfold readFrom
  generalize readNested nestingLimit i = x at nested
  generalize readNested nestingLimit j = y at nested
  cases nested with
  | refuses refused => exact Or.inr ⟨_, _, rfl, rfl, refused⟩
  | @reads c i j related =>
    have skipped := C.skipBlanks related
    simp only [bind, Except.bind]
    cases hi : i.skipBlanks.rest with
    | nil =>
      rw [C.skipBlanks_ended related hi]
      exact Or.inl ⟨c, rfl, rfl⟩
    | cons d s =>
      obtain ⟨t, hj, -⟩ := C.step skipped hi
      rw [hj]
      have level := C.abreast skipped (by simp [hi])
      exact Or.inr ⟨_, _, rfl, rfl, C.fail (by simp) level⟩

end Command

theorem correspondence_shift (n : Nat) :
    Correspondence (fun i j => j = ⟨n + i.offset, i.rest⟩)
      (fun i j => j = ⟨n + i.offset, i.rest⟩) fun e f => f = e.shift n where
  loose := id
  abreast := fun h _ => h
  rest_eq := by
    rintro i _ rfl
    exact ⟨[], .nil, (List.append_nil _).symm⟩
  after := by
    rintro i _ u s t rfl hi hj
    have same : s = t := List.append_cancel_left (hi.symm.trans hj)
    simp only [Input.after, same, Nat.add_assoc]
  atEnd := by
    rintro i _ u t rfl hi hj
    obtain ⟨rfl, rfl⟩ := List.append_eq_nil_iff.1 (hj.symm.trans hi)
    simp only [Input.after, Text.size_nil, Nat.add_zero, hi]
  fail := by
    rintro i _ why - rfl
    rfl
  missing := by
    rintro i _ rfl -
    rfl
  ragged := by
    rintro i _ c t letter rfl hi hj
    cases hi.symm.trans hj

theorem correspondence_blanks :
    Correspondence (fun i j => ∃ b, Blanks b ∧ j.rest = i.rest ++ b)
      (fun i j => ∃ b, Blanks b ∧ j.rest = i.rest ++ b) fun _ _ => True where
  loose := id
  abreast := fun h _ => h
  rest_eq := id
  after := by
    rintro i j u s t ⟨b, blanks, extended⟩ hi hj
    refine ⟨b, blanks, ?_⟩
    rw [hi, hj, List.append_assoc] at extended
    exact List.append_cancel_left extended
  atEnd := by
    rintro i j u t ⟨b, blanks, extended⟩ hi hj
    rw [hi, List.nil_append, hj] at extended
    refine ⟨t, fun c hc => blanks c (extended ▸ List.mem_append_right u hc), ?_⟩
    rw [hi]
    rfl
  fail := fun _ _ => trivial
  missing := fun _ _ => trivial
  ragged := fun _ _ _ _ => trivial

theorem correspondence_place (t : Text) :
    Correspondence (fun i j => i = j ∧ ∃ u, t = u ++ i.rest ∧ i.offset = u.size)
      (fun i j => i = j ∧ ∃ u, t = u ++ i.rest ∧ i.offset = u.size)
      fun e _ => t.isBoundary e.offset where
  loose := id
  abreast := fun h _ => h
  rest_eq := by
    rintro i _ ⟨rfl, -⟩
    exact ⟨[], .nil, (List.append_nil _).symm⟩
  after := by
    rintro i _ v s s' ⟨rfl, u, split, place⟩ hi hj
    have same : s = s' := List.append_cancel_left (hi.symm.trans hj)
    refine ⟨by rw [same], u ++ v, ?_, ?_⟩
    · rw [split, hi, List.append_assoc]
      rfl
    · rw [Text.size_append, ← place]
      rfl
  atEnd := by
    rintro i _ u s ⟨rfl, place⟩ hi hj
    obtain ⟨rfl, rfl⟩ := List.append_eq_nil_iff.1 (hj.symm.trans hi)
    refine ⟨?_, place⟩
    cases i with
    | mk offset rest =>
      cases hi
      rfl
  fail := by
    rintro i _ why - ⟨rfl, u, split, place⟩
    exact Text.isBoundary_iff.2 ⟨u, i.rest, split, place⟩
  missing := by
    rintro i _ ⟨rfl, u, split, place⟩ -
    exact Text.isBoundary_iff.2 ⟨u, i.rest, split, place⟩
  ragged := by
    rintro i _ c s letter ⟨rfl, -⟩ hi hj
    cases hi.symm.trans hj

namespace Command

theorem read_append (hs : Blanks s) (t : Text) : read (s ++ t) = readFrom ⟨s.size, t⟩ := by
  -- What follows the blanks is read from where it stands.
  have skipped : (Input.mk 0 (s ++ t)).skipBlanks = (Input.mk s.size t).skipBlanks := by
    simp only [Input.skipBlanks, Input.after, List.takeWhile_append_of_pos hs,
      List.dropWhile_append_of_pos hs, Text.size_append, Nat.zero_add]
  rw [read_eq_readFrom, readFrom, readFrom, nestingLimit, readNested, readNested, skipped]

theorem read_append_eq_mapError (hs : Blanks s) (t : Text) :
    read (s ++ t) = (read t).mapError (ParseError.shift s.size) := by
  rw [read_append hs, read_eq_readFrom]
  have C := correspondence_shift s.size
  rcases readFrom_cases C (i := ⟨0, t⟩) rfl (C.skipBlanks rfl) with
    ⟨c, first, second⟩ | ⟨e, _, first, second, rfl⟩
  · rw [first]
    exact second
  · rw [first]
    exact second

theorem read_append_blanks_iff (hs : Blanks s) (t : Text) (c : Command) :
    read (t ++ s) = .ok c ↔ read t = .ok c := by
  rw [read_eq_readFrom, read_eq_readFrom]
  have C := correspondence_blanks
  have start : ∃ b, Blanks b ∧ t ++ s = t ++ b := ⟨s, hs, rfl⟩
  rcases readFrom_cases C (i := ⟨0, t⟩) (j := ⟨0, t ++ s⟩) start (C.skipBlanks start) with
    ⟨d, first, second⟩ | ⟨e, f, first, second, -⟩
  · rw [first, second]
  · rw [first, second]
    exact ⟨fun h => (by cases h), fun h => (by cases h)⟩

theorem isBoundary_of_read_error {e : ParseError} (h : read t = .error e) :
    t.isBoundary e.offset := by
  rw [read_eq_readFrom] at h
  have C := correspondence_place t
  rcases readFrom_cases C (i := ⟨0, t⟩) ⟨rfl, [], rfl, rfl⟩ (C.skipBlanks ⟨rfl, [], rfl, rfl⟩) with
    ⟨c, done, -⟩ | ⟨f, _, failed, -, place⟩
  · cases done.symm.trans h
  · cases failed.symm.trans h
    exact place

theorem read_trim_iff (t : Text) (c : Command) :
    read (Text.trim t) = .ok c ↔ read t = .ok c := by
  obtain ⟨front, blanks, start⟩ := skips_trimStart t
  obtain ⟨back, blanks', split⟩ := exists_trimEnd t.trimStart
  have same : read t = .ok c ↔ read t.trimStart = .ok c := by
    conv => lhs; rw [start, read_append_eq_mapError blanks]
    cases read t.trimStart with
    | ok d => exact Iff.rfl
    | error e => exact ⟨fun h => (by cases h), fun h => (by cases h)⟩
  have cut := read_append_blanks_iff blanks' (Text.trimEnd t.trimStart) c
  rw [← split] at cut
  rw [same, cut]
  rfl

theorem readInput_eq_ok_iff (t : Text) (c : Command) : readInput t = .ok c ↔ read t = .ok c := by
  rw [← read_trim_iff, readInput]
  split
  · next empty =>
    have nothing : read [] = .error ⟨0, .commandExpected⟩ := rfl
    rw [List.isEmpty_iff.1 empty, nothing]
    exact ⟨fun h => (by cases h), fun h => (by cases h)⟩
  · split
    · next d done => rw [done, Except.ok.injEq, Except.ok.injEq]
    · next e failed =>
      rw [failed]
      exact ⟨fun h => (by cases h), fun h => (by cases h)⟩

/-- Blanks in front of a text leave the command that it is read as, or move the place of the error
by the bytes they take. Blanks behind it leave the command and accept no other text. So the blanks
that a session cuts off matter neither for what is accepted nor for what it means. Every error is
noticed at a place in the text that splits no character. -/
theorem read_surrounded {front behind : Text} (hf : Blanks front) (hb : Blanks behind) (t : Text) :
    read (front ++ t) = (read t).mapError (ParseError.shift front.size) ∧
      (∀ c, read (t ++ behind) = .ok c ↔ read t = .ok c) ∧
      (∀ c, readInput t = .ok c ↔ read t = .ok c) ∧
      ∀ e, read t = .error e → e.offset ≤ t.size ∧ t.isBoundary e.offset := by
  refine ⟨read_append_eq_mapError hf t, read_append_blanks_iff hb t, readInput_eq_ok_iff t, ?_⟩
  intro e failed
  have place := isBoundary_of_read_error failed
  exact ⟨Text.isBoundary_le place, place⟩

theorem read_surrounded_wide :
    read "\u3000\n2d\x7d".toList = .error ⟨6, .trailing '}'⟩ ∧
      read "|sort \u2029\n ".toList = .ok (.filter "sort".toList) := by
  have front : Blanks "\u3000\n".toList := by decide
  have behind : Blanks " \u2029\n ".toList := by decide
  constructor
  · exact (read_surrounded front behind "2d\x7d".toList).1.trans rfl
  · exact ((read_surrounded front behind "|sort".toList).2.1 _).2 rfl

end Command

end StructuralEdit
