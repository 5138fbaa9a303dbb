import StructuralEdit.Proofs.Command.RoundTrip
import StructuralEdit.Proofs.Grammar.Soundness
/-!
All that is spelled as the grammar says is read, and so the grammar is exactly what is read. A
reader sees from the next character which rule of the grammar applies: nothing that an address
starts with is a letter of a command, and neither can be a closing brace.
-/
namespace StructuralEdit

variable {i : Input} {u t rest : Text}

theorem Closes.atClose (h : Closes rest) (hi : i.rest.trimStart = rest.trimStart) :
    i.skipBlanks.atClose = true := by
  rw [Input.atClose_skipBlanks, closes_iff, hi]
  exact closes_iff.1 h

theorem Input.atClose_of_ne {l : Char} (hi : i.rest = l :: t) (other : l ≠ '}') :
    i.atClose = false := by
  simp [atClose, hi, other]

open Command (letters endsAddress_of_letter ne_close_of_letter readNested readSimple readSub
  readMembers)

variable {c : Command} {cs : List Command} {depth : Nat}

theorem Spelled.start_simple (h : Spelled (.simple depth c) u rest) :
    ∃ l v, u = l :: v ∧ l ∈ letters := by
  cases h with
  | letter found => cases found <;> exact ⟨_, _, rfl, by decide⟩
  | text found => cases found <;> exact ⟨_, _, rfl, by decide⟩
  | pattern found => cases found <;> exact ⟨_, _, rfl, by decide⟩
  | filter => exact ⟨'|', _, rfl, by decide⟩
  | group => exact ⟨'{', _, rfl, by decide⟩

theorem start_address {a : Address} {n : Nat} (h : Address.Spelled u a n) :
    ∃ l v, u = l :: v ∧ l.isBlank = false ∧ l ≠ '}' := by
  obtain ⟨l, v, split, start⟩ := h.start
  refine ⟨l, v, split, isBlank_of_startsAddress start, ?_⟩
  rintro rfl
  exact absurd start (by decide)

theorem Spelled.start_command (h : Spelled (.command depth c) u rest) :
    ∃ l v, u = l :: v ∧ l.isBlank = false ∧ l ≠ '}' := by
  cases h with
  | simple _ spelled =>
    obtain ⟨l, v, split, letter⟩ := spelled.start_simple
    exact ⟨l, v, split, (endsAddress_of_letter letter).solid, ne_close_of_letter letter⟩
  | addressed _ address =>
    obtain ⟨l, v, rfl, solid, other⟩ := start_address address
    exact ⟨l, _, rfl, solid, other⟩
  | located _ address => exact start_address address

/-- What the readers make of a text that starts with a phrase. Levels of reading and the depth of
the phrase add up to the number of all levels. -/
def Phrase.ReadBack (u rest : Text) : Phrase → Prop
  | .command depth c => ∀ (levels : Nat) (i : Input), depth + levels = nestingLimit →
      i.rest.trimStart = (u ++ rest).trimStart → Reads c rest (readNested levels i)
  | .simple depth c => ∀ (levels : Nat) (i : Input), depth + 1 + levels = nestingLimit →
      i.rest = u ++ rest → Reads c rest (readSimple (readNested levels) i)
  | .optional depth c => ∀ (levels : Nat) (i : Input), depth + levels = nestingLimit →
      i.rest.trimStart = (u ++ rest).trimStart → Reads c rest (readSub (readNested levels) i)
  | .members depth cs => ∀ (levels bound : Nat) (opening i : Input),
      depth + levels = nestingLimit → u.length ≤ bound →
      i.rest.trimStart = (u ++ rest).trimStart →
      Reads cs rest (readMembers (readNested levels) opening bound i)

theorem Spelled.readBack_command (spelled : Spelled (.simple depth c) u rest) (flat : depth ≤ 100)
    (ih : (Phrase.simple depth c).ReadBack u rest) : (Phrase.command depth c).ReadBack u rest := by
  intro levels i level hi
  obtain ⟨more, rfl, deeper⟩ := exists_level level flat
  obtain ⟨l, v, rfl, letter⟩ := spelled.start_simple
  obtain ⟨other, solid⟩ := endsAddress_of_letter letter
  have next : i.skipBlanks.rest = l :: (v ++ rest) := hi.trans (Text.trimStart_solid solid _)
  have first : i.skipBlanks.atAddress = false := (Input.atAddress_eq next).trans other
  simp only [readNested, first]
  exact ih more _ deeper next

section Addressed

variable {a : Address} {n : Nat}

theorem readBack_addressed {b v : Text} (flat : depth ≤ 100) (address : Address.Spelled u a n)
    (few : n ≤ 100) (blanks : Blanks b) (spelled : Spelled (.simple depth c) v rest)
    (ih : (Phrase.simple depth c).ReadBack v rest) :
    (Phrase.command depth (.addressed a c)).ReadBack (u ++ (b ++ v)) rest := by
  intro levels i level hi
  obtain ⟨more, rfl, deeper⟩ := exists_level level flat
  obtain ⟨l, w, rfl, letter⟩ := spelled.start_simple
  obtain ⟨other, solid⟩ := endsAddress_of_letter letter
  rw [List.append_assoc, List.append_assoc] at hi
  have next : i.skipBlanks.rest = u ++ (b ++ l :: (w ++ rest)) :=
    hi.trans (address.trimStart_append _)
  have first : i.skipBlanks.atAddress = true := address.atAddress next
  have stops : Stops (b ++ l :: (w ++ rest)) := blanks.stops solid other _
  simp only [readNested, first, if_true]
  refine (address.reads (Nat.lt_succ_of_le few) stops next).bind fun j left => ?_
  have behind : j.skipBlanks.rest = l :: (w ++ rest) :=
    left.trans ((blanks.trimStart_append _).trans (Text.trimStart_solid solid _))
  have goesOn : j.skipBlanks.atClose = false :=
    Input.atClose_of_ne behind (ne_close_of_letter letter)
  simp only [goesOn]
  exact (ih more _ deeper behind).map fun _ => rfl

theorem readBack_located (flat : depth ≤ 100) (address : Address.Spelled u a n) (few : n ≤ 100)
    (closes : Closes rest) : (Phrase.command depth (.addressed a .print)).ReadBack u rest := by
  intro levels i level hi
  obtain ⟨more, rfl, -⟩ := exists_level level flat
  have next : i.skipBlanks.rest = u ++ rest := hi.trans (address.trimStart_append rest)
  have first : i.skipBlanks.atAddress = true := address.atAddress next
  simp only [readNested, first, if_true]
  refine (address.reads (Nat.lt_succ_of_le few) closes.stops next).bind fun j left => ?_
  have ended : j.skipBlanks.atClose = true := closes.atClose left
  simp only [ended, if_true]
  exact .reads (fun _ => id) ((Text.trimStart_trimStart _).trans left)

end Addressed

theorem readBack_group (ih : (Phrase.members (depth + 1) cs).ReadBack u rest) :
    (Phrase.simple depth (.group cs)).ReadBack ('{' :: u) rest := by
  intro levels i level hi
  have opening : i.rest = '{' :: (u ++ rest) := hi
  have bound : u.length ≤ (u ++ rest).length + 1 := by
    rw [List.length_append]
    omega
  have members := ih levels _ i (i.after ['{'] (u ++ rest)) level bound rfl
  simp only [readSimple, opening]
  exact members.map fun _ => rfl

theorem readBack_omitted (closes : Closes rest) :
    (Phrase.optional depth .print).ReadBack [] rest := by
  intro levels i _ hi
  have ended : i.skipBlanks.atClose = true := closes.atClose hi
  simp only [readSub, ended, if_true]
  exact .reads (fun _ => id) ((Text.trimStart_trimStart _).trans hi)

theorem readBack_given {b : Text} (blanks : Blanks b) (spelled : Spelled (.command depth c) u rest)
    (ih : (Phrase.command depth c).ReadBack u rest) :
    (Phrase.optional depth c).ReadBack (b ++ u) rest := by
  intro levels i level hi
  rw [List.append_assoc, blanks.trimStart_append] at hi
  obtain ⟨l, v, rfl, solid, other⟩ := spelled.start_command
  have next : i.skipBlanks.rest = l :: (v ++ rest) := hi.trans (Text.trimStart_solid solid _)
  have goesOn : i.skipBlanks.atClose = false := Input.atClose_of_ne next other
  simp only [readSub, goesOn]
  exact ih levels _ level ((Text.trimStart_trimStart _).trans hi)

theorem readBack_close {b : Text} (blanks : Blanks b) :
    (Phrase.members depth []).ReadBack (b ++ ['}']) rest := by
  intro levels bound opening i _ enough hi
  rw [List.append_assoc, blanks.trimStart_append] at hi
  rw [List.length_append, List.length_singleton] at enough
  obtain ⟨bound, rfl⟩ := Nat.exists_eq_add_one_of_ne_zero (n := bound) (by omega)
  have next : i.skipBlanks.rest = '}' :: rest := hi.trans (Text.trimStart_solid (by decide) _)
  simp only [readMembers, next]
  exact .ok rfl

theorem readBack_member {b v : Text} (blanks : Blanks b)
    (spelled : Spelled (.command depth c) u (v ++ rest))
    (first : (Phrase.command depth c).ReadBack u (v ++ rest))
    (later : (Phrase.members depth cs).ReadBack v rest) :
    (Phrase.members depth (c :: cs)).ReadBack (b ++ (u ++ v)) rest := by
  intro levels bound opening i level enough hi
  rw [List.append_assoc, blanks.trimStart_append, List.append_assoc] at hi
  obtain ⟨l, w, rfl, solid, other⟩ := spelled.start_command
  simp only [List.length_append, List.length_cons] at enough
  obtain ⟨bound, rfl⟩ := Nat.exists_eq_add_one_of_ne_zero (n := bound) (by omega)
  have next : i.skipBlanks.rest = l :: (w ++ (v ++ rest)) := hi.trans (Text.trimStart_solid solid _)
  have head := first levels i.skipBlanks level ((Text.trimStart_trimStart _).trans hi)
  rw [readMembers]
  simp only [next]
  split
  · next none => cases none
  · next close => exact absurd (List.cons.inj close).1 other
  · refine head.bind fun j left => ?_
    exact (later levels bound opening j level (by omega) left).map fun _ => rfl

theorem Spelled.readBack {φ : Phrase} (h : Spelled φ u rest) : φ.ReadBack u rest := by
  -- One case for each rule of the grammar.
  induction h with
  | simple flat spelled ih => exact spelled.readBack_command flat ih
  | addressed flat address few blanks spelled ih =>
    exact readBack_addressed flat address few blanks spelled ih
  | located flat address few closes => exact readBack_located flat address few closes
  | letter found =>
    intro levels i _ hi
    exact found.reads hi
  | text found argument =>
    intro levels i _ hi
    exact found.reads argument hi
  | pattern found argument compiled _ ih =>
    intro levels i level hi
    rw [List.cons_append, List.append_assoc] at hi
    exact found.reading argument compiled (fun k hk => ih levels k level hk) hi
  | filter inLine some stop =>
    intro levels i _ hi
    simp only [readSimple, hi, List.cons_append]
    exact readFilter_of_line i inLine some stop rfl
  | group _ ih => exact readBack_group ih
  | omitted closes => exact readBack_omitted closes
  | given blanks spelled ih => exact readBack_given blanks spelled ih
  | close blanks => exact readBack_close blanks
  | member blanks spelled _ first later => exact readBack_member blanks spelled first later

theorem Command.read_of_derives (h : Derives t c) : read t = .ok c := by
  obtain ⟨b, u, rest, blanks, behind, rfl, spelled⟩ := h
  have nested := spelled.readBack nestingLimit ⟨0, b ++ (u ++ rest)⟩ (Nat.zero_add _)
    (blanks.trimStart_append _)
  rw [read]
  generalize readNested nestingLimit ⟨0, b ++ (u ++ rest)⟩ = r at nested
  cases nested with
  | @reads j _ left =>
    have nothing : j.skipBlanks.rest = [] := left.trans behind.trimStart_eq_nil
    simp only [bind, Except.bind, nothing]
    rfl
  | refuses none => exact none.elim

/-- The grammar is unambiguous. -/
theorem Command.Derives.unique {d : Command} (first : Derives t c) (second : Derives t d) :
    c = d :=
  Except.ok.inj ((read_of_derives first).symm.trans (read_of_derives second))

/-- A text is read as a command if and only if the grammar derives the command from it. -/
theorem Command.read_eq_ok_iff (t : Text) (c : Command) : read t = .ok c ↔ Derives t c :=
  ⟨derives_of_read, read_of_derives⟩

end StructuralEdit
