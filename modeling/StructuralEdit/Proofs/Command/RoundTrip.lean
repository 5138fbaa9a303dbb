import StructuralEdit.Proofs.Command.Letters
/-!
Reading undoes writing. No separators stand between the parts of a written command, so each
reader has to find the end of its part by what can follow there: behind an address comes the
letter of a command, and no such letter can belong to an address. A command nested too deeply is
refused, and nothing else is.
-/
namespace StructuralEdit

namespace Command

open Address (EndsAddress)

variable {c sub : Command} {cs : List Command} {i : Input} {rest : Text} {levels : Nat}
  {excess : Malformed → Prop} {member : Reader Command}

theorem render_letter (h : c.isAddressed = false) :
    ∃ l u, c.render = l :: u ∧ l ∈ letters := by
  cases c with
  | extract inverse p sub => cases inverse <;> exact ⟨_, _, rfl, by decide⟩
  | guard inverse p sub => cases inverse <;> exact ⟨_, _, rfl, by decide⟩
  | addressed a sub => cases h
  | _ => exact ⟨_, _, rfl, by decide⟩

theorem render_start (c : Command) :
    ∃ l u, c.render = l :: u ∧ l.isBlank = false ∧ l ≠ '}' := by
  cases h : c.isAddressed with
  | false =>
    obtain ⟨l, u, render, letter⟩ := render_letter h
    exact ⟨l, u, render, (endsAddress_of_letter letter).solid, ne_close_of_letter letter⟩
  | true =>
    cases c with
    | addressed a sub =>
      obtain ⟨l, u, render, start⟩ := a.render_start
      refine ⟨l, u ++ sub.render, by rw [Command.render, render]; rfl,
        isBlank_of_startsAddress start, ?_⟩
      rintro rfl
      exact absurd start (by decide)
    | _ => cases h

theorem trimStart_render (c : Command) (t : Text) : (c.render ++ t).trimStart = c.render ++ t := by
  obtain ⟨l, u, render, solid, -⟩ := c.render_start
  rw [render]
  exact Text.trimStart_solid solid _

/-- Why a command is too much for a reader of the given levels. -/
def Exceeds (levels : Nat) (c : Command) (why : Malformed) : Prop :=
  why = .commandsTooDeep ∧ levels ≤ c.height ∨ why = .addressTooDeep ∧ nestingLimit ≤ c.chain

theorem reading_of_reads {r : Except ParseError (Command × Input)} (h : Reads c rest r)
    (flat : c.height = 0) (free : c.chain = 0) : Reading c rest (c.Exceeds (levels + 1)) r :=
  h.congr fun why => by simp [Exceeds, flat, free, nestingLimit]

theorem readSub_render (hi : i.rest.trimStart = (c.render ++ rest).trimStart)
    (inner : ∀ j, j.rest.trimStart = (c.render ++ rest).trimStart →
      Reading c rest excess (member j)) :
    Reading c rest excess (readSub member i) := by
  obtain ⟨l, u, render, -, other⟩ := c.render_start
  have next : i.skipBlanks.rest = l :: (u ++ rest) := by
    refine hi.trans ?_
    rw [trimStart_render, render, List.cons_append]
  have more : i.skipBlanks.atClose = false := by
    simp [Input.atClose, next, other]
  simp only [readSub, more]
  exact inner _ ((Text.trimStart_trimStart _).trans hi)

theorem renderMembers_cons (c : Command) (cs : List Command) :
    ∃ gap : Text, renderMembers (c :: cs) = c.render ++ (gap ++ renderMembers cs) ∧
      ∀ b ∈ gap, b.isBlank = true := by
  cases cs with
  | nil => exact ⟨[], by simp [renderMembers], by simp⟩
  | cons d cs => exact ⟨[' '], rfl, List.forall_mem_singleton.mpr (by decide)⟩

theorem length_le_renderMembers (cs : List Command) : cs.length ≤ (renderMembers cs).length := by
  induction cs with
  | nil => exact Nat.zero_le _
  | cons c cs ih =>
    obtain ⟨gap, members, -⟩ := renderMembers_cons c cs
    obtain ⟨l, u, render, -⟩ := c.render_start
    simp only [members, render, List.length_append, List.length_cons]
    omega

theorem readMembers_render (opening : Input) {bound : Nat} {excess : Command → Malformed → Prop}
    (inner : ∀ c ∈ cs, ∀ (j : Input) (rest : Text),
      j.rest.trimStart = (c.render ++ rest).trimStart → Reading c rest (excess c) (member j))
    (hb : cs.length < bound)
    (hi : i.rest.trimStart = (renderMembers cs ++ '}' :: rest).trimStart) :
    Reading cs rest (fun why => ∃ c ∈ cs, excess c why) (readMembers member opening bound i) := by
  -- The induction is on the members still to come, whose number the bound exceeds.
  induction cs generalizing bound i with
  | nil =>
    obtain ⟨bound, rfl⟩ := Nat.exists_eq_add_one_of_ne_zero (Nat.ne_of_gt hb)
    have next : i.skipBlanks.rest = '}' :: rest := hi.trans (Text.trimStart_solid (by decide) _)
    suffices done : Reads [] rest (readMembers member opening (bound + 1) i) from
      done.congr fun why => by simp
    simp only [readMembers, next]
    exact .ok rfl
  | cons c cs ih =>
    obtain ⟨bound, rfl⟩ := Nat.exists_eq_add_one_of_ne_zero (Nat.ne_of_gt (Nat.zero_lt_of_lt hb))
    obtain ⟨gap, members, blank⟩ := renderMembers_cons c cs
    obtain ⟨l, u, render, solid, other⟩ := c.render_start
    rw [members, List.append_assoc, List.append_assoc] at hi
    have next : i.skipBlanks.rest = l :: (u ++ (gap ++ (renderMembers cs ++ '}' :: rest))) := by
      refine hi.trans ?_
      rw [trimStart_render, render, List.cons_append]
    have first := inner c (by simp) i.skipBlanks _ ((Text.trimStart_trimStart _).trans hi)
    rw [readMembers]
    simp only [next]
    split
    · next none => cases none
    · next close => exact absurd (List.cons.inj close).1 other
    · refine first.bind (fun j left => (ih (fun c hc => inner c (by simp [hc])) ?_ ?_).map
        fun _ => rfl) fun why => by simp
      · exact Nat.lt_of_succ_lt_succ hb
      · -- What stands between two members is blank, and a reader skips it.
        rw [left, Text.trimStart, List.dropWhile_append_of_pos blank, ← Text.trimStart]

theorem readNested_letter {l : Char} {u : Text} (hl : l ∈ letters) (hi : i.rest = l :: u) :
    readNested (levels + 1) i = readSimple (readNested levels) i := by
  obtain ⟨other, solid⟩ := endsAddress_of_letter hl
  have first : i.atAddress = false := (Input.atAddress_eq hi).trans other
  rw [readNested, Input.skipBlanks_eq_self hi solid]
  simp only [first, Bool.false_eq_true, if_false]

theorem readNested_of_readSimple (simple : c.isAddressed = false)
    (hi : i.rest.trimStart = (c.render ++ rest).trimStart)
    (inner : ∀ levels j, j.rest = c.render ++ rest →
      Reading c rest (c.Exceeds (levels + 1)) (readSimple (readNested levels) j)) :
    Reading c rest (c.Exceeds levels) (readNested levels i) := by
  cases levels with
  | zero => exact .refuses (Or.inl ⟨rfl, Nat.zero_le _⟩)
  | succ levels =>
    obtain ⟨l, u, render, letter⟩ := render_letter simple
    have next : i.skipBlanks.rest = c.render ++ rest := hi.trans (trimStart_render c rest)
    have first : i.skipBlanks.atAddress = false := by
      refine (Input.atAddress_eq (u := u ++ rest) ?_).trans (endsAddress_of_letter letter).other
      rw [next, render, List.cons_append]
    simp only [readNested, first]
    exact inner levels _ next

theorem exceeds_addressed (a : Address) (sub : Command) (why : Malformed) :
    why = .addressTooDeep ∧ nestingLimit ≤ a.links ∨ sub.Exceeds levels why ↔
      (addressed a sub).Exceeds levels why := by
  have split : nestingLimit ≤ max a.links sub.chain ↔
      nestingLimit ≤ a.links ∨ nestingLimit ≤ sub.chain := by omega
  simp only [Exceeds, height, chain, split, and_or_left]
  exact or_left_comm

theorem readNested_addressed {a : Address} (ha : a.WellFormed) (simple : sub.isAddressed = false)
    (hi : i.rest.trimStart = (a.render ++ sub.render ++ rest).trimStart)
    (inner : ∀ levels j, j.rest = sub.render ++ rest →
      Reading sub rest (sub.Exceeds levels) (readNested levels j)) :
    Reading (.addressed a sub) rest ((addressed a sub).Exceeds levels) (readNested levels i) := by
  cases levels with
  | zero => exact .refuses (Or.inl ⟨rfl, Nat.zero_le _⟩)
  | succ levels =>
    obtain ⟨l, u, render, letter⟩ := render_letter simple
    obtain ⟨d, v, address, start⟩ := a.render_start
    have next : i.skipBlanks.rest = a.render ++ l :: (u ++ rest) := by
      refine (hi.trans (trimStart_render (.addressed a sub) rest)).trans ?_
      simp [Command.render, render]
    have first : i.skipBlanks.atAddress = true := by
      refine (Input.atAddress_eq (u := v ++ l :: (u ++ rest)) ?_).trans start
      rw [next, address, List.cons_append]
    simp only [readNested, first, if_true]
    refine (Address.read_render ha (endsAddress_of_letter letter) next).bind (fun j left => ?_)
      (exceeds_addressed a sub)
    have behind : j.skipBlanks.rest = l :: (u ++ rest) :=
      left.trans (Text.trimStart_solid (endsAddress_of_letter letter).solid _)
    have more : j.skipBlanks.atClose = false := by
      simp [Input.atClose, behind, ne_close_of_letter letter]
    have step := inner (levels + 1) j.skipBlanks (by rw [behind, render, List.cons_append])
    rw [readNested_letter letter behind] at step
    simp only [more]
    exact step.map fun _ => rfl

theorem exceeds_group (cs : List Command) (why : Malformed) :
    (∃ c ∈ cs, c.Exceeds levels why) ↔ (group cs).Exceeds (levels + 1) why := by
  have deep : levels + 1 ≤ heightMembers cs ↔ ∃ c ∈ cs, levels ≤ c.height := lt_heightMembers
  have long : nestingLimit ≤ chainMembers cs ↔ ∃ c ∈ cs, nestingLimit ≤ c.chain :=
    lt_chainMembers
  simp only [Exceeds, height, chain, deep, long]
  constructor
  · rintro ⟨c, hc, ⟨said, h⟩ | ⟨said, h⟩⟩
    · exact Or.inl ⟨said, c, hc, h⟩
    · exact Or.inr ⟨said, c, hc, h⟩
  · rintro (⟨said, c, hc, h⟩ | ⟨said, c, hc, h⟩)
    · exact ⟨c, hc, Or.inl ⟨said, h⟩⟩
    · exact ⟨c, hc, Or.inr ⟨said, h⟩⟩

theorem readNested_wrap {letter : Char} {wrap : Pattern → Command → Command} {p : Pattern}
    (found : PatternLetter letter wrap) (simple : (wrap p sub).isAddressed = false)
    (written : (wrap p sub).render = letter :: slashed p.source ++ sub.render)
    (exceeds : ∀ levels why, sub.Exceeds levels why ↔ (wrap p sub).Exceeds (levels + 1) why)
    (inner : ∀ {i : Input} {rest : Text} {levels : Nat},
      i.rest.trimStart = (sub.render ++ rest).trimStart →
        Reading sub rest (sub.Exceeds levels) (readNested levels i))
    (hi : i.rest.trimStart = ((wrap p sub).render ++ rest).trimStart) :
    Reading (wrap p sub) rest ((wrap p sub).Exceeds levels) (readNested levels i) := by
  refine readNested_of_readSimple simple hi fun levels j hj => ?_
  rw [written, List.cons_append, List.cons_append, List.append_assoc] at hj
  refine (found.reading (argument_slashed _) p.ofSource_source (fun k hk => ?_) hj).congr
    (exceeds levels)
  exact readSub_render hk fun j hj => inner hj

/-- A command is read back, or refused because it nests too deeply for the given levels or one of
its addresses has too many links. -/
theorem readNested_render (h : c.WellFormed)
    (hi : i.rest.trimStart = (c.render ++ rest).trimStart) :
    Reading c rest (c.Exceeds levels) (readNested levels i) := by
  induction h generalizing levels i rest with
  | print =>
    refine readNested_of_readSimple rfl hi fun levels j hj => ?_
    exact reading_of_reads (Letter.print.reads hj) rfl rfl
  | delete =>
    refine readNested_of_readSimple rfl hi fun levels j hj => ?_
    exact reading_of_reads (Letter.delete.reads hj) rfl rfl
  | change u =>
    refine readNested_of_readSimple rfl hi fun levels j hj => ?_
    exact reading_of_reads (TextLetter.change.reads (argument_slashed u) hj) rfl rfl
  | append u =>
    refine readNested_of_readSimple rfl hi fun levels j hj => ?_
    exact reading_of_reads (TextLetter.append.reads (argument_slashed u) hj) rfl rfl
  | insert u =>
    refine readNested_of_readSimple rfl hi fun levels j hj => ?_
    exact reading_of_reads (TextLetter.insert.reads (argument_slashed u) hj) rfl rfl
  | filter hu =>
    refine readNested_of_readSimple rfl hi fun levels j hj => ?_
    simp only [readSimple, hj, render]
    exact reading_of_reads (readFilter_line j hu (by simp [Input.after])) rfl rfl
  | extract inverse p _ ih =>
    refine readNested_wrap (patternLetter_extract inverse) rfl rfl ?_ ih hi
    simp [Exceeds, height, chain]
  | guard inverse p _ ih =>
    refine readNested_wrap (patternLetter_guard inverse) rfl rfl ?_ ih hi
    simp [Exceeds, height, chain]
  | @group members _ ih =>
    refine readNested_of_readSimple rfl hi fun levels j hj => ?_
    have split : j.rest = '{' :: (renderMembers members ++ '}' :: rest) := by
      simp [hj, render]
    -- Every member takes at least one character, so there are fewer than what is left to read.
    have inner : ∀ k, k.rest = renderMembers members ++ '}' :: rest →
        Reading members rest (fun why => ∃ c ∈ members, c.Exceeds levels why)
          (readMembers (readNested levels) j (k.rest.length + 1) k) := by
      intro k hk
      refine readMembers_render j (fun c hc k rest hk => ih c hc hk) ?_ (congrArg _ hk)
      have number := length_le_renderMembers members
      simp only [hk, List.length_append]
      omega
    simp only [readSimple, split]
    refine Reading.congr ?_ (exceeds_group members)
    exact (inner (j.after _ _) rfl).map fun _ => rfl
  | addressed ha simple _ ih =>
    exact readNested_addressed ha simple hi fun levels j hj => ih (congrArg _ hj)

theorem read_render_cases (h : c.WellFormed) :
    ((∀ why, ¬c.Exceeds nestingLimit why) ∧ read c.render = .ok c) ∨
      ∃ e, read c.render = .error e ∧ c.Exceeds nestingLimit e.why := by
  have reading : Reading c [] (c.Exceeds nestingLimit) (readNested nestingLimit ⟨0, c.render⟩) :=
    readNested_render h (by simp)
  rw [read]
  generalize readNested nestingLimit ⟨0, c.render⟩ = r at reading
  cases reading with
  | @reads j none left =>
    have nothing : j.skipBlanks.rest = [] := left
    refine Or.inl ⟨none, ?_⟩
    simp only [bind, Except.bind, nothing]
    rfl
  | @refuses e excess => exact Or.inr ⟨e, rfl, excess⟩

/-- What is written out is read back as it was, unless a command in it stands below more than 100
others or an address in it has more than 100 links. Then it is refused. -/
theorem read_undoes_render (h : c.WellFormed) :
    (c.height ≤ 100 ∧ c.chain ≤ 100 → read c.render = .ok c) ∧
      (¬(c.height ≤ 100 ∧ c.chain ≤ 100) → ∃ e, read c.render = .error e ∧
        (e.why.message = "commands nested too deeply" ∧ 100 < c.height ∨
          e.why.message = "address nested too deeply" ∧ 100 < c.chain)) := by
  rcases read_render_cases h with ⟨none, done⟩ | ⟨e, failed, excess⟩
  · have flat : ¬100 < c.height := fun deep => none .commandsTooDeep (Or.inl ⟨rfl, deep⟩)
    have short : ¬100 < c.chain := fun long => none .addressTooDeep (Or.inr ⟨rfl, long⟩)
    exact ⟨fun _ => done, fun h => by omega⟩
  · have said : e.why.message = "commands nested too deeply" ∧ 100 < c.height ∨
        e.why.message = "address nested too deeply" ∧ 100 < c.chain :=
      excess.imp (fun ⟨why, deep⟩ => ⟨congrArg Malformed.message why, deep⟩)
        fun ⟨why, long⟩ => ⟨congrArg Malformed.message why, long⟩
    exact ⟨fun h => by omega, fun _ => ⟨e, failed, said⟩⟩

def slash : Pattern := ⟨"/".toList, ⟨#[.accept, .read ⟨[(47, 47)]⟩ 0], 1⟩, rfl⟩

/-- A comma for the whole text at the end of a chain, delimiters inside patterns and texts, an
address right behind a pattern, and a filter that another command follows. -/
def slashes : Command :=
  .addressed (.range (.line 2) .wholeText) (.extract false slash
    (.addressed (.search .backward slash)
      (.group [.filter "sort -u".toList, .change "a/\n".toList])))

theorem slashes_wellFormed : slashes.WellFormed := by
  have members : WellFormed (.group [.filter "sort -u".toList, .change "a/\n".toList]) := by
    refine .group fun c hc => ?_
    rcases List.mem_cons.mp hc with rfl | hc
    · exact .filter ⟨⟨by rintro _ ⟨⟩; decide, by rintro _ ⟨⟩; decide⟩, by decide, by decide⟩
    · cases List.mem_singleton.mp hc
      exact .change _
  refine .addressed ?_ rfl (.extract false slash (.addressed (.search .backward slash) rfl members))
  exact .range rfl (.line (by decide)) (.range rfl (.line (by decide)) .finish)

theorem read_slashes :
    read "2,,x/\\//?/?\x7b|sort -u\n c/a\\/\\n/\x7d".toList = .ok slashes := by
  have text : slashes.render = "2,,x/\\//?/?\x7b|sort -u\n c/a\\/\\n/\x7d".toList := by
    decide +kernel
  exact text ▸ (read_undoes_render slashes_wellFormed).1 ⟨by decide, by decide⟩

end Command

end StructuralEdit
