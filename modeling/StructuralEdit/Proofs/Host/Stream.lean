import StructuralEdit.Proofs.Host.Lines
import StructuralEdit.Proofs.Text.Decoding
/-!
The input of a terminal as a sequence of lines. Each call that reads deals with one line, also if
this is no text, whatever else is asked of the terminal between the calls: so the lines are read in
turn, none of them twice and none in part. To read keeps the buffer as it is.
-/
namespace StructuralEdit.Terminal

def consFirst (b : UInt8) : List (List UInt8) → List (List UInt8)
  | [] => [[b]]
  | s :: ss => (b :: s) :: ss

/-- The lines of an input with their ends. What follows the last line feed is one more line if there
is something. -/
def segments : List UInt8 → List (List UInt8)
  | [] => []
  | b :: bs => if b = newline then [b] :: segments bs else consFirst b (segments bs)

/-- An input and the lines that it is made of: each ends with its only line feed, but for a last one
that has none and is not empty. -/
inductive Segmented : List UInt8 → List (List UInt8) → Prop
  | nothing : Segmented [] []
  | unended {s : List UInt8} : s ≠ [] → newline ∉ s → Segmented s [s]
  | ended {s bs : List UInt8} {ss : List (List UInt8)} : newline ∉ s → Segmented bs ss →
      Segmented (s ++ newline :: bs) ((s ++ [newline]) :: ss)

theorem Segmented.cons {b : UInt8} {bs : List UInt8} (other : b ≠ newline) {ss : List (List UInt8)}
    (h : Segmented bs ss) :
    Segmented (b :: bs) (consFirst b ss) := by
  have free {s : List UInt8} (h : newline ∉ s) : newline ∉ b :: s :=
    fun found => (List.mem_cons.1 found).elim (fun same => other same.symm) h
  cases h with
  | nothing => exact .unended (List.cons_ne_nil b []) (free List.not_mem_nil)
  | unended _ single => exact .unended (List.cons_ne_nil b bs) (free single)
  | ended line later => exact .ended (free line) later

theorem segmented_segments (bs : List UInt8) : Segmented bs (segments bs) := by
  induction bs with
  | nil => exact .nothing
  | cons b bs ih =>
    rw [segments]
    by_cases feed : b = newline
    · rw [if_pos feed, feed]
      exact .ended List.not_mem_nil ih
    · rw [if_neg feed]
      exact ih.cons feed

theorem Segmented.flatten_eq {bs : List UInt8} {ss : List (List UInt8)} (h : Segmented bs ss) :
    ss.flatten = bs := by
  induction h with
  | nothing => rfl
  | unended _ _ => exact List.flatten_singleton
  | ended _ _ ih => rw [List.flatten_cons, ih, List.append_assoc, List.singleton_append]

theorem splitLine_ne_nil {bs : List UInt8} (some : bs ≠ []) : (splitLine bs).1 ≠ [] := by
  cases bs with
  | nil => exact absurd rfl some
  | cons b bs =>
    rw [splitLine]
    split
    · exact List.cons_ne_nil b []
    · exact List.cons_ne_nil b _

theorem segments_eq_cons {bs : List UInt8} (some : bs ≠ []) :
    segments bs = (splitLine bs).1 :: segments (splitLine bs).2 := by
  induction bs with
  | nil => exact absurd rfl some
  | cons b bs ih =>
    rw [segments, splitLine]
    split
    · rfl
    · cases bs with
      | nil => rfl
      | cons c bs =>
        rw [ih (List.cons_ne_nil c bs)]
        rfl

def IsLine (s : List UInt8) (line : Text) : Prop :=
  ∃ ending, s = Text.toBytes (line ++ ending) ∧ (∀ c ∈ ending, c = '\n' ∨ c = '\r') ∧
    ∀ c ∈ line.getLast?, c ≠ '\n' ∧ c ≠ '\r'

theorem isLine_dropLineEnd (t : Text) : IsLine (Text.toBytes t) (dropLineEnd t) := by
  let ends (c : Char) : Bool := c = '\n' || c = '\r'
  have split : t = dropLineEnd t ++ (t.reverse.takeWhile ends).reverse := by
    rw [dropLineEnd, ← List.reverse_append, List.takeWhile_append_dropWhile, List.reverse_reverse]
  refine ⟨(t.reverse.takeWhile ends).reverse, congrArg Text.toBytes split, ?_, ?_⟩
  · intro c hc
    have ending := List.all_eq_true.1 List.all_takeWhile c (List.mem_reverse.1 hc)
    simpa [ends] using ending
  · intro c hc
    rw [dropLineEnd, List.getLast?_reverse] at hc
    have last := List.head?_dropWhile_not ends t.reverse
    rw [Option.mem_def.1 hc] at last
    simpa [ends] using last

inductive Operation where
  | readLine (label : String)
  | prompt (label : String)
  | say (message : String)
  | present (name : String) (t : Text)
  | replace (t : Text)

def Operation.reads : Operation → Bool
  | .readLine _ | .prompt _ => true
  | _ => false

inductive Answer where
  | line (r : Except Failure (Option Text))
  | reply (r : Option Text)

def perform : Operation → Terminal → Option Answer × Terminal
  | .readLine label, h =>
    let (r, h) := h.readLine label
    (some (.line r), h)
  | .prompt label, h =>
    let (r, h) := Host.prompt label h
    (some (.reply r), h)
  | .say m, h => (none, Host.say m h)
  | .present name t, h => (none, Host.present name t h)
  | .replace t, h => (none, (Host.replace t h).2)

def performAll : List Operation → Terminal → List Answer × Terminal
  | [], h => ([], h)
  | op :: ops, h =>
    let (answer, h) := perform op h
    let (answers, h) := performAll ops h
    (answer.toList ++ answers, h)

theorem performAll_cons_fst (op : Operation) (ops : List Operation) (h : Terminal) :
    (performAll (op :: ops) h).1 =
      (perform op h).1.toList ++ (performAll ops (perform op h).2).1 := rfl

/-- How a call deals with a line of the input, or with its end. A line that is no text is a failure
or no reply. -/
inductive Deals : Operation → Option (List UInt8) → Answer → Prop
  | line {label : String} {s : List UInt8} {t : Text} : IsLine s t →
      Deals (.readLine label) (some s) (.line (.ok (some t)))
  | reply {label : String} {s : List UInt8} {t : Text} : IsLine s t →
      Deals (.prompt label) (some s) (.reply (some t))
  | failure {label : String} {s : List UInt8} : (∀ t, s ≠ Text.toBytes t) →
      Deals (.readLine label) (some s) (.line (.error (.io Text.notUtf8.toList)))
  | noReply {label : String} {s : List UInt8} : (∀ t, s ≠ Text.toBytes t) →
      Deals (.prompt label) (some s) (.reply none)
  | noLine {label : String} : Deals (.readLine label) none (.line (.ok none))
  | noMore {label : String} : Deals (.prompt label) none (.reply none)

variable {h : Terminal} {op : Operation}

theorem readLine_cases (label : String) (h : Terminal) :
    (segments h.input = [] ∧ (h.readLine label).1 = .ok none) ∨
    ∃ s ss, segments h.input = s :: ss ∧
      ((∃ t, IsLine s t ∧ (h.readLine label).1 = .ok (some t)) ∨
        (∀ t, s ≠ Text.toBytes t) ∧
          (h.readLine label).1 = .error (.io Text.notUtf8.toList)) := by
  by_cases ended : h.input = []
  · exact Or.inl ⟨by rw [ended, segments], by rw [readLine_end ended]⟩
  · refine Or.inr ⟨_, _, segments_eq_cons ended, ?_⟩
    have some : ¬(splitLine h.input).1.isEmpty = true :=
      fun empty => splitLine_ne_nil ended (List.isEmpty_iff.1 empty)
    unfold readLine
    dsimp only
    rw [if_neg some]
    cases decoded : Text.ofBytes? (splitLine h.input).1 with
    | some t =>
      rw [Text.ofBytes?_eq_some_iff.1 decoded]
      exact Or.inl ⟨_, isLine_dropLineEnd t, rfl⟩
    | none =>
      refine Or.inr ⟨fun t form => ?_, rfl⟩
      rw [Text.ofBytes?_eq_some_iff.2 form] at decoded
      cases decoded

theorem segments_readLine (label : String) (h : Terminal) :
    segments (h.readLine label).2.input = (segments h.input).tail := by
  rw [readLine_snd]
  by_cases ended : h.input = []
  · rw [ended]
    rfl
  · rw [segments_eq_cons ended]
    rfl

structure SameBuffer (h k : Terminal) : Prop where
  buffer : h.buffer = k.buffer
  modified : h.modified = k.modified

theorem SameBuffer.symm {k : Terminal} (same : SameBuffer h k) : SameBuffer k h :=
  ⟨same.buffer.symm, same.modified.symm⟩

theorem SameBuffer.trans {k l : Terminal} (first : SameBuffer h k) (later : SameBuffer k l) :
    SameBuffer h l :=
  ⟨first.buffer.trans later.buffer, first.modified.trans later.modified⟩

theorem sameBuffer_readLine (label : String) (h : Terminal) :
    SameBuffer (h.readLine label).2 h := by
  rw [readLine_snd]
  exact ⟨rfl, rfl⟩

theorem perform_reads_snd (reads : op.reads = true) (h : Terminal) :
    ∃ label, (perform op h).2 = (h.readLine label).2 := by
  cases op with
  | readLine label => exact ⟨label, rfl⟩
  | prompt label => exact ⟨label, congrArg Prod.snd (prompt_eq_readLine label h)⟩
  | say m => cases reads
  | present name t => cases reads
  | replace t => cases reads

theorem perform_reads_fst (reads : op.reads = true) (h : Terminal) :
    ∃ a, (perform op h).1 = some a ∧ Deals op (segments h.input).head? a := by
  cases op with
  | readLine label =>
    refine ⟨.line (h.readLine label).1, rfl, ?_⟩
    rcases readLine_cases label h with ⟨none, read⟩ | ⟨s, ss, first, ⟨t, line, read⟩ | ⟨bad, read⟩⟩
    · rw [none, read]
      exact .noLine
    · rw [first, read]
      exact .line line
    · rw [first, read]
      exact .failure bad
  | prompt label =>
    have reply : (perform (.prompt label) h).1 = some (.reply (h.readLine label).1.toOption.join) :=
      congrArg (fun r : Option Text × Terminal => some (Answer.reply r.1))
        (prompt_eq_readLine label h)
    refine ⟨_, reply, ?_⟩
    rcases readLine_cases label h with ⟨none, read⟩ | ⟨s, ss, first, ⟨t, line, read⟩ | ⟨bad, read⟩⟩
    · rw [none, read]
      exact .noMore
    · rw [first, read]
      exact .reply line
    · rw [first, read]
      exact .noReply bad
  | say m => cases reads
  | present name t => cases reads
  | replace t => cases reads

theorem perform_other (other : op.reads = false) (h : Terminal) :
    (perform op h).1 = none ∧ (perform op h).2.input = h.input := by
  cases op with
  | readLine label => cases other
  | prompt label => cases other
  | say m => exact ⟨rfl, rfl⟩
  | present name t => exact ⟨rfl, rfl⟩
  | replace t =>
    refine ⟨rfl, ?_⟩
    simp only [perform, Host.replace]
    split
    · rfl
    · rfl

theorem SameBuffer.perform {k : Terminal} (same : SameBuffer h k) (op : Operation) :
    SameBuffer (perform op h).2 (perform op k).2 := by
  cases reads : op.reads with
  | true =>
    obtain ⟨label, left⟩ := perform_reads_snd reads h
    obtain ⟨label', right⟩ := perform_reads_snd reads k
    rw [left, right]
    exact ((sameBuffer_readLine label h).trans same).trans (sameBuffer_readLine label' k).symm
  | false =>
    cases op with
    | readLine label => cases reads
    | prompt label => cases reads
    | say m => exact ⟨same.buffer, same.modified⟩
    | present name t => exact ⟨same.buffer, same.modified⟩
    | replace t =>
      simp only [Terminal.perform, Host.replace, same.buffer]
      split
      · exact same
      · exact ⟨rfl, rfl⟩

/-- A run of operations on a terminal reads the lines of its input in turn: the call that reads and
has `k` others before it deals with the line that has `k` lines before it, and finds no more lines
after the last. All lines that no call has dealt with are left, and the buffer is what the
operations make of it that read nothing. -/
structure ReadsInTurn (ops : List Operation) (h : Terminal) : Prop where
  segmented : Segmented h.input (segments h.input)
  length_eq : (performAll ops h).1.length = (ops.filter Operation.reads).length
  deals : ∀ (k : Nat) (op : Operation), (ops.filter Operation.reads)[k]? = some op →
    ∃ a, (performAll ops h).1[k]? = some a ∧ Deals op (segments h.input)[k]? a
  input_eq : (performAll ops h).2.input =
    ((segments h.input).drop (ops.filter Operation.reads).length).flatten
  sameBuffer : SameBuffer (performAll ops h).2 (performAll (ops.filter (!·.reads)) h).2

theorem SameBuffer.performAll {h k : Terminal} (same : SameBuffer h k) (ops : List Operation) :
    SameBuffer (performAll ops h).2 (performAll ops k).2 := by
  induction ops generalizing h k with
  | nil => exact same
  | cons op ops ih => exact ih (same.perform op)

theorem readsInTurn (ops : List Operation) (h : Terminal) : ReadsInTurn ops h := by
  -- The run goes on from what its first operation leaves: all lines but the first if this reads.
  induction ops generalizing h with
  | nil =>
    have all := segmented_segments h.input
    exact ⟨all, rfl, nofun, all.flatten_eq.symm, rfl, rfl⟩
  | cons op ops ih =>
    have later := ih (perform op h).2
    cases reads : op.reads with
    | true =>
      obtain ⟨label, after⟩ := perform_reads_snd reads h
      obtain ⟨a, answer, first⟩ := perform_reads_fst reads h
      have lines : segments (perform op h).2.input = (segments h.input).tail := by
        rw [after, segments_readLine]
      have answers : (performAll (op :: ops) h).1 = a :: (performAll ops (perform op h).2).1 := by
        rw [performAll_cons_fst, answer]
        rfl
      have filtered : (op :: ops).filter Operation.reads = op :: ops.filter Operation.reads :=
        List.filter_cons_of_pos reads
      have others : (op :: ops).filter (!·.reads) = ops.filter (!·.reads) :=
        List.filter_cons_of_neg (by simp [reads])
      constructor
      · exact segmented_segments h.input
      · rw [answers, filtered, List.length_cons, List.length_cons, later.length_eq]
      · rw [answers, filtered]
        intro k o ho
        cases k with
        | zero =>
          cases ho
          exact ⟨a, rfl, by rwa [← List.head?_eq_getElem?]⟩
        | succ k =>
          rw [List.getElem?_cons_succ] at ho ⊢
          have deals := later.deals k o ho
          rwa [lines, List.getElem?_tail] at deals
      · rw [filtered, List.length_cons, ← List.drop_tail, ← lines]
        exact later.input_eq
      · rw [others]
        have kept := sameBuffer_readLine label h
        rw [← after] at kept
        exact later.sameBuffer.trans (kept.performAll _)
    | false =>
      obtain ⟨none, input⟩ := perform_other reads h
      have answers : (performAll (op :: ops) h).1 = (performAll ops (perform op h).2).1 := by
        rw [performAll_cons_fst, none]
        rfl
      have filtered : (op :: ops).filter Operation.reads = ops.filter Operation.reads :=
        List.filter_cons_of_neg (by simp [reads])
      have others : (op :: ops).filter (!·.reads) = op :: ops.filter (!·.reads) :=
        List.filter_cons_of_pos (by simp [reads])
      constructor
      · exact segmented_segments h.input
      · rw [answers, filtered, later.length_eq]
      · rw [answers, filtered, ← input]
        exact later.deals
      · rw [filtered, ← input]
        exact later.input_eq
      · rw [others]
        exact later.sameBuffer

/-- A line that is no text is passed over, and a line without characters is no end of the input. -/
example :
    let input : List UInt8 := [0x61, 0x0D, 0x0A, 0xFF, 0x0A, 0x0D]
    (performAll [.readLine "", .prompt "", .replace ['b'], .readLine "", .prompt ""]
      { buffer := [], input }).1 =
        [.line (.ok (some ['a'])), .reply none, .line (.ok (some [])), .reply none] := by
  rfl

end StructuralEdit.Terminal
