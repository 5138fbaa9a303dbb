import StructuralEdit.Proofs.Command.RoundTrip
import StructuralEdit.Proofs.Grammar.Soundness
/-!
What reading can give. Every command that is read is well formed and its addresses are short, but
it may be one level deeper than can be read back: a `p` left out at the last level is written out.
-/
namespace StructuralEdit

namespace Address

variable {a : Address} {n : Nat} {u : Text}

theorem Simple.wellFormed (h : Simple u a) : a.WellFormed ∧ a.isRange = false := by
  cases h with
  | dot => exact ⟨.dot, rfl⟩
  | finish => exact ⟨.finish, rfl⟩
  | char digits => exact ⟨.char digits.small, rfl⟩
  | line digits => exact ⟨.line digits.small, rfl⟩
  | search d => exact ⟨.search d _, rfl⟩

theorem Spelled.wellFormed (h : Spelled u a n) : a.WellFormed ∧ a.links ≤ n := by
  -- A chain may be spelled with more links than it is written out with.
  have zero : WellFormed (.line 0) := .line (by decide)
  induction h with
  | simple simple =>
    obtain ⟨wellFormed, single⟩ := simple.wellFormed
    exact ⟨wellFormed, Nat.le_of_eq (links_simple single)⟩
  | whole => exact ⟨.range rfl zero .finish, Nat.zero_le _⟩
  | @upTo b v e n _ _ ih =>
    have step := links_range_le (.line 0) e
    exact ⟨.range rfl zero ih.1, Nat.le_trans step (Nat.succ_le_succ ih.2)⟩
  | @link u a b b' v e n simple _ _ _ ih =>
    obtain ⟨wellFormed, single⟩ := simple.wellFormed
    have step := links_range_le a e
    exact ⟨.range single wellFormed ih.1, Nat.le_trans step (Nat.succ_le_succ ih.2)⟩

end Address

namespace Command

variable {c : Command} {levels : Nat}

/-- What a reader of the given levels can give. Below the last level only a `p` can be, one that
was left out. -/
inductive Accepted : Nat → Command → Prop
  | print (levels : Nat) : Accepted levels .print
  | delete {levels : Nat} : Accepted (levels + 1) .delete
  | change {levels : Nat} (u : Text) : Accepted (levels + 1) (.change u)
  | append {levels : Nat} (u : Text) : Accepted (levels + 1) (.append u)
  | insert {levels : Nat} (u : Text) : Accepted (levels + 1) (.insert u)
  | filter {levels : Nat} {u : Text} : FilterText u → Accepted (levels + 1) (.filter u)
  | extract {levels : Nat} (inverse : Bool) (p : Pattern) {sub : Command} :
      Accepted levels sub → Accepted (levels + 1) (.extract inverse p sub)
  | guard {levels : Nat} (inverse : Bool) (p : Pattern) {sub : Command} :
      Accepted levels sub → Accepted (levels + 1) (.guard inverse p sub)
  | group {levels : Nat} {members : List Command} : (∀ c ∈ members, Accepted levels c) →
      Accepted (levels + 1) (.group members)
  | addressed {levels : Nat} {a : Address} {sub : Command} : a.WellFormed →
      a.links < nestingLimit → sub.isAddressed = false → Accepted (levels + 1) sub →
      Accepted (levels + 1) (.addressed a sub)

theorem Accepted.wellFormed (h : Accepted levels c) : c.WellFormed := by
  induction h with
  | print => exact .print
  | delete => exact .delete
  | change u => exact .change u
  | append u => exact .append u
  | insert u => exact .insert u
  | filter hu => exact .filter hu
  | extract inverse p _ ih => exact .extract inverse p ih
  | guard inverse p _ ih => exact .guard inverse p ih
  | group _ ih => exact .group ih
  | addressed ha _ simple _ ih => exact .addressed ha simple ih

theorem Accepted.height_le (h : Accepted levels c) : c.height ≤ levels := by
  induction h with
  | extract inverse p _ ih => exact Nat.succ_le_succ ih
  | guard inverse p _ ih => exact Nat.succ_le_succ ih
  | @group levels members _ ih =>
    refine Nat.le_of_not_lt fun deep => ?_
    obtain ⟨c, hc, above⟩ := lt_heightMembers.mp deep
    exact absurd (ih c hc) (Nat.not_le_of_lt above)
  | addressed _ _ _ _ ih => exact ih
  | _ => exact Nat.zero_le _

theorem Accepted.chain_lt (h : Accepted levels c) : c.chain < nestingLimit := by
  induction h with
  | extract inverse p _ ih => exact ih
  | guard inverse p _ ih => exact ih
  | @group levels members _ ih =>
    refine Nat.lt_of_not_le fun long => ?_
    obtain ⟨c, hc, above⟩ := lt_chainMembers.mp long
    exact absurd (ih c hc) (Nat.not_lt_of_le above)
  | addressed _ few _ _ ih => exact Nat.max_lt.mpr ⟨few, ih⟩
  | _ => exact Nat.zero_lt_succ _

theorem TextLetter.accepted {l : Char} {put : Text → Command} (h : TextLetter l put) (u : Text) :
    Accepted (levels + 1) (put u) ∧ (put u).isAddressed = false := by
  cases h with
  | change => exact ⟨.change u, rfl⟩
  | append => exact ⟨.append u, rfl⟩
  | insert => exact ⟨.insert u, rfl⟩

theorem PatternLetter.accepted {l : Char} {wrap : Pattern → Command → Command}
    (h : PatternLetter l wrap) (p : Pattern) (inner : Accepted levels c) :
    Accepted (levels + 1) (wrap p c) ∧ (wrap p c).isAddressed = false := by
  cases h with
  | matching => exact ⟨.extract false p inner, rfl⟩
  | between => exact ⟨.extract true p inner, rfl⟩
  | present => exact ⟨.guard false p inner, rfl⟩
  | absent => exact ⟨.guard true p inner, rfl⟩

end Command

open Command (Accepted)

def Phrase.IsAccepted : Phrase → Prop
  | .command depth c => ∀ levels, depth + levels = nestingLimit → Accepted levels c
  | .simple depth c => ∀ levels, depth + 1 + levels = nestingLimit →
      Accepted (levels + 1) c ∧ c.isAddressed = false
  | .optional depth c => ∀ levels, depth + levels = nestingLimit → Accepted levels c
  | .members depth cs => ∀ levels, depth + levels = nestingLimit → ∀ c ∈ cs, Accepted levels c

theorem Spelled.isAccepted {φ : Phrase} {u rest : Text} (h : Spelled φ u rest) : φ.IsAccepted := by
  induction h with
  | simple flat _ ih =>
    intro levels level
    obtain ⟨more, rfl, deeper⟩ := exists_level level flat
    exact (ih more deeper).1
  | addressed flat address few _ _ ih =>
    intro levels level
    obtain ⟨more, rfl, deeper⟩ := exists_level level flat
    obtain ⟨accepted, simple⟩ := ih more deeper
    obtain ⟨wellFormed, links⟩ := address.wellFormed
    exact .addressed wellFormed (Nat.lt_succ_of_le (Nat.le_trans links few)) simple accepted
  | located flat address few _ =>
    intro levels level
    obtain ⟨more, rfl, -⟩ := exists_level level flat
    obtain ⟨wellFormed, links⟩ := address.wellFormed
    exact .addressed wellFormed (Nat.lt_succ_of_le (Nat.le_trans links few)) rfl (.print _)
  | letter found =>
    intro levels _
    cases found with
    | print => exact ⟨.print _, rfl⟩
    | delete => exact ⟨.delete, rfl⟩
  | text found =>
    intro levels _
    exact found.accepted _
  | pattern found _ _ _ ih =>
    intro levels level
    exact found.accepted _ (ih levels level)
  | filter inLine some =>
    intro levels _
    have line := fun feed => inLine (Text.mem_of_mem_trim feed)
    exact ⟨.filter ⟨Text.trimmed_trim _, some, line⟩, rfl⟩
  | group _ ih =>
    intro levels level
    exact ⟨.group (ih levels level), rfl⟩
  -- The command that is left out is the only one that takes no level.
  | omitted =>
    intro levels _
    exact .print levels
  | given _ _ ih => exact ih
  | close =>
    intro levels _ c hc
    cases hc
  | member _ _ _ first later =>
    intro levels level
    exact List.forall_mem_cons.mpr ⟨first levels level, later levels level⟩

namespace Command

variable {c : Command}

theorem read_eq_ok {t : Text} (h : read t = .ok c) : Accepted nestingLimit c := by
  obtain ⟨b, u, rest, _, _, _, spelled⟩ := derives_of_read h
  exact spelled.isAccepted nestingLimit (Nat.zero_add _)

/-- A command that was read is read back from its written form if and only if no command in it
stands below more than 100 others. Otherwise its written form is refused. -/
theorem read_render_of_read {t : Text} (h : read t = .ok c) :
    (read c.render = .ok c ↔ c.height ≤ 100) ∧
      (c.height ≤ 100 ∨ c.height = 101 ∧ ∃ e, read c.render = .error e ∧
        e.why.message = "commands nested too deeply") := by
  have accepted := read_eq_ok h
  have deepest : c.height ≤ 101 := accepted.height_le
  rcases read_render_cases accepted.wellFormed with ⟨none, done⟩ | ⟨e, failed, excess⟩
  · have flat : ¬100 < c.height := fun deep => none .commandsTooDeep (Or.inl ⟨rfl, deep⟩)
    exact ⟨⟨fun _ => by omega, fun _ => done⟩, Or.inl (by omega)⟩
  · rcases excess with ⟨why, deep⟩ | ⟨_, long⟩
    · have deep : 100 < c.height := deep
      refine ⟨⟨fun done => ?_, fun flat => by omega⟩, Or.inr ⟨by omega, e, failed, ?_⟩⟩
      · cases failed.symm.trans done
      · exact congrArg Malformed.message why
    · -- No chain that was read is too long to be read again.
      exact absurd accepted.chain_lt (Nat.not_lt_of_le long)

def emptyPattern : Pattern := ⟨[], ⟨#[.accept], 0⟩, rfl⟩

def bare : Nat → Text
  | 0 => []
  | n + 1 => 'x' :: '/' :: '/' :: bare n

def stack : Nat → Command
  | 0 => .print
  | n + 1 => .extract false emptyPattern (stack n)

set_option maxRecDepth 2000 in
theorem read_render_stack :
    (read (bare 100) = .ok (stack 100) ∧ read (stack 100).render = .ok (stack 100)) ∧
      read (bare 101) = .ok (stack 101) ∧ ∃ e, read (stack 101).render = .error e ∧
        e.why.message = "commands nested too deeply" := by
  have last : read (bare 100) = .ok (stack 100) := rfl
  have next : read (bare 101) = .ok (stack 101) := rfl
  refine ⟨⟨last, (read_render_of_read last).1.mpr (by decide)⟩, next, ?_⟩
  exact ((read_render_of_read next).2.resolve_left (by decide)).2

set_option maxRecDepth 2000 in
/-- One extraction more than can be written out: not all that is read can be read back. -/
theorem exists_not_read_render : ¬∀ t c, read t = .ok c → read c.render = .ok c := by
  intro all
  have refused : (read (stack 101).render).isOk = false := by decide +kernel
  rw [all (bare 101) (stack 101) rfl] at refused
  cases refused

end Command

end StructuralEdit
