import StructuralEdit.Command
import StructuralEdit.Proofs.Text.Blank
import StructuralEdit.Text.Number
/-!
Which trees stand for commands that can be written, and how deep they nest. An addressed command
has no further address in front, and a range starts at an address that is no range itself.
-/
namespace StructuralEdit

structure FilterText (u : Text) : Prop extends u.Trimmed where
  some : u ≠ []
  oneLine : '\n' ∉ u

namespace Address

def isRange : Address → Bool
  | .range _ _ => true
  | _ => false

inductive WellFormed : Address → Prop
  | dot : WellFormed .dot
  | finish : WellFormed .finish
  | char {n : Nat} : n < numberLimit → WellFormed (.char n)
  | line {n : Nat} : n < numberLimit → WellFormed (.line n)
  | search (d : Direction) (p : Pattern) : WellFormed (.search d p)
  | range {a b : Address} : a.isRange = false → WellFormed a → WellFormed b →
      WellFormed (.range a b)

/-- How many links the chain of an address has behind its first one. The whole text is a single
comma, and so no chain. -/
def links : Address → Nat
  | .range (.line 0) .finish => 0
  | .range _ b => links b + 1
  | _ => 0

variable {a b : Address}

theorem links_simple (h : a.isRange = false) : a.links = 0 := by
  cases a with
  | range a b => cases h
  | _ => rfl

theorem links_range (h : ¬(a = .line 0 ∧ b = .finish)) : (range a b).links = b.links + 1 := by
  rw [links]
  exact fun ha hb => h ⟨ha, hb⟩

theorem links_range_le (a b : Address) : (range a b).links ≤ b.links + 1 := by
  by_cases whole : a = .line 0 ∧ b = .finish
  · obtain ⟨rfl, rfl⟩ := whole
    exact Nat.zero_le _
  · exact Nat.le_of_eq (links_range whole)

theorem render_range (h : ¬(a = .line 0 ∧ b = .finish)) :
    (range a b).render = a.render ++ ',' :: b.render := by
  rw [render]
  exact fun ha hb => h ⟨ha, hb⟩

end Address

namespace Command

def isAddressed : Command → Bool
  | .addressed _ _ => true
  | _ => false

inductive WellFormed : Command → Prop
  | print : WellFormed .print
  | delete : WellFormed .delete
  | change (u : Text) : WellFormed (.change u)
  | append (u : Text) : WellFormed (.append u)
  | insert (u : Text) : WellFormed (.insert u)
  | filter {u : Text} : FilterText u → WellFormed (.filter u)
  | extract (inverse : Bool) (p : Pattern) {sub : Command} :
      WellFormed sub → WellFormed (.extract inverse p sub)
  | guard (inverse : Bool) (p : Pattern) {sub : Command} :
      WellFormed sub → WellFormed (.guard inverse p sub)
  | group {members : List Command} : (∀ c ∈ members, WellFormed c) → WellFormed (.group members)
  | addressed {a : Address} {sub : Command} : a.WellFormed → sub.isAddressed = false →
      WellFormed sub → WellFormed (.addressed a sub)

mutual

/-- How deep the deepest command stands, when the whole stands at depth 0. What is inside an
extraction, a guard or a group is one deeper; what an address applies to is not. -/
def height : Command → Nat
  | .extract _ _ sub => height sub + 1
  | .guard _ _ sub => height sub + 1
  | .group members => heightMembers members
  | .addressed _ sub => height sub
  | _ => 0

def heightMembers : List Command → Nat
  | [] => 0
  | c :: cs => max (height c + 1) (heightMembers cs)

end

mutual

def chain : Command → Nat
  | .extract _ _ sub => chain sub
  | .guard _ _ sub => chain sub
  | .group members => chainMembers members
  | .addressed a sub => max a.links (chain sub)
  | _ => 0

def chainMembers : List Command → Nat
  | [] => 0
  | c :: cs => max (chain c) (chainMembers cs)

end

/-- Induction on commands, with the members of a group as the commands inside it. -/
@[elab_as_elim]
theorem induction {motive : Command → Prop} (print : motive .print) (delete : motive .delete)
    (change : ∀ u, motive (.change u)) (append : ∀ u, motive (.append u))
    (insert : ∀ u, motive (.insert u)) (filter : ∀ f, motive (.filter f))
    (extract : ∀ inverse p sub, motive sub → motive (.extract inverse p sub))
    (guard : ∀ inverse p sub, motive sub → motive (.guard inverse p sub))
    (group : ∀ members, (∀ c ∈ members, motive c) → motive (.group members))
    (addressed : ∀ a sub, motive sub → motive (.addressed a sub)) (c : Command) : motive c :=
  @Command.rec motive (fun cs => ∀ c ∈ cs, motive c) print delete change append insert filter
    extract guard group addressed (List.forall_mem_nil motive)
    (fun _ _ first later => List.forall_mem_cons.mpr ⟨first, later⟩) c

theorem lt_heightMembers {n : Nat} {cs : List Command} :
    n < heightMembers cs ↔ ∃ c ∈ cs, n ≤ c.height := by
  induction cs with
  | nil => simp [heightMembers]
  | cons c cs ih =>
    have split : n < max (c.height + 1) (heightMembers cs) ↔
        n ≤ c.height ∨ n < heightMembers cs := by omega
    simp [heightMembers, split, ih]

theorem lt_chainMembers {n : Nat} {cs : List Command} :
    n < chainMembers cs ↔ ∃ c ∈ cs, n < c.chain := by
  induction cs with
  | nil => simp [chainMembers]
  | cons c cs ih =>
    have split : n < max c.chain (chainMembers cs) ↔ n < c.chain ∨ n < chainMembers cs := by
      omega
    simp [chainMembers, split, ih]

end Command

end StructuralEdit
