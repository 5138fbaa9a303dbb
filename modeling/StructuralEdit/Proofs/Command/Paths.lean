import Mathlib.Data.List.Chain
import StructuralEdit.Proofs.Command.Accepted
/-!
How deep a command goes. A path leads from a command to one right inside it, from there to one right
inside that, and so on. On each path of a command that was read, levels and addresses are counted:
a step inward uses up a level, and an address is followed by a command that has none. So paths are
short, however long the text was, and so are the chains of ranges in the addresses on them.
-/
namespace StructuralEdit

namespace Address

def ranges : Address → Nat
  | .range a b => ranges a + ranges b + 1
  | _ => 0

/-- Whether there is never a range in front of the comma of another one. -/
def RightNested : Address → Prop
  | .range a b => a.isRange = false ∧ RightNested b
  | _ => True

variable {a : Address}

theorem ranges_simple (h : a.isRange = false) : a.ranges = 0 := by
  cases a with
  | range a b => cases h
  | _ => rfl

theorem WellFormed.rightNested (h : a.WellFormed) : a.RightNested := by
  induction h with
  | range simple _ _ _ ih => exact ⟨simple, ih⟩
  | _ => trivial

theorem WellFormed.ranges_le (h : a.WellFormed) : a.ranges ≤ a.links + 1 := by
  -- The whole text is one range although it is no chain.
  induction h with
  | @range a b simple _ _ _ ih =>
    rw [ranges, ranges_simple simple, Nat.zero_add]
    by_cases whole : a = .line 0 ∧ b = .finish
    · obtain ⟨rfl, rfl⟩ := whole
      exact Nat.le_refl 1
    · rw [links_range whole]
      exact Nat.succ_le_succ ih
  | _ => exact Nat.zero_le _

end Address

namespace Command

def parts : Command → List Command
  | .extract _ _ sub => [sub]
  | .guard _ _ sub => [sub]
  | .group members => members
  | .addressed _ sub => [sub]
  | _ => []

def nests : Command → Bool
  | .extract _ _ _ => true
  | .guard _ _ _ => true
  | .group _ => true
  | _ => false

/-- A path that starts at a command: each of the others is right inside the one before it. -/
def Path (c : Command) (rest : List Command) : Prop :=
  (c :: rest).IsChain fun outer inner => inner ∈ outer.parts

variable {c d : Command} {rest : List Command} {levels : Nat}

theorem path_cons : c.Path (d :: rest) ↔ d ∈ c.parts ∧ d.Path rest := List.isChain_cons_cons

namespace Accepted

theorem pos_of_nests (h : Accepted levels c) (nests : c.nests) : 0 < levels := by
  cases h with
  | print => cases nests
  | _ => exact Nat.zero_lt_succ _

theorem of_mem_parts (h : Accepted levels c) (inside : d ∈ c.parts) :
    (∃ below, levels = below + 1 ∧ c.nests ∧ c.isAddressed = false ∧ Accepted below d) ∨
      (∃ a, c = .addressed a d) ∧ 0 < levels ∧ d.isAddressed = false ∧ Accepted levels d := by
  cases h with
  | extract inverse p inner =>
    rw [List.mem_singleton.1 inside]
    exact Or.inl ⟨_, rfl, rfl, rfl, inner⟩
  | guard inverse p inner =>
    rw [List.mem_singleton.1 inside]
    exact Or.inl ⟨_, rfl, rfl, rfl, inner⟩
  | group inner => exact Or.inl ⟨_, rfl, rfl, rfl, inner d inside⟩
  | @addressed levels a sub _ _ simple inner =>
    rw [List.mem_singleton.1 inside]
    exact Or.inr ⟨⟨a, rfl⟩, Nat.zero_lt_succ _, simple, inner⟩
  | _ => cases inside

theorem countP_nests_le (h : Accepted levels c) (path : c.Path rest) :
    (c :: rest).countP nests ≤ levels := by
  induction rest generalizing c levels with
  | nil =>
    rw [List.countP_singleton]
    split
    · next nests => exact h.pos_of_nests nests
    · exact Nat.zero_le _
  | cons d rest ih =>
    obtain ⟨inside, later⟩ := path_cons.1 path
    rcases h.of_mem_parts inside with ⟨below, rfl, nests, -, inner⟩ | ⟨⟨a, rfl⟩, -, -, inner⟩
    · rw [List.countP_cons_of_pos nests]
      exact Nat.succ_le_succ (ih inner later)
    · rw [List.countP_cons_of_neg Bool.false_ne_true]
      exact ih inner later

/-- On each level there are two commands of a path at most, and if the path starts without an
address there is one less. -/
theorem length_path_le (h : Accepted levels c) (path : c.Path rest) :
    rest.length ≤ 2 * levels ∧ (c.isAddressed = false → 0 < levels → rest.length < 2 * levels) := by
  induction rest generalizing c levels with
  | nil => exact ⟨Nat.zero_le _, fun _ positive => Nat.mul_pos Nat.two_pos positive⟩
  | cons d rest ih =>
    obtain ⟨inside, later⟩ := path_cons.1 path
    rw [List.length_cons]
    rcases h.of_mem_parts inside with
      ⟨below, rfl, -, -, inner⟩ | ⟨⟨a, rfl⟩, positive, simple, inner⟩
    · have short := (ih inner later).1
      omega
    · exact ⟨(ih inner later).2 simple positive, fun plain => by cases plain⟩

theorem addresses_apart (h : Accepted levels c) (path : c.Path rest) :
    (c :: rest).IsChain fun outer inner => ¬(outer.isAddressed ∧ inner.isAddressed) := by
  induction rest generalizing c levels with
  | nil => exact .singleton c
  | cons d rest ih =>
    obtain ⟨inside, later⟩ := path_cons.1 path
    rcases h.of_mem_parts inside with ⟨below, -, -, plain, inner⟩ | ⟨-, -, simple, inner⟩
    · refine .cons_cons (fun both => ?_) (ih inner later)
      rw [plain] at both
      cases both.1
    · refine .cons_cons (fun both => ?_) (ih inner later)
      rw [simple] at both
      cases both.2

theorem exists_of_mem_path (h : Accepted levels c) (path : c.Path rest) (found : d ∈ c :: rest) :
    ∃ below, Accepted below d := by
  induction rest generalizing c levels with
  | nil =>
    rw [List.mem_singleton.1 found]
    exact ⟨levels, h⟩
  | cons e rest ih =>
    obtain ⟨inside, later⟩ := path_cons.1 path
    rcases List.mem_cons.1 found with rfl | found
    · exact ⟨levels, h⟩
    · rcases h.of_mem_parts inside with ⟨below, -, -, -, inner⟩ | ⟨-, -, -, inner⟩
      · exact ih inner later found
      · exact ih inner later found

theorem address_on_path {a : Address} (h : Accepted levels c) (path : c.Path rest)
    (found : .addressed a d ∈ c :: rest) : a.ranges ≤ nestingLimit ∧ a.RightNested := by
  obtain ⟨below, accepted⟩ := h.exists_of_mem_path path found
  cases accepted with
  | addressed wellFormed few _ _ =>
    exact ⟨Nat.le_trans wellFormed.ranges_le few, wellFormed.rightNested⟩

end Accepted

/-- A command that is not deep, on any of its paths: how many commands on it open a level, how many
there are in all, and how its addresses are made up. -/
structure Shallow (c : Command) : Prop where
  nests : ∀ rest, c.Path rest → (c :: rest).countP nests ≤ 101
  length : ∀ rest, c.Path rest → (c :: rest).length ≤ 203
  apart : ∀ rest, c.Path rest →
    (c :: rest).IsChain fun outer inner => ¬(outer.isAddressed ∧ inner.isAddressed)
  ranges : ∀ rest a sub, c.Path rest → .addressed a sub ∈ c :: rest → a.ranges ≤ 101
  nested : ∀ rest a sub, c.Path rest → .addressed a sub ∈ c :: rest → a.RightNested

theorem shallow_of_read {t : Text} (h : read t = .ok c) : c.Shallow := by
  have accepted := read_eq_ok h
  refine ⟨fun _ => accepted.countP_nests_le, fun _ path => ?_, fun _ => accepted.addresses_apart,
    fun _ _ _ path found => (accepted.address_on_path path found).1,
    fun _ _ _ path found => (accepted.address_on_path path found).2⟩
  exact Nat.succ_le_succ (accepted.length_path_le path).1

end Command

end StructuralEdit
