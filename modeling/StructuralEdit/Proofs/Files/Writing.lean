import StructuralEdit.Files
/-!
Reading what was written. To write a file keeps all directories where they are, so a path leads to
the same place afterwards, and what is read there is what was written. The null device is the
exception: what is written to it is lost.
-/
namespace StructuralEdit

namespace FileNode

variable {entries : List (Text × FileNode)} {name other : Text} {n m : FileNode}
  {content : Bytes} {names : List Text}

theorem child?_setChild (entries : List (Text × FileNode)) (name : Text) (n : FileNode) :
    child? (setChild entries name n) name = some n := by
  simp [child?, setChild]

theorem child?_setChild_of_ne (entries : List (Text × FileNode)) (n : FileNode)
    (h : other ≠ name) : child? (setChild entries name n) other = child? entries other := by
  have first : (name = other) = False := eq_false h.symm
  simp only [child?, setChild, List.find?_cons, first, decide_false, List.find?_filter]
  congr 2
  funext e
  by_cases same : e.1 = other
  · simp [same, h]
  · simp [same]

theorem put_cons (h : put content n (name :: names) = .ok m) :
    ∃ entries k, n = .directory entries ∧ m = .directory (setChild entries name k) ∧
      Text.size name ≤ 255 ∧
      ((∃ before, child? entries name = some before ∧ put content before names = .ok k) ∨
        child? entries name = none ∧ names = [] ∧ k = .file content) := by
  -- To put a file somewhere puts it into the node of that name, which is there or is a new file
  -- at the end of the names.
  cases n with
  | file old => cases h
  | directory entries =>
    unfold put at h
    by_cases long : 255 < Text.size name
    · rw [if_pos long] at h
      cases h
    rw [if_neg long] at h
    cases found : child? entries name with
    | some before =>
      rw [found] at h
      cases deeper : put content before names with
      | error e =>
        simp only [deeper] at h
        cases h
      | ok k =>
        simp only [deeper] at h
        cases h
        exact ⟨entries, k, rfl, rfl, by omega, Or.inl ⟨before, found, deeper⟩⟩
    | none =>
      rw [found] at h
      cases names with
      | nil =>
        cases h
        exact ⟨entries, .file content, rfl, rfl, by omega, Or.inr ⟨found, rfl, rfl⟩⟩
      | cons next names => cases h

theorem follow_put (h : put content n names = .ok m) : follow m names = .ok (.file content) := by
  induction names generalizing n m with
  | nil =>
    cases n with
    | file old =>
      cases h
      rfl
    | directory entries => cases h
  | cons name names ih =>
    obtain ⟨entries, k, -, rfl, short, made⟩ := put_cons h
    rw [follow, if_neg (by omega), child?_setChild]
    rcases made with ⟨before, -, deeper⟩ | ⟨-, rfl, rfl⟩
    · exact ih deeper
    · rfl

theorem follow_put_directory {target : List Text} (h : put content n target = .ok m)
    (was : follow n names = .ok (.directory entries)) :
    ∃ later, follow m names = .ok (.directory later) := by
  induction target generalizing n m names with
  | nil =>
    cases n with
    | file old =>
      cases names with
      | nil => cases was
      | cons _ _ => cases was
    | directory _ => cases h
  | cons name target ih =>
    obtain ⟨here, k, rfl, rfl, short, made⟩ := put_cons h
    cases names with
    | nil => exact ⟨_, rfl⟩
    | cons other names =>
      by_cases long : 255 < Text.size other
      · rw [follow, if_pos long] at was
        cases was
      rw [follow, if_neg long] at was ⊢
      -- Off the way to the target nothing is changed; on it, the rest of the names decides.
      by_cases same : other = name
      · subst same
        rw [child?_setChild]
        rcases made with ⟨before, found, deeper⟩ | ⟨missing, -, -⟩
        · rw [found] at was
          exact ih deeper was
        · rw [missing] at was
          cases was
      · rw [child?_setChild_of_ne here k same]
        exact ⟨_, was⟩

end FileNode

theorem foldlM_eq_ok_of_imp {α β ε : Type} {f g : β → α → Except ε β} {as : List α} {b c : β}
    (imp : ∀ b a c, f b a = .ok c → g b a = .ok c) (h : as.foldlM f b = .ok c) :
    as.foldlM g b = .ok c := by
  induction as generalizing b with
  | nil => exact h
  | cons a as ih =>
    rw [List.foldlM_cons] at h ⊢
    cases first : f b a with
    | error e =>
      rw [first] at h
      cases h
    | ok next =>
      rw [first] at h
      rw [imp b a next first]
      exact ih h

namespace Files

variable {f g : Files} {path : Text} {names : List Text}

theorem locate_eq_of_directories (current : g.current = f.current)
    (kept : ∀ names entries, f.root.follow names = .ok (.directory entries) →
      ∃ later, g.root.follow names = .ok (.directory later))
    (h : f.locate path = .ok names) : g.locate path = .ok names := by
  unfold locate at h ⊢
  dsimp only at h ⊢
  rw [current]
  by_cases empty : path = []
  · rw [if_pos empty] at h
    cases h
  rw [if_neg empty] at h ⊢
  refine foldlM_eq_ok_of_imp (fun here name next step => ?_) h
  by_cases stays : name = [] ∨ name = ['.']
  · rw [if_pos stays] at step ⊢
    exact step
  rw [if_neg stays] at step ⊢
  by_cases up : name = ['.', '.']
  · rw [if_pos up] at step ⊢
    split at step
    · next entries found =>
      obtain ⟨later, still⟩ := kept here entries found
      rw [still]
      exact step
    · cases step
    · cases step
  · rw [if_neg up] at step ⊢
    exact step

def nullDevice : List Text := ["dev".toList, "null".toList]

/-- A file that was written has what was written, unless it is the null device. -/
theorem read_write {content : Bytes} (device : f.locate path ≠ .ok nullDevice)
    (h : f.write path content = .ok g) : g.read path = .ok content := by
  unfold write at h
  cases place : f.locate path with
  | error e =>
    rw [place] at h
    cases h
  | ok names =>
    have other : names ≠ ["dev".toList, "null".toList] :=
      fun same => device (place.trans (congrArg _ same))
    rw [place, Except.bind, if_neg other] at h
    by_cases ending : namesDirectory path = true
    · rw [if_pos ending] at h
      cases h
    rw [if_neg ending] at h
    cases made : f.root.put content names with
    | error e =>
      rw [made] at h
      cases h
    | ok root =>
      rw [made] at h
      cases h
      have located : Files.locate { f with root } path = .ok names :=
        locate_eq_of_directories (f := f) rfl
          (fun _ _ was => FileNode.follow_put_directory made was) place
      have found : Files.find { f with root } path = .ok (.file content) := by
        simp only [find, located, Except.bind, FileNode.follow_put made, if_neg ending]
      rw [read, found]

end Files

end StructuralEdit
