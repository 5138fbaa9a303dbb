import StructuralEdit.Shell.Expansion
/-!
Assignments: variables, items of arrays and whole arrays.
-/
namespace StructuralEdit.Shell.Machine

/-- The text that a variable takes for the one that is written: what an expression is worth, if
the variable holds integers. -/
def worth (b : Binding) (t : Text) (m : Machine) : Text × Machine :=
  if b.isInteger then
    let (n, m) := m.number t
    (shownInt n, m)
  else (t, m)

def extended (b : Binding) (old t : Text) (m : Machine) : Text × Machine :=
  if b.isInteger then
    let (a, m) := m.number old
    let (n, m) := m.number t
    (shownInt (wrap (a + n)), m)
  else (old ++ t, m)

def assignItem (name sub t : Text) (appends : Bool) (m : Machine) : Machine :=
  if m.isReadOnly name then m.assignOrFail name t
  else
    let target := m.target 10 name
    let b := (m.binding? target).getD {}
    let value (old : Text) (m : Machine) : Text × Machine :=
      if appends then extended b old t m else worth b t m
    match b.value with
    | some (.associative items) =>
      let (v, m) := value ((items.lookup sub).getD []) m
      m.store target (.associative (items.filter (·.1 ≠ sub) ++ [(sub, b.shape v)]))
    | old =>
      let items := match old with
        | some (.indexed items) => items
        | some (.text t) => [(0, t)]
        | _ => []
      let (i, m) := m.number sub
      let i := Arithmetic.placeOf items i
      if !m.isRunning then m
      else if i < 0 then
        m.complain (name ++ '[' :: sub ++ "]: bad array subscript".toList) 1
      else
        let (v, m) := value ((items.lookup i).getD []) m
        if m.isRunning then m.store target (.indexed (setItem items i (b.shape v))) else m

def assignPlace (place t : Text) (m : Machine) : Machine :=
  let name := place.takeWhile (· ≠ '[')
  if name.length < place.length then
    m.assignItem name ((place.drop (name.length + 1)).dropLast) t false
  else m.assignOrFail name t

def assignItems (run : Runner) (name : Text) (appends : Bool) (items : List (Option Word × Word))
    (m : Machine) : Machine :=
  let target := m.target 10 name
  let b := (m.binding? target).getD {}
  match b.value with
  | some (.associative _) =>
    let m := if appends then m else m.store target (.associative [])
    items.foldl (fun m (sub, w) =>
      match sub with
      | some sub =>
        let (key, m) := m.expandText run sub
        let (t, m) := m.expandValue run w
        if m.isRunning then m.assignItem target key t false else m
      | none => m) m
  | old =>
    let before : List (Int × Text) := match appends, old with
      | true, some (.indexed items) => items
      | true, some (.text t) => [(0, t)]
      | _, _ => []
    let next (items : List (Int × Text)) : Int := items.getLast?.elim 0 fun l => l.1 + 1
    let step (s : List (Int × Text) × Int × Machine) (item : Option Word × Word) :
        List (Int × Text) × Int × Machine :=
      let (known, i, m) := s
      if !m.isRunning then s
      else match item with
        | (some sub, w) =>
          let (key, m) := m.expandText run sub
          let (j, m) := m.number key
          let (t, m) := m.expandValue run w
          (setItem known j (b.shape t), j + 1, m)
        | (none, w) =>
          let (fields, m) := m.expandFields run [w]
          let known := fields.zipIdx.foldl (fun known (t, k) =>
            setItem known (i + (k : Int)) (b.shape t)) known
          (known, i + (fields.length : Int), m)
    let (known, _, m) := items.foldl step (before, next before, m)
    if m.isRunning then m.store target (.indexed known) else m

def makeAssignment (run : Runner) (a : Assignment) (m : Machine) : Machine :=
  if !m.isRunning then m
  else match a.value, a.subscript with
    | .items items, _ =>
      if m.isReadOnly a.name then m.assignOrFail a.name []
      else m.assignItems run a.name a.appends items
    | .word w, some sub =>
      let (key, m) := m.expandText run sub
      let (t, m) := m.expandValue run w
      if m.isRunning then m.assignItem a.name key t a.appends else m
    | .word w, none =>
      let (t, m) := m.expandValue run w
      if !m.isRunning then m
      else
        let b := (m.binding? (m.target 10 a.name)).getD {}
        let (t, m) := if a.appends then extended b (m.parameter a.name) t m else worth b t m
        if m.isRunning then m.assignOrFail a.name t else m

end StructuralEdit.Shell.Machine
