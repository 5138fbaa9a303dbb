import StructuralEdit.Shell.Builtin.Process
import StructuralEdit.Shell.Utility.Basic
/-!
What programs leave to the shell that starts them, and programs that start others.
-/
namespace StructuralEdit.Shell

namespace Machine

def call (m : Machine) (name : Text) (args : List Text) : Call :=
  { name, args, input := m.input, files := m.files, environment := m.environment }

def absorb (name : Text) (f : Finish) (m : Machine) : Machine :=
  let isPipe := !m.inputIsFile
  let input := m.input
  let m := match f.files with
    | some files => { m with files := { files with current := m.files.current } }
    | none => m
  let failure := (f.written.filter fun w => !w.2.isEmpty).findSome? fun w =>
    if w.1 = 1 then m.writeError? 1 else none
  let m := f.written.foldl (fun m (descriptor, t) => m.write descriptor t) m
  let m := { m with status := f.status, clock := m.clock + f.slept }
  /- From a pipe programs take whole blocks. -/
  let taken := input.length - f.unread.length
  let unread :=
    if f.isExact ∨ !isPipe ∨ taken = 0 then f.unread
    else f.unread.drop ((taken + 8191) / 8192 * 8192 - taken)
  let m := if f.unread.length = input.length then m else m.leaveAt 0 unread
  let m := match failure with
    | some e => { m.write 2 (name ++ ": write error: ".toList ++ e.reason.toList ++ ['\n']) with
        status := 1 }
    | none => m
  match f.signal with
  | some s => { m with control := .ended (.killed s) }
  | none => m

def ownProcess (f : Machine → Machine) (m : Machine) : Ending × Machine :=
  let r := f { m with isSubshell := false, loops := 0, jobs := [], traps := [] }
  let ending := match r.control with
    | .ended e => e
    | _ => .exited r.status
  (ending, { absorbSystem r m with status := r.endingStatus })

/-- Runs a process of its own. If a signal ends it, that is said. -/
def inProcess (f : Machine → Machine) (m : Machine) : Machine :=
  let (ending, after) := m.ownProcess f
  match ending with
  | .killed s =>
    if s = 2 ∨ s = 13 then after
    else match m.dialect with
      | .dash => after.write 2 (((Signal.descriptions[s - 1]?).getD "").toList ++ ['\n'])
      | .bash =>
        after.write 2 (m.name ++ ": line ".toList ++ shown m.line ++ ": ".toList ++
          padRight 6 (shown (processId + 1)) ' ' ++
          ((Signal.descriptions[s - 1]?).getD "").toList ++ ['\n'])
  | .exited _ => after

end Machine

abbrev Launcher := Engine → Text → List Text → Machine → Machine

def Machine.outputOf (e : Engine) (m : Machine) (script : Text) : Text :=
  (m.capture fun m => (m.ownProcess fun m =>
    e.program ["sh".toList, ['-', 'c'], script] { m with dialect := .dash }).2).1

def Launcher.ofUtility (u : (Text → Text) → Utility) : Launcher := fun e name args m =>
  m.absorb name (u (m.outputOf e) (m.call name args))

end StructuralEdit.Shell
