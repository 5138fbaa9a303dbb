import StructuralEdit.Shell.Machine
import StructuralEdit.Shell.Quoted
/-!
How variables are declared: their properties and values as commands that make them again.
-/
namespace StructuralEdit.Shell

def Binding.letterText (b : Binding) : Text :=
  let kind := match b.value with
    | some (.indexed _) => ['a']
    | some (.associative _) => ['A']
    | _ => []
  kind ++ (if b.isInteger then ['i'] else []) ++ (if b.isReference then ['n'] else []) ++
    (if b.isReadOnly then ['r'] else []) ++ (if b.isExported then ['x'] else []) ++
    (match b.letters with
      | some .upper => ['u']
      | some .capital => ['c']
      | some _ => ['l']
      | none => [])

def Binding.valueText (b : Binding) : Text :=
  match b.value with
  | some (.text t) => '=' :: Quoted.double t
  | some (.indexed items) =>
    "=(".toList ++ joinWith [' '] (items.map fun (i, t) =>
      '[' :: shownInt i ++ "]=".toList ++ Quoted.double t) ++ [')']
  | some (.associative items) =>
    "=(".toList ++ ((Machine.listed items).flatMap fun (k, t) =>
      '[' :: k ++ "]=".toList ++ Quoted.double t ++ [' ']) ++ [')']
  | none => []

def fullDeclaration (name : Text) (b : Binding) : Text :=
  let letters := b.letterText
  "declare -".toList ++ (if letters.isEmpty then ['-'] else letters) ++ ' ' :: name ++
    b.valueText ++ ['\n']

def assignmentText (name : Text) (b : Binding) : Text :=
  let letters := b.letterText
  let start := if letters.isEmpty then [] else "declare -".toList ++ letters ++ [' ']
  match b.value with
  | some (.text t) => start ++ name ++ '=' :: Quoted.shell t
  | _ => start ++ name ++ b.valueText

end StructuralEdit.Shell
