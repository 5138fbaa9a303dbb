import StructuralEdit.Text.Utf8
/-!
A tree of directories and files with a current directory, as far as an editor and its filters can
see or change it.
-/
namespace StructuralEdit

abbrev Bytes := List UInt8

inductive FileNode where
  | file (content : Bytes)
  | directory (entries : List (Text × FileNode))

inductive FileError where
  | notFound
  | permissionDenied
  | notDirectory
  | isDirectory
  | nameTooLong
  deriving DecidableEq, Repr

def FileError.reason : FileError → String
  | .notFound => "No such file or directory"
  | .permissionDenied => "Permission denied"
  | .notDirectory => "Not a directory"
  | .isDirectory => "Is a directory"
  | .nameTooLong => "File name too long"

def FileError.code : FileError → Nat
  | .notFound => 2
  | .permissionDenied => 13
  | .notDirectory => 20
  | .isDirectory => 21
  | .nameTooLong => 36

def FileError.message (e : FileError) : String :=
  e.reason ++ " (os error " ++ toString e.code ++ ")"

namespace FileNode

def child? (entries : List (Text × FileNode)) (name : Text) : Option FileNode :=
  (entries.find? fun e => e.1 = name).map (·.2)

def setChild (entries : List (Text × FileNode)) (name : Text) (n : FileNode) :
    List (Text × FileNode) :=
  (name, n) :: entries.filter fun e => e.1 ≠ name

def follow : FileNode → List Text → Except FileError FileNode
  | n, [] => .ok n
  | .file _, _ :: _ => .error .notDirectory
  | .directory entries, name :: names =>
    if 255 < Text.size name then .error .nameTooLong
    else match child? entries name with
      | some n => follow n names
      | none => .error .notFound

/-- Puts a file at the end of a list of names. Only that file can be new. -/
def put (content : Bytes) : FileNode → List Text → Except FileError FileNode
  | .file _, [] => .ok (.file content)
  | .directory _, [] => .error .isDirectory
  | .file _, _ :: _ => .error .notDirectory
  | .directory entries, name :: names =>
    if 255 < Text.size name then .error .nameTooLong
    else match child? entries name, names with
      | some n, _ => (put content n names).map fun n => .directory (setChild entries name n)
      | none, [] => .ok (.directory (setChild entries name (.file content)))
      | none, _ :: _ => .error .notFound

def remove : FileNode → List Text → FileNode
  | n, [] => n
  | .file content, _ :: _ => .file content
  | .directory entries, [name] => .directory (entries.filter fun e => e.1 ≠ name)
  | .directory entries, name :: names =>
    match child? entries name with
    | some n => .directory (setChild entries name (remove n names))
    | none => .directory entries

def plant (node : FileNode) : FileNode → List Text → FileNode
  | _, [] => node
  | .file content, _ :: _ => .file content
  | .directory entries, name :: names =>
    let inner := (child? entries name).getD (.directory [])
    .directory (setChild entries name (plant node inner names))

end FileNode

structure Files where
  root : FileNode
  current : List Text

namespace Files

/-- The directories of a system, and the device that takes everything and keeps nothing. -/
def systemRoot : FileNode :=
  .directory (("dev".toList, .directory [("null".toList, .file [])]) ::
    ["bin", "etc", "home", "lib", "mnt", "opt", "proc", "root", "run", "sbin", "srv", "sys", "tmp",
      "usr", "var"].map fun name => (name.toList, .directory []))

def workNames : List Text := ["home".toList, "work".toList]

def within (entries : List (Text × FileNode)) : Files where
  root := FileNode.plant (.directory entries) systemRoot workNames
  current := workNames

/-- The names that lead from the root to what a path names. The last of them need not exist. -/
def locate (f : Files) (path : Text) : Except FileError (List Text) :=
  let step (names : List Text) (name : Text) : Except FileError (List Text) :=
    if name = [] ∨ name = ['.'] then .ok names
    else if name = ['.', '.'] then
      match f.root.follow names with
      | .ok (.directory _) => .ok names.dropLast
      | .ok (.file _) => .error .notDirectory
      | .error e => .error e
    else .ok (names ++ [name])
  let start := if path.head? = some '/' then [] else f.current
  if path = [] then .error .notFound else (path.splitOn '/').foldlM step start

def namesDirectory (path : Text) : Bool :=
  [['/'], ['/', '.'], ['/', '.', '.']].any fun ending => ending.isSuffixOf path

def find (f : Files) (path : Text) : Except FileError FileNode :=
  (f.locate path).bind fun names =>
    match f.root.follow names with
    | .ok (.file content) =>
      if namesDirectory path then .error .notDirectory else .ok (.file content)
    | r => r

def read (f : Files) (path : Text) : Except FileError Bytes :=
  match f.find path with
  | .ok (.file content) => .ok content
  | .ok (.directory _) => .error .isDirectory
  | .error e => .error e

/-- The system after a file is written. What is written to the null device is lost. -/
def write (f : Files) (path : Text) (content : Bytes) : Except FileError Files :=
  (f.locate path).bind fun names =>
    if names = ["dev".toList, "null".toList] then .ok f
    else if namesDirectory path then .error .isDirectory
    else (f.root.put content names).map fun root => { f with root }

def follow? (f : Files) (names : List Text) : Option FileNode := (f.root.follow names).toOption

def content (f : Files) (names : List Text) : Bytes :=
  match f.follow? names with
  | some (.file content) => content
  | _ => []

def setContent (f : Files) (names : List Text) (content : Bytes) : Files :=
  match f.root.put content names with
  | .ok root => { f with root }
  | .error _ => f

def has (f : Files) (path : Text) : Bool := (f.find path).toOption.isSome

def isFile (f : Files) (path : Text) : Bool :=
  match f.find path with
  | .ok (.file _) => true
  | _ => false

def isDirectory (f : Files) (path : Text) : Bool :=
  match f.find path with
  | .ok (.directory _) => true
  | _ => false

def names (f : Files) (path : Text) : Except FileError (List Text) :=
  match f.find path with
  | .ok (.directory entries) =>
    .ok ((entries.map fun e => e.1).mergeSort Text.precedes)
  | .ok (.file _) => .error .notDirectory
  | .error e => .error e

def absolute (names : List Text) : Text :=
  if names.isEmpty then ['/'] else names.flatMap fun n => '/' :: n

def remove (f : Files) (path : Text) : Files :=
  match f.locate path with
  | .ok names => { f with root := f.root.remove names }
  | .error _ => f

def place (f : Files) (path : Text) (node : FileNode) : Files :=
  match f.locate path with
  | .ok names => { f with root := node.plant f.root names }
  | .error _ => f

end Files

end StructuralEdit
