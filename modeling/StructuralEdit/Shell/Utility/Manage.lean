import StructuralEdit.Shell.Utility.Plain
/-!
Making, moving and removing files and directories.
-/
namespace StructuralEdit.Shell

/-- What has been done to files, and what is said about it. -/
structure Managing where
  files : Files
  written : List (Nat × Text) := []
  status : Nat := 0

namespace Managing

def say (t : Text) (m : Managing) : Managing :=
  { m with written := (1, t ++ ['\n']) :: m.written }

def complain (c : Call) (t : Text) (m : Managing) : Managing :=
  { m with written := (2, c.complaintLine t) :: m.written, status := 1 }

def complainOf (c : Call) (before : String) (path : Text) (after : String) (m : Managing) :
    Managing :=
  m.complain c (before.toList ++ quotedName path ++ after.toList)

def find (m : Managing) (path : Text) : Except FileError FileNode := m.files.find (decode path)

def isDirectory (m : Managing) (path : Text) : Bool := m.files.isDirectory (decode path)

def place (path : Text) (node : FileNode) (m : Managing) : Managing :=
  { m with files := m.files.place (decode path) node }

def remove (path : Text) (m : Managing) : Managing :=
  { m with files := m.files.remove (decode path) }

def finish (c : Call) (m : Managing) : Finish :=
  { c.finish [] m.status with written := m.written.reverse, files := some m.files }

end Managing

def within (directory name : Text) : Text :=
  if directory.getLast? = some '/' then directory ++ name else directory ++ '/' :: name

def Managing.parentError? (m : Managing) (path : Text) : Option FileError :=
  match m.find (parentPath path) with
  | .ok (.directory _) => if 255 < (lastName path).length then some .nameTooLong else none
  | .ok (.file _) => some .notDirectory
  | .error e => some e

/-! ### Removing -/

namespace Removing

def report : Nat → Text → FileNode → List Text
  | 0, _, _ => []
  | n + 1, path, node =>
    match node with
    | .file _ => ["removed ".toList ++ quotedName path]
    | .directory entries =>
      let sorted := entries.mergeSort fun a b => Text.precedes a.1 b.1
      (sorted.flatMap fun (name, node) => report n (within path (encode name)) node) ++
        ["removed directory ".toList ++ quotedName path]

def removeOne (c : Call) (f : Options) (m : Managing) (path : Text) : Managing :=
  let recursive : Bool := f.has "r" || f.has "R"
  let isDots : Bool := lastName path = ['.'] || lastName path = ['.', '.']
  let verbose (node : FileNode) (m : Managing) : Managing :=
    if f.has "v" then (report 300 (withoutSlashes path) node).foldl (fun m t => m.say t) m else m
  match m.find path with
  | .error e =>
    if f.has "f" ∧ (e = .notFound ∨ e = .notDirectory) then m
    else m.complainOf c "cannot remove " path (": " ++ e.reason)
  | .ok node =>
    match node with
    | .file _ => (verbose node m).remove path
    | .directory entries =>
      if recursive then
        if isDots then
          m.complainOf c "refusing to remove '.' or '..' directory: skipping " path ""
        else if m.files.locate (decode path) matches .ok [] then
          (m.complain c "it is dangerous to operate recursively on '/'".toList).complain c
            "use --no-preserve-root to override this failsafe".toList
        else (verbose node m).remove path
      else if f.has "d" then
        if entries.isEmpty then (verbose node m).remove path
        else m.complainOf c "cannot remove " path ": Directory not empty"
      else m.complainOf c "cannot remove " path ": Is a directory"

end Removing

def removeFiles : Utility :=
  withOptions ["f force", "r recursive", "R", "d dir", "v verbose", "i", "I", "interactive=?",
    "one-file-system", "no-preserve-root", "preserve-root=?"] 1 fun c f =>
    if f.operands.isEmpty then
      if f.has "f" then c.finish [] 0 else c.usage "missing operand".toList 1
    else (f.operands.foldl (Removing.removeOne c f) { files := c.files }).finish c

def removeDirectories : Utility :=
  withOptions ["p parents", "v verbose", "ignore-fail-on-non-empty"] 1 fun c f =>
    if f.operands.isEmpty then c.usage "missing operand".toList 1
    else
      let removeOne (m : Managing) (path : Text) (isParent : Bool) : Bool × Managing :=
        let m := if f.has "v" then
            m.say ("rmdir: removing directory, ".toList ++ quotedName path) else m
        let before := if isParent then "failed to remove directory " else "failed to remove "
        match m.find path with
        | .ok (.directory []) => (true, m.remove path)
        | .ok (.directory _) =>
          (false, if f.has "ignore-fail-on-non-empty" then m
            else m.complainOf c before path ": Directory not empty")
        | .ok (.file _) => (false, m.complainOf c before path ": Not a directory")
        | .error e => (false, m.complainOf c before path (": " ++ e.reason))
      let parents (path : Text) : List Text :=
        let names := (withoutSlashes path).splitOn '/'
        ((List.range names.length).tail.map fun (n : Nat) => joinWith ['/'] (names.take n)).reverse
      (f.operands.foldl (fun m path =>
        let (done, m) := removeOne m path false
        if done ∧ f.has "p" then
          (((parents path).filter (· ≠ [])).foldl (fun (goes, m) p =>
            if goes then removeOne m p true else (false, m)) (true, m)).2
        else m) ({ files := c.files } : Managing)).finish c

/-! ### Making -/

def isMode (t : Text) : Bool :=
  let isClause (t : Text) : Bool :=
    let rest := t.dropWhile fun c => "ugoa".toList.contains c
    match rest with
    | op :: rest => "+-=".toList.contains op && rest.all fun c => "rwxXst-+=ugo".toList.contains c
    | [] => false
  (!t.isEmpty && t.all isOctalDigit && t.length ≤ 5) || (t.splitOn ',').all isClause

namespace Making

def makeOne (c : Call) (verbose : Bool) (m : Managing) (path : Text) : Managing :=
  let failed (reason : String) : Managing :=
    m.complainOf c "cannot create directory " path (": " ++ reason)
  match m.find path with
  | .ok _ => failed "File exists"
  | .error _ =>
    if path.isEmpty then failed FileError.notFound.reason
    else match m.parentError? path with
      | some e => failed e.reason
      | none =>
        let m := m.place (withoutSlashes path) (.directory [])
        if verbose then m.say ("mkdir: created directory ".toList ++ quotedName path) else m

def makeAll (c : Call) (verbose : Bool) (m : Managing) (path : Text) : Managing :=
  let names := (withoutSlashes path).splitOn '/'
  let steps := ((List.range names.length).map fun (n : Nat) =>
    joinWith ['/'] (names.take (n + 1))).filter (· ≠ [])
  (steps.foldl (fun ((goes : Bool), m) step =>
    if !goes then (false, m)
    else match m.find step with
      | .ok (.directory _) => (true, m)
      | .ok (.file _) =>
        (false, m.complainOf c "cannot create directory " step
          (if step = withoutSlashes path then ": File exists" else ": Not a directory"))
      | .error _ =>
        let r := makeOne c verbose m step
        (r.status = m.status, r)) (true, m)).2

end Making

def makeDirectories : Utility :=
  withOptions ["p parents", "v verbose", "m= mode", "Z context=?"] 1 fun c f =>
    if f.operands.isEmpty then c.usage "missing operand".toList 1
    else match (f.value? "m").filter fun t => !isMode t with
      | some t => c.complainText ("invalid mode ".toList ++ quotedName t) 1
      | none =>
        let one := if f.has "p" then Making.makeAll c (f.has "v") else Making.makeOne c (f.has "v")
        (f.operands.foldl one { files := c.files }).finish c

def touchFiles : Utility :=
  withOptions ["a", "m", "c no-create", "f", "d= date", "t=", "r= reference", "h no-dereference",
    "time="] 1 fun c f =>
    if f.operands.isEmpty then c.usage "missing file operand".toList 1
    else
      let touchOne (m : Managing) (path : Text) : Managing :=
        let failed (reason : String) : Managing :=
          m.complainOf c "cannot touch " path (": " ++ reason)
        if path = ['-'] then m
        else match m.find path with
          | .ok _ => m
          | .error .notFound =>
            if f.has "c" then m
            else if path.getLast? = some '/' then
              m.complainOf c "setting times of " path (": " ++ FileError.notFound.reason)
            else if path.isEmpty then failed FileError.notFound.reason
            else match m.parentError? path with
              | some e => failed e.reason
              | none => m.place path (.file [])
          | .error e => failed e.reason
      (f.operands.foldl touchOne { files := c.files }).finish c

def changeModes : Utility := fun c =>
  let isOption (a : Text) : Bool :=
    a.length ≥ 2 && a.head? = some '-' && !(a.drop 1).all fun c => "rwxXst".toList.contains c
  let options := c.args.filter isOption
  match options.find? fun a => !(a.drop 1).all fun c => "Rvcf-".toList.contains c with
  | some a => c.usage ("invalid option -- '".toList ++ (a.drop 1).take 1 ++ ['\'']) 1
  | none =>
    match c.args.filter fun a => !isOption a with
    | [] => c.usage "missing operand".toList 1
    | [mode] => c.usage ("missing operand after ".toList ++ quote mode) 1
    | mode :: paths =>
      if !isMode mode then c.usage ("invalid mode: ".toList ++ quote mode) 1
      else
        let one (m : Managing) (path : Text) : Managing :=
          match m.find path with
          | .ok _ => m
          | .error e => m.complainOf c "cannot access " path (": " ++ e.reason)
        (paths.foldl one { files := c.files }).finish c

/-! ### Copying and moving -/

namespace Transfer

/-- Whether files are moved, copied or linked, and how. -/
structure Manner where
  moves : Bool
  recursive : Bool := false
  verbose : Bool := false
  keeps : Bool := false
  links : Bool := false
  symbolic : Bool := false

def quotedPair (a b : Text) : Text := quotedName a ++ " -> ".toList ++ quotedName b

def leadsTo (a b : Except FileError (List Text)) : Bool :=
  match a, b with
  | .ok a, .ok b => a.isPrefixOf b
  | _, _ => false

/-- Directories with their contents in one. The new files take the place of old ones. -/
def merged : Nat → FileNode → FileNode → FileNode
  | 0, _, new => new
  | n + 1, .directory old, .directory new =>
    .directory (new.foldl (fun es (name, node) =>
      let node := match FileNode.child? es name with
        | some before => merged n before node
        | none => node
      FileNode.setChild es name node) old)
  | _ + 1, _, new => new

def one (c : Call) (k : Manner) (m : Managing) (path goal : Text) : Managing :=
  let file? : Except FileError FileNode :=
    if path = "/dev/stdin".toList ∨ path = "/dev/null".toList then
      (c.read path).map fun t => .file (Text.octets t)
    else m.find path
  match file? with
  | .error e =>
    if k.links then m.complainOf c "failed to access " path (": " ++ e.reason)
    else m.complainOf c "cannot stat " path (": " ++ e.reason)
  | .ok node =>
    let source := m.files.locate (decode path)
    let target := m.files.locate (decode goal)
    let isDirectory : Bool := node matches .directory _
    let isSame : Bool :=
      leadsTo source target && leadsTo target source && (m.find goal).toOption.isSome
    let done (node : FileNode) : Managing :=
      let m := if k.moves then m.remove path else m
      let m := m.place (withoutSlashes goal) node
      if k.verbose then
        m.say ((if k.moves then "renamed ".toList else []) ++ quotedPair path goal)
      else m
    if isDirectory ∧ k.links ∧ !k.symbolic then
      m.complain c (fileName path ++ ": hard link not allowed for directory".toList)
    else if isDirectory ∧ !k.moves ∧ !k.recursive ∧ !k.links then
      m.complain c ("-r not specified; omitting directory ".toList ++ quotedName path)
    else if isSame ∧ !isDirectory then
      m.complain c (quotedName path ++ " and ".toList ++ quotedName goal ++
        " are the same file".toList)
    else if !k.moves ∧ !k.links ∧ (goal = "/dev/stdout".toList ∨ goal = "/dev/stderr".toList
        ∨ goal = "/dev/null".toList) then
      match node with
      | .file content =>
        let descriptor := if goal = "/dev/stderr".toList then 2 else 1
        if goal = "/dev/null".toList then m
        else { m with written := (descriptor, Text.ofOctets content) :: m.written }
      | .directory _ => m
    else match m.find goal with
      | .ok (.directory inner) =>
        if isDirectory then
          if leadsTo source target ∧ k.moves then
            m.complain c ("cannot move ".toList ++ quotedName path ++
              " to a subdirectory of itself, ".toList ++ quotedName goal)
          else if leadsTo source target then
            m.complain c ("cannot copy a directory, ".toList ++ quotedName path ++
              ", into itself, ".toList ++ quotedName goal)
          else if k.moves then
            if inner.isEmpty then done node
            else m.complainOf c "cannot overwrite " goal ": Directory not empty"
          else done (merged 300 (.directory inner) node)
        else if k.moves then
          m.complainOf c "cannot overwrite directory " goal " with non-directory"
        else m.complain c ("cannot overwrite directory ".toList ++ quotedName goal ++
          " with non-directory ".toList ++ quotedName path)
      | .ok (.file _) =>
        if isDirectory then
          m.complain c ("cannot overwrite non-directory ".toList ++ quotedName goal ++
            " with directory ".toList ++ quotedName path)
        else if k.keeps then m.complain c ("not replacing ".toList ++ quotedName goal)
        else if k.links then
          m.complain c ((if k.symbolic then "failed to create symbolic link "
            else "failed to create hard link ").toList ++ quotedName goal ++ ": File exists".toList)
        else done node
      | .error _ =>
        let failed (reason : String) : Managing :=
          if k.moves then
            m.complain c ("cannot move ".toList ++ quotedName path ++ " to ".toList ++
              quotedName goal ++ (": " ++ reason).toList)
          else m.complainOf c (if isDirectory then "cannot create directory "
            else "cannot create regular file ") goal (": " ++ reason)
        if leadsTo source target ∧ isDirectory then
          if k.moves then
            m.complain c ("cannot move ".toList ++ quotedName path ++
              " to a subdirectory of itself, ".toList ++ quotedName goal)
          else m.complain c ("cannot copy a directory, ".toList ++ quotedName path ++
            ", into itself, ".toList ++ quotedName goal)
        else if goal.getLast? = some '/' ∧ !isDirectory then failed FileError.notDirectory.reason
        else match m.parentError? goal with
          | some e => failed e.reason
          | none => done node

/-- Transfers files to a target, which several of them can only share if it is a directory. -/
def all (c : Call) (k : Manner) (f : Options) : Finish :=
  let start : Managing := { files := c.files }
  let into (m : Managing) (directory : Text) (paths : List Text) : Managing :=
    paths.foldl (fun m p => one c k m p (within directory (lastName p))) m
  match f.value? "t" with
  | some directory =>
    if f.operands.isEmpty then c.usage "missing file operand".toList 1
    else match start.find directory with
      | .ok (.directory _) => (into start directory f.operands).finish c
      | .ok (.file _) =>
        (start.complainOf c "target directory " directory ": Not a directory").finish c
      | .error e => (start.complainOf c "target directory " directory (": " ++ e.reason)).finish c
  | none =>
    match f.operands.reverse with
    | [] => c.usage "missing file operand".toList 1
    | [path] =>
      if k.links then (one c k start path (lastName path)).finish c
      else c.usage ("missing destination file operand after ".toList ++ quote path) 1
    | target :: paths =>
      let isDirectory : Bool := start.isDirectory target && !f.has "T"
      if isDirectory then (into start target paths.reverse).finish c
      else match paths with
        | [path] => (one c k start path target).finish c
        | _ =>
          let reason := match start.find target with
            | .ok _ => FileError.notDirectory.reason
            | .error e => e.reason
          (start.complainOf c "target " target (": " ++ reason)).finish c

end Transfer

def moveFiles : Utility :=
  withOptions ["f force", "i interactive", "n no-clobber", "v verbose", "t= target-directory",
    "T no-target-directory", "u update=?", "b backup=?", "S= suffix", "Z context",
    "strip-trailing-slashes"] 1 fun c f =>
    let keeps : Bool := f.last? ["f", "i", "n"] = some "n"
    Transfer.all c { moves := true, verbose := f.has "v", keeps } f

def copyFiles : Utility :=
  withOptions ["a archive", "f force", "i interactive", "n no-clobber", "v verbose", "r recursive",
    "R", "p", "d", "t= target-directory", "T no-target-directory", "u update=?", "b", "l link",
    "s symbolic-link", "L dereference", "P no-dereference", "H", "x one-file-system", "S= suffix",
    "preserve=?", "no-preserve=", "parents", "backup=?", "reflink=?", "sparse=",
    "remove-destination", "strip-trailing-slashes", "attributes-only", "copy-contents"] 1 fun c f =>
    Transfer.all c {
      moves := false, verbose := f.has "v"
      recursive := f.has "r" || f.has "R" || f.has "a"
      keeps := f.last? ["f", "i", "n"] = some "n" } f

def linkFiles : Utility :=
  withOptions ["s symbolic", "f force", "n no-dereference", "v verbose", "t= target-directory",
    "T no-target-directory", "i interactive", "b", "r relative", "L logical", "P physical",
    "S= suffix", "d directory", "F"] 1 fun c f =>
    let known : Bool := match f.operands with
      | path :: _ => (c.files.find (decode path)).toOption.isSome
      | [] => true
    if f.has "s" ∧ !known then c.finish [] 0
    else Transfer.all c
      { moves := false, links := !f.has "f", symbolic := f.has "s", recursive := true } f

end StructuralEdit.Shell
