import StructuralEdit.Shell.Expansion
/-!
Redirections: descriptors that are opened for a command and closed behind it.
-/
namespace StructuralEdit.Shell.Machine

def deviceDescriptor? (path : Text) : Option Nat :=
  match String.ofList path with
  | "/dev/stdin" => some 0
  | "/dev/stdout" => some 1
  | "/dev/stderr" => some 2
  | _ =>
    if "/dev/fd/".toList.isPrefixOf path then
      let t := path.drop 8
      if t ≠ [] ∧ t.all Char.isDigit then some (ofDigits 10 t) else none
    else none

def device? (path : Text) : Option Channel :=
  match String.ofList path with
  | "/dev/null" => some .null
  | "/dev/zero" | "/dev/urandom" | "/dev/random" => some .zero
  | "/dev/full" => some .full
  | _ => none

inductive Opening where
  | reading
  | writing
  | appending
  | both
  deriving DecidableEq

def openingOf : Redirect.Kind → Opening
  | .input => .reading
  | .both => .both
  | .append | .allAppend => .appending
  | _ => .writing

def openPath (descriptor : Nat) (path : Text) (how : Opening) (m : Machine) :
    Except FileError Machine :=
  let place := decode path
  let known := m.files.has place
  match (deviceDescriptor? path).bind fun d => m.descriptors.lookup d with
  | some id => if known then openKnown place how else .ok (m.bind descriptor id)
  | none =>
    match device? path with
    | some c => .ok (m.open_ descriptor c)
    | none => openKnown place how
where
  openKnown (place : Text) (how : Opening) : Except FileError Machine := do
    let names ← m.files.locate place
    let existing := m.files.find place
    match how with
    | .reading =>
      match existing with
      | .ok (.file _) => return m.open_ descriptor (.file names 0 false)
      | .ok (.directory _) => return m.open_ descriptor (.source [])
      | .error e => throw e
    | .writing =>
      let files ← m.files.write place []
      return open_ descriptor (.file names 0 false) { m with files }
    | .appending | .both =>
      let old ← match existing with
        | .ok (.file content) => pure content
        | .ok (.directory _) => throw .isDirectory
        | .error _ => pure []
      let files ← m.files.write place old
      return open_ descriptor (.file names 0 (how = .appending)) { m with files }

def openMessage (d : Dialect) (how : Opening) (path : Text) (e : FileError) : Text :=
  match d with
  | .bash => path ++ (": " ++ e.reason).toList
  | .dash =>
    let isMissing := e = .notFound || e = .notDirectory
    if how = .reading then
      "cannot open ".toList ++ path ++
        (if isMissing then ": No such file" else ": " ++ e.reason).toList
    else
      "cannot create ".toList ++ path ++
        (if isMissing then ": Directory nonexistent" else ": " ++ e.reason).toList

def redirectStatus (d : Dialect) : Nat :=
  match d with
  | .dash => 2
  | .bash => 1

abbrev Opened := Except Machine Machine

def refuse (message : Text) (m : Machine) : Opened :=
  .error (m.complain message (redirectStatus m.dialect))

def duplicate (descriptor : Nat) (target : Text) (m : Machine) : Opened :=
  if target = ['-'] then .ok (m.close descriptor)
  else
    let moves := target.getLast? = some '-' ∧ m.dialect = .bash
    let digits := if moves then target.dropLast else target
    if digits ≠ [] ∧ digits.all Char.isDigit ∧ (m.dialect = .bash ∨ digits.length = 1) then
      let n := ofDigits 10 digits
      match m.descriptors.lookup n with
      | some id =>
        let m := m.bind descriptor id
        .ok (if moves then m.close n else m)
      | none => m.refuse (digits ++ ": Bad file descriptor".toList)
    else match m.dialect with
      | .dash => .error (m.fail "Syntax error: Bad fd number".toList 2)
      | .bash => m.refuse (target ++ ": ambiguous redirect".toList)

/-- The text that a redirection names. Some shells split it, and it has to stay one field. -/
def targetOf (run : Runner) (w : Word) (m : Machine) : Except Machine (Text × Machine) :=
  match m.dialect with
  | .dash => .ok (m.expandText run w)
  | .bash =>
    match m.expandFields run [w] with
    | ([t], m) => .ok (t, m)
    | (fields, m) =>
      let written : Text := match w with
        | .parameter name _ _ _ _ :: _ => '$' :: name
        | _ => joinWith [' '] fields
      .error (m.complain (written ++ ": ambiguous redirect".toList) 1)

def redirect (run : Runner) (r : Redirect) (m : Machine) : Opened :=
  let named (f : Text → Machine → Opened) : Opened :=
    match m.targetOf run r.target with
    | .error m => .error m
    | .ok (t, m) => if m.isRunning then f t m else .error m
  let opening (how : Opening) (f : Machine → Opened) : Opened :=
    named fun path m =>
      if how = .writing ∧ r.kind ≠ .clobber ∧ m.has "noclobber" ∧ m.files.isFile (decode path) ∧
          (device? path).isNone then
        m.refuse (match m.dialect with
          | .dash => "cannot create ".toList ++ path ++ ": File exists".toList
          | .bash => path ++ ": cannot overwrite existing file".toList)
      else match m.openPath r.descriptor path how with
        | .ok m => f m
        | .error e => m.refuse (openMessage m.dialect how path e)
  match r.kind with
  | .document =>
    let (t, m) := textBy (pieces run false depth) r.target m
    if m.isRunning then .ok (m.open_ r.descriptor (.source t)) else .error m
  | .line =>
    let (t, m) := m.expandText run r.target
    if m.isRunning then .ok (m.open_ r.descriptor (.source (t ++ ['\n']))) else .error m
  | .duplicateInput => named (duplicate r.descriptor)
  | .duplicateOutput =>
    named fun t m =>
      let isNumber : Bool := t.all fun c => c.isDigit || c = '-'
      if m.dialect = .bash ∧ r.descriptor = 1 ∧ !isNumber then
        match m.openPath 1 t .writing with
        | .ok m => duplicate 2 ['1'] m
        | .error e => m.refuse (openMessage m.dialect .writing t e)
      else duplicate r.descriptor t m
  | .allOutput | .allAppend => opening (openingOf r.kind) (duplicate 2 ['1'])
  | k => opening (openingOf k) .ok

def redirectAll (run : Runner) (rs : List Redirect) (m : Machine) : Opened :=
  rs.foldlM (fun m r => m.redirect run r) m

def changedBy (r : Redirect) : List Nat :=
  match r.kind with
  | .allOutput | .allAppend => [1, 2]
  | .duplicateOutput => [r.descriptor, 2]
  | _ => [r.descriptor]

/-- Gives descriptors back what they were open on before, and forgets what is open no more. -/
def restore (rs : List Redirect) (before : Machine) (m : Machine) : Machine :=
  let changed := rs.flatMap changedBy
  let kept := m.descriptors.filter fun d => !changed.contains d.1
  let old := before.descriptors.filter fun d => changed.contains d.1
  let descriptors := old ++ kept
  let isOpen (id : Nat) : Bool := id < before.next || descriptors.any fun d => d.2 = id
  { m with descriptors, channels := m.channels.filter fun c => isOpen c.1 }

/-- Runs with redirections, which end with what is run. What else is to be done if they fail comes
last. -/
def redirected (run : Runner) (rs : List Redirect) (f : Machine → Machine)
    (failed : Machine → Machine) (m : Machine) : Machine :=
  if rs.isEmpty then f m
  else match m.redirectAll run rs with
    | .ok opened => restore rs m (f opened)
    | .error e => restore rs m (failed e)

end StructuralEdit.Shell.Machine
