import StructuralEdit.Shell.Records.Run
/-!
The program that processes records: its arguments and its end.
-/
namespace StructuralEdit.Shell.Records

structure Invocation where
  separator : Option Text := none
  assignments : List (Text × Text) := []
  files : List Text := []
  operands : List Text := []

def Invocation.read : Nat → List Text → Invocation → Except Text Invocation
  | 0, _, i => .ok i
  | _ + 1, [], i => .ok i
  | n + 1, a :: args, i =>
    let withValue (letter : Char) (t : Text)
        (use : Text → Invocation → Except Text Invocation) : Except Text Invocation :=
      match t, args with
      | [], v :: rest => (use v i).bind (read n rest)
      | [], [] => .error ("option -".toList ++ letter :: " lacks argument".toList)
      | v, rest => (use v i).bind (read n rest)
    match a with
    | ['-', '-'] => .ok { i with operands := args }
    | '-' :: 'F' :: t => withValue 'F' t fun v i => .ok { i with separator := some v }
    | '-' :: 'f' :: t => withValue 'f' t fun v i => .ok { i with files := i.files ++ [v] }
    | '-' :: 'W' :: t => withValue 'W' t fun _ i => .ok i
    | '-' :: 'v' :: t => withValue 'v' t fun v i =>
        match State.assignment? v with
        | some x => .ok { i with assignments := i.assignments ++ [x] }
        | none => .error ("improper assignment: -v ".toList ++ v)
    | '-' :: _ :: _ => .error ("not an option: ".toList ++ a)
    | _ => .ok { i with operands := a :: args }

/-- The text of the script and the arguments behind it. If there is no script nothing is done. -/
def Invocation.script (i : Invocation) (m : Machine) : Except Text (Text × List Text) :=
  match i.files, i.operands with
  | [], t :: rest => .ok (t, rest)
  | [], [] => .error []
  | files, operands => do
    let texts ← files.mapM fun path =>
      match m.files.read (decode path) with
      | .ok bs => .ok (Text.ofOctets bs)
      | .error e =>
        .error ("cannot open \"".toList ++ path ++ ("\" (" ++ e.reason ++ ")").toList)
    return (joinWith ['\n'] texts, operands)

def stepLimit : Nat := 1500000

def State.start (name : Text) (i : Invocation) (operands : List Text) (m : Machine) : State :=
  let number (n : Int) : Value := .number (.ofInt n)
  let s : State := { machine := m, name, patience := stepLimit + m.input.length }
  let usual : List (String × Value) :=
    [("CONVFMT", .text "%.6g".toList), ("OFMT", .text "%.6g".toList), ("FS", .text [' ']),
      ("OFS", .text [' ']), ("ORS", .text ['\n']), ("RS", .text ['\n']),
      ("SUBSEP", .text ['\x1c']), ("NR", number 0), ("FNR", number 0), ("RSTART", number 0),
      ("RLENGTH", number (-1)), ("ARGC", number (operands.length + 1 : Nat))]
  let s := usual.foldl (fun s (x, v) => s.setPlain x.toList v) s
  let put (x : String) (items : List (Text × Value)) (s : State) : State :=
    let (id, s) := s.arrayOf x.toList
    s.setTable id (.ofList items)
  let s := put "ENVIRON" (m.environment.map fun (x, t) => (x, .input t)) s
  let s := put "ARGV" ((name :: operands).zipIdx.map fun (t, n) => (shown n, .input t)) s
  let s := match i.separator with
    | some t =>
      let t := Scan.unescape (t.length + 1) t
      (s.setVariable "FS".toList (.text t)).separatorOf t |>.2
    | none => s
  i.assignments.foldl (fun s (x, t) => s.setVariable x (.input t)) s

end Records

def processRecords : Launcher := fun e name args m =>
  let complain (ts : List Text) : Machine :=
    let m := m.write 2 (ts.flatMap fun t => name ++ ": ".toList ++ t ++ ['\n'])
    { m with status := 2 }
  match (Records.Invocation.read (args.length + 1) args {}).bind fun i =>
      (i.script m).map fun r => (i, r) with
  | .error [] => { m with status := 0 }
  | .error t => complain [t]
  | .ok (i, text, operands) =>
    match Records.Script.read text with
    | .error cs => complain (cs.map (·.text))
    | .ok script =>
      let s := script.run e (.start name i operands m)
      let s := s.finish e
      let m := { s.machine with status := s.status }
      match s.control with
      | .exhausted => { m with clock := m.clock + forever }
      | _ => if s.status = 139 then { m with control := .ended (.killed 11) } else m

end StructuralEdit.Shell
