import StructuralEdit.Shell.Octets
/-!
Signals, by number and by name.
-/
namespace StructuralEdit.Shell.Signal

def names : List String :=
  ["HUP", "INT", "QUIT", "ILL", "TRAP", "ABRT", "BUS", "FPE", "KILL", "USR1", "SEGV", "USR2",
    "PIPE", "ALRM", "TERM", "STKFLT", "CHLD", "CONT", "STOP", "TSTP", "TTIN", "TTOU", "URG",
    "XCPU", "XFSZ", "VTALRM", "PROF", "WINCH", "IO", "PWR", "SYS"]

def descriptions : List String :=
  ["Hangup", "Interrupt", "Quit", "Illegal instruction", "Trace/breakpoint trap", "Aborted",
    "Bus error", "Floating point exception", "Killed", "User defined signal 1",
    "Segmentation fault", "User defined signal 2", "Broken pipe", "Alarm clock", "Terminated",
    "Stack fault", "Child exited", "Continued", "Stopped (signal)", "Stopped",
    "Stopped (tty input)", "Stopped (tty output)", "Urgent I/O condition",
    "CPU time limit exceeded", "File size limit exceeded", "Virtual timer expired",
    "Profiling timer expired", "Window changed", "I/O possible", "Power failure",
    "Bad system call"]

def harmless : List Nat := [0, 17, 18, 23, 28]

def stopping : List Nat := [19, 20, 21, 22]

def name? (n : Nat) : Option String := if n = 0 then none else names[n - 1]?

def table : Text :=
  let own := ["RTMIN"] ++ (List.range 15).map (fun (n : Nat) => "RTMIN+" ++ toString (n + 1)) ++
    (List.range 14).map (fun (n : Nat) => "RTMAX-" ++ toString (14 - n)) ++ ["RTMAX"]
  let all := names.zipIdx 1 ++ own.zipIdx 34
  let cell : String × Nat × Nat → Text := fun (name, n, i) =>
    padLeft 2 (shown n) ' ' ++ ") SIG".toList ++ name.toList ++ [if i % 5 = 4 then '\n' else '\t']
  (all.zipIdx.map fun ((name, n), i) => cell (name, n, i)).flatten ++ ['\n']

/-- The number of a signal that is written as a number or a name, which can begin with three more
letters. -/
def ofText? (t : Text) : Option Nat :=
  if t ≠ [] ∧ t.all Char.isDigit then
    let n := ofDigits 10 t
    if n ≤ 64 then some n else none
  else
    let upper := t.map Char.toUpper
    let short := if "SIG".toList.isPrefixOf upper then upper.drop 3 else upper
    if short = "EXIT".toList then some 0
    else (names.findIdx? fun n => n.toList = short).map (· + 1)

end StructuralEdit.Shell.Signal
