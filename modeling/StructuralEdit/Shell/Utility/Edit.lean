import StructuralEdit.Shell.LineEditor.Run
/-!
The program that edits the lines of its input by a script.
-/
namespace StructuralEdit.Shell

namespace LineEditor

def stepLimit : Nat := 3000000

def linesOfFile (mark : Char) (file t : Text) : List Line :=
  (rowsBy mark t).map fun row =>
    if row.getLast? = some mark then
      { text := row.dropLast, isEnded := true, file, isLast := false }
    else { text := row, isEnded := false, file, isLast := false }

def markLast (apart : Bool) (files : List (List Line)) : List Line :=
  let mark (lines : List Line) : List Line :=
    match lines.reverse with
    | last :: others => others.reverse ++ [{ last with isLast := true }]
    | [] => []
  if apart then files.flatMap mark else mark files.flatten

def writtenPaths (commands : List Command) : List Text :=
  commands.filterMap fun c => match c.action with
    | .writeFile path | .writeFirst path => some path
    | .substitute s => s.file
    | _ => none

end LineEditor

open LineEditor in
/-- Edits lines. The first argument says what a command of the system writes. -/
def editLines (execute : Text → Text) : Utility := fun c =>
  let specs := ["n quiet silent", "e= expression", "f= file", "E r regexp-extended",
    "i=? in-place", "l= line-length", "posix", "s separate", "u unbuffered", "z null-data",
    "b binary", "debug", "follow-symlinks", "sandbox"]
  let fail (message : Text) (status : Nat) : Finish :=
    { c.finish [] status with written := [(2, "sed: ".toList ++ message ++ ['\n'])] }
  match Options.read specs true c.args with
  | .error e => fail e 1
  | .ok f =>
    let run : Except Finish Finish := do
      let given := f.flags.filter fun x => x.1 = "e" || x.1 = "f"
      let (pieces, operands, usesInput) : List ScriptPart × List Text × Bool ←
        if given.isEmpty then
          match f.operands with
          | [] => throw (c.finish [] 1)
          | script :: rest => pure ([{ origin := .argument 1, text := script }], rest, false)
        else do
          let (pieces, _, usesInput) ← given.foldlM (fun (ps, n, used) (key, value) =>
            if key = "e" then
              .ok (({ origin := .argument n, text := value } : ScriptPart) :: ps, n + 1, used)
            else
              let isInput : Bool := value = ['-'] || value = "/dev/stdin".toList
              match if isInput then .ok c.input else c.read value with
              | .ok t =>
                let t := if t.getLast? = some '\n' then t.dropLast else t
                .ok (({ origin := .file value, text := t } : ScriptPart) :: ps, n, used || isInput)
              | .error e =>
                .error (fail
                  ("couldn't open file ".toList ++ value ++ (": " ++ e.reason).toList) 1))
            (([] : List ScriptPart), 1, false)
          pure (pieces.reverse, f.operands, usesInput)
      let commands ← match readScript
          { extended := f.has "E", nulls := f.has "z", sandboxed := f.has "sandbox" } pieces with
        | .ok cs => pure cs
        | .error p => throw (fail p.message p.status)
      let isQuiet : Bool := match pieces with
        | p :: _ => p.text = ['#', 'n'] || ['#', 'n', '\n'].isPrefixOf p.text
        | [] => false
      let inPlace := f.has "i"
      let operands := if operands.isEmpty then [['-']] else operands
      if inPlace ∧ operands = [['-']] then throw (fail "no input files".toList 4)
      let badPath? := (writtenPaths commands).findSome? fun path =>
        if path = "/dev/stdout".toList ∨ path = "/dev/stderr".toList then none
        else match c.files.write (decode path) [] with
          | .ok _ => none
          | .error e => some (path, e)
      match badPath? with
      | some (path, e) =>
        throw (fail ("couldn't open file ".toList ++ path ++ (": " ++ e.reason).toList) 4)
      | none => pure ()
      let mark := if f.has "z" then '\x00' else '\n'
      let width : Nat := match f.value? "l" with
        | some t => ofDigits 10 (t.takeWhile Char.isDigit)
        | none => 70
      let width := if f.has "posix" ∧ width = 1 then 0 else width
      let apart := f.has "s" || inPlace
      let g : Setting :=
        { silent := f.has "n" || isQuiet, mark, width, apart, inPlace, execute
          read := fun path =>
            if operands.contains ['-'] ∧ path = "/dev/stdin".toList then some []
            else (c.read path).toOption }
      let (files, complaints, status, usedInput) := operands.foldl
        (fun (files, complaints, status, used) o =>
          if o = ['-'] ∧ !inPlace then
            (linesOfFile mark o (if used then [] else c.input) :: files, complaints, status, true)
          else match c.read o with
            | .ok t => (linesOfFile mark o t :: files, complaints, status, used)
            | .error .isDirectory =>
              let message :=
                if inPlace then "couldn't edit ".toList ++ o ++ ": not a regular file".toList
                else "read error on ".toList ++ o ++ ": Is a directory".toList
              (files, complaints ++ "sed: ".toList ++ message ++ ['\n'], 4, used)
            | .error e =>
              let complaint := "sed: can't read ".toList ++ o ++ (": " ++ e.reason ++ "\n").toList
              (files, complaints ++ complaint, max status 2, used))
        (([] : List (List Line)), ([] : Text), 0, usesInput)
      let lines := markLast apart files.reverse
      let empty := (writtenPaths commands).map fun path => (path, ({} : Output))
      let start : LineEditor.State := { lines, files := empty }
      let result := match start.readLine? g false with
        | some s => LineEditor.State.run g commands.toArray stepLimit 0 s
        | none => { start with status := some 0 }
      let problem := match result.problem with
        | some p => "sed: ".toList ++ p ++ ['\n']
        | none => []
      let toErrors := ((result.files.lookup "/dev/stderr".toList).map Output.text).getD []
      let fromFiles := ((result.files.lookup "/dev/stdout".toList).map Output.text).getD []
      let suffix := (f.value? "i").getD []
      let written := result.files.filter fun x =>
        x.1 ≠ "/dev/stderr".toList && x.1 ≠ "/dev/stdout".toList
      let newFiles := written.foldl (fun fs (path, o) =>
        (fs.write (decode path) o.text.octets).toOption.getD fs) c.files
      let newFiles := result.edited.foldl (fun fs (path, o) =>
        let fs := if suffix.isEmpty then fs
          else
            let backup := if suffix.contains '*' then
                suffix.flatMap fun x => if x = '*' then path else [x]
              else path ++ suffix
            ((fs.read (decode path)).toOption.bind fun old =>
              (fs.write (decode backup) old).toOption).getD fs
        (fs.write (decode path) o.text.octets).toOption.getD fs) newFiles
      let out := if inPlace then fromFiles else result.out.text
      return {
        written := [(2, complaints), (1, out), (2, toErrors ++ problem)]
        status := match result.status with
          | some 0 => status
          | some n => n
          | none => 0
        unread := if !usedInput then c.input
          else if f.has "u" then
            result.lines.flatMap fun l => l.text ++ if l.isEnded then [mark] else []
          else []
        isExact := f.has "u"
        slept := if result.status.isNone then 1000000000000000000000 else 0
        files := some newFiles }
    match run with
    | .ok r => r
    | .error r => r

end StructuralEdit.Shell
