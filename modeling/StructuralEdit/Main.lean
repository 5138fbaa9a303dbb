import StructuralEdit.CommandLine
/-!
The program: its arguments, its file and its streams.
-/
namespace StructuralEdit.CommandLine

partial def readAll (s : IO.FS.Stream) (done : ByteArray) : IO ByteArray := do
  let bytes ← s.read 65536
  if bytes.isEmpty then return done else readAll s (done ++ bytes)

def loadFile (path : Text) : IO Files := do
  let system := Files.within []
  try
    let bytes ← IO.FS.readBinFile (String.ofList path)
    return system.place path (.file bytes.toList)
  catch
    | .noFileOrDirectory .. => return system
    | _ => return system.place path (.directory [])

/-- Writes a file if the program has changed it. -/
def storeFile (path : Text) (before : Files) (r : Report) : IO Report := do
  match r.files.read path with
  | .ok bytes =>
    if (before.read path).toOption = some bytes then return r
    try
      IO.FS.writeBinFile (String.ofList path) ⟨bytes.toArray⟩
      return r
    catch e =>
      let message := fatalMessage ("Failed to write " ++ .ofList path) (toString e)
      return { r with status := 1, messages := r.messages ++ message }
  | .error _ => return r

def start (args : List Text) : IO Report := do
  match Arguments.read args with
  | some (.edit a) =>
    let usesInput := a.file.isNone || a.commands.isEmpty
    let input ← if usesInput then readAll (← IO.getStdin) .empty else pure .empty
    match a.file with
    | none => return run args input.toList (.within [])
    | some path =>
      let before ← loadFile path
      storeFile path before (run args input.toList before)
  | _ => return run args [] (.within [])

end StructuralEdit.CommandLine

def main (args : List String) : IO UInt32 := do
  let r ← StructuralEdit.CommandLine.start (args.map String.toList)
  (← IO.getStderr).putStr r.messages
  (← IO.getStdout).putStr r.output
  return r.status.toUInt32
