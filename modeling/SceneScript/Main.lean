import SceneScript.Command.Paths
import Std.Time.DateTime.Timestamp

/-!
# The program

Runs the command on the disk. The parts of the disk that the command may look at are read into a
file system, the command runs on that, and what it has changed is written back.
-/

namespace SceneScript.Program

/-- What stands at a place of the disk. A place that is there and cannot be read as a file is taken
for a directory. -/
def entry? (place : List String) : IO (Option Entry) := do
  try
    pure (some (.file (.bytes (← IO.FS.readBinFile (Path.ofComponents place)))))
  catch
    | .noFileOrDirectory .. => pure none
    | .inappropriateType .. | .illegalOperation .. | .resourceVanished .. => pure (some .directory)
    | e => throw e

/-- A file system with what stands on the ways of paths on the disk. -/
def load (fs : FileSystem) (paths : List String) : IO FileSystem :=
  (paths.flatMap (Path.visited fs.here)).foldlM (fun fs place => do
    if (fs.entry? place).isSome then pure fs
    else
      match ← entry? place with
      | some e => pure (fs.put place e)
      | none => pure fs) fs

/-- Writes what stands in a file system and not in the one before it. -/
def store (before after : FileSystem) : IO Unit :=
  after.entries.forM fun (place, e) => do
    let path := Path.ofComponents place
    match e, before.entry? place with
    | .directory, none => IO.FS.createDir path
    | .directory, some _ => pure ()
    | .file content, some (.file old) =>
      let data := content.toBytes
      if data != old.toBytes then IO.FS.writeBinFile path data
    | .file content, _ => IO.FS.writeBinFile path content.toBytes

/-- The time of day in front of a record. -/
def clock (seconds : Nat) : String :=
  let parts := [seconds / 3600 % 24, seconds / 60 % 60, seconds % 60]
  ":".intercalate (parts.map (Decimal.digits 2)) ++ " - "

/-- How the command is called. -/
def usage : String := "usage: scenescript [-h] [-o DIRECTORY] [-v] [--log-file FILE] SCRIPT\n"

/-- Runs the command with arguments in a working directory, and answers with its exit status. -/
def run (here : List String) (args : List String) : IO UInt32 := do
  let above := (List.range here.length).map fun i => (here.take (i + 1), Entry.directory)
  let fs := Samples.mount ⟨here, above⟩
  let fs ← match Arguments.ofList args with
    | .run a => do
      let fs ← load fs (Command.inputPaths a)
      load fs (Command.outputPaths fs a)
    | _ => pure fs
  let now ← Std.Time.Timestamp.now
  let r := Command.run (clock now.toSecondsSinceUnixEpoch.val.toNat) fs args
  store fs r.files
  IO.print r.printed
  match r.exit with
  | .help =>
    IO.print usage
    pure 0
  | .usage =>
    IO.eprint usage
    pure 2
  | .status code => pure code.toUInt32
  | .escaped fault =>
    IO.eprintln fault.message
    pure 1

end SceneScript.Program

/-- Renders the script that the arguments name. -/
def main (args : List String) : IO UInt32 := do
  let here := SceneScript.Path.resolve [] (← IO.currentDir).toString
  try
    SceneScript.Program.run here args
  catch e =>
    IO.eprintln e
    pure 1
