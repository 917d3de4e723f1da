import SceneScript.Command.Arguments
import SceneScript.Light
import SceneScript.Samples
import SceneScript.Script.Basic
import SceneScript.Storage.Disk
import SceneScript.Text.Utf8

/-!
# The command

Renders a script file. The command is a function of the arguments and of a file system: it answers
with the status it exits with, what it prints, and the file system afterwards. A script that is not
there is looked for among the samples.

Faults of the script and of the file system are logged and exit with a status. Other faults are not
handled (`Exit.escaped`).
-/

namespace SceneScript

namespace Samples

/-- The file system with the samples in their directory. -/
def mount (fs : FileSystem) : FileSystem :=
  let place := Path.resolve [] directory
  let above := (List.range place.length).map fun i => place.take (i + 1)
  let fs := above.foldl (fun fs p => fs.put p .directory) fs
  all.foldl (fun fs (name, lines) =>
    fs.put (place ++ [name]) (.file (.bytes (text lines).toUTF8))) fs

end Samples

/-- The path of a script: the given one, or that of the sample of this name when there is no such
file, and what is told of it. -/
def scriptPath (fs : FileSystem) (path : String) : String × List (Note Float) :=
  if fs.exists? path then (path, [])
  else
    let bundled := Path.join Samples.directory path
    if fs.exists? bundled then (bundled, [.bundledScript bundled]) else (path, [])

/-- The text of a file. -/
def FileSystem.readText [Guard] (fs : FileSystem) (path : String) : Except Fault String := do
  Text.decode (← fs.read path).toBytes

/-- The settings of a scene that has none of its own. -/
def defaultSettings : Settings Float := { surface := ({} : Light).surface }

/-- The path that a script is read from, and what is told before it is read. -/
def announce (fs : FileSystem) (path : String) : String × List (Note Float) :=
  let (path, found) := scriptPath fs path
  (Path.tidy path, found ++ [.reading (Path.tidy path)])

/-- What a script file came to. -/
structure Rendering where
  result : Except Fault Report
  files : FileSystem
  notes : List (Note Float)

/-- Compiles and renders a script file. -/
def renderFile [Guard] (fs : FileSystem) (path : String) (directory : Option String)
    (settings : Settings Float) : Rendering :=
  let (path, notes) := announce fs path
  match (fs.readText path).bind Script.ofText with
  | .error fault => ⟨.error fault, fs, notes⟩
  | .ok script =>
    let notes := notes ++ [script.note]
    match Canvas.create settings.width settings.height settings.background with
    | .error fault => ⟨.error fault, fs, notes⟩
    | .ok canvas =>
      let job : Job Float FileSystem := ⟨script.operations, settings, directory, Disk.output⟩
      match job.run { stack := .initial, knobs := script.knobs, canvas, output := fs } with
      | .ok report s => ⟨.ok report, s.output, notes ++ s.notes.toList⟩
      | .error fault s => ⟨.error fault, s.output, notes ++ s.notes.toList⟩

/-- How the command ends. -/
inductive Exit
  /-- The arguments ask for help. -/
  | help
  /-- The arguments are wrong. -/
  | usage
  /-- The command ran, and exits with this status. -/
  | status (code : Nat)
  /-- A fault that the command does not handle. -/
  | escaped (fault : Fault)

/-- What the command came to. -/
structure CommandResult where
  exit : Exit
  printed : String
  files : FileSystem

namespace Command

/-- A record of the log, after the time. -/
def record (time : String) (n : Note Float) : String :=
  time ++ n.source ++ " - " ++ n.level.name ++ " - " ++ n.text ++ "\n"

/-- The records of the log that have a weight that is shown. -/
def records (time : String) (verbose : Bool) (notes : List (Note Float)) : String :=
  String.join ((notes.filter (·.isShown verbose)).map (record time))

/-- What is told at the end of a run. -/
def summary (r : Report) : Note Float :=
  match r.animation with
  | some path => .animationDone r.frames path
  | none => .stillDone r.savedPaths.length

/-- What a rendering exits with, and what is told of that. -/
def ending (result : Except Fault Report) : Exit × List (Note Float) :=
  match result with
  | .ok report => (.status 0, [summary report])
  | .error fault =>
    if fault.isScriptFault || fault.isSystemFault then (.status 1, [.failed fault])
    else (.escaped fault, [])

/-- The absolute path of a log file. -/
def logPath (fs : FileSystem) (path : String) : String :=
  Path.ofComponents (Path.resolve fs.here path)

/-- Writes the log file, if there is one. -/
def writeLog [Guard] (fs : FileSystem) (path : Option String) (log : String) :
    Except Fault FileSystem :=
  match path with
  | some path => fs.write path (.bytes log.toUTF8)
  | none => .ok fs

/-- Runs the command. The log file has every record, the console those that are asked for. Records
begin with the given time. -/
def run [Guard] (time : String) (fs : FileSystem) (args : List String) : CommandResult :=
  match Arguments.ofList args with
  | .help => ⟨.help, "", fs⟩
  | .wrong => ⟨.usage, "", fs⟩
  | .run a =>
    let log := (a.logFile.filter (!·.isEmpty)).map (logPath fs)
    let opening := Note.logging a.verbose
    match writeLog fs log "" with
    | .error fault => ⟨.escaped fault, "", fs⟩
    | .ok fs =>
      let before := records time true (opening :: (announce fs a.script).2)
      let fs := (writeLog fs log before).toOption.getD fs
      let r := renderFile fs a.script a.directory defaultSettings
      let (exit, last) := ending r.result
      let notes := opening :: r.notes ++ last
      let files := (writeLog r.files log (records time true notes)).toOption.getD r.files
      ⟨exit, records time a.verbose notes, files⟩

end Command

end SceneScript
