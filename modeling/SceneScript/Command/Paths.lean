import SceneScript.Command.Run

/-!
# The paths of a command

Which paths a run of the command may follow: that of its script, and those that it may write. A
program on a disk needs no other part of it. `Path.visited` are the places on the way of a path.
-/

namespace SceneScript

/-- The places that a path leads through from the given directory, the last one included. -/
def Path.visited (start : List String) (path : String) : List (List String) :=
  ((components path).foldl (fun ((here, seen) : List String × List (List String)) c =>
    if c = "" ∨ c = "." then (here, seen)
    else if c = ".." then (here.dropLast, seen)
    else (here ++ [c], seen ++ [here ++ [c]])) (if isAbsolute path then [] else start, [])).2

/-- The files of an animation in a directory: its frames, and the animation itself. -/
def Directives.paths (d : Directives) (directory : String) : List String :=
  let frames := (List.range d.frames.toNat).map (d.framePath directory)
  if d.isAnimated then frames ++ [Assembly.path ⟨d.basename, frames, directory, 0⟩] else []

/-- The files that a script may write. -/
def Script.paths (s : Script) (directory : String) : List String :=
  s.operations.filterMap Operation.file? ++
    match Directives.ofOperations s.operations with
    | .ok d => d.paths directory
    | .error _ => []

namespace Command

/-- The paths that the command needs to find out what its script is. -/
def inputPaths (a : Arguments) : List String := [a.script, Path.join Samples.directory a.script]

/-- The paths that the command may write, on a file system that has its inputs. -/
def outputPaths (fs : FileSystem) (a : Arguments) : List String :=
  a.logFile.toList ++ a.directory.toList ++
    match (fs.readText (announce fs a.script).1).bind Script.ofText with
    | .ok s => s.paths (a.directory.getD "")
    | .error _ => []

end Command

end SceneScript
