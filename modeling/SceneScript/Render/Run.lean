import SceneScript.Animation.Timeline
import SceneScript.Render.Execute
import SceneScript.Storage.Path

/-!
# Running a script

A run has three passes. The first reads the directives, the second the ramps; if either finds a
fault nothing has been drawn. The third renders the frames. Every frame starts with the coordinate
system of the screen and an empty canvas, and keeps the knobs of the frame before but for those
that its ramps set. A still picture stays on the canvas; the frames of an animation are saved one
by one and assembled at the end.
-/

namespace SceneScript

/-- A script with all that its run depends on. -/
structure Job (α σ : Type) where
  operations : List (Operation α)
  settings : Settings α
  /-- Where the frames of an animation go. A still picture needs no directory. -/
  directory : Option String
  output : Output σ

/-- What a run wrote. -/
structure Report where
  frames : Int
  basename : String
  framePaths : List String := []
  savedPaths : List String := []
  animation : Option String := none
  deriving Repr, DecidableEq, Inhabited

namespace Directives

/-- The path of a frame in a directory. -/
def framePath (d : Directives) (directory : String) (frame : Nat) : String :=
  Path.join directory (frameFile d.basename frame d.frames)

/-- What is told of the name in the directives of a script. -/
def nameNotes {α : Type} (d : Directives) : List (Note α) :=
  if d.basenameDefaulted then [.basenameUsed d.basename] else []

/-- What is told of the directives of a script. -/
def notes {α : Type} (d : Directives) : List (Note α) :=
  d.nameNotes ++ [.scanned d.frames d.basename]

end Directives

/-- What is told of the ramps of a script: those that fit, up to the first that does not. -/
def Timeline.notes {α : Type} [Machine] (ops : List (Operation α)) (frames : Int) : List (Note α) :=
  (Timeline.fitting frames (Timeline.ramps ops)).map .varied

/-- The directory of the frames when none is given. -/
def defaultDirectory : String := "anim"

/-- The first pass: the directives of a script, which are told when they have been read. The name is
told before the number of frames, which may be one that the machine does not write. -/
def Render.scan {α σ : Type} [Machine] (ops : List (Operation α)) : Render α σ Directives := do
  let d ← ofExcept (Directives.read ops)
  note d.nameNotes
  ofExcept d.check
  note [.scanned d.frames d.basename]
  pure d

namespace Job

variable {α σ : Type}

/-- The directory of the frames, which an animation needs. -/
def framesDirectory (job : Job α σ) : Render α σ String :=
  match job.directory with
  | some directory => pure directory
  | none => throw .noDirectory

variable [Machine] [Scalar α] [Trig α]

/-- Saves a frame of an animation and makes ready for the next. -/
def exportFrame (job : Job α σ) (d : Directives) (frame : Nat) : Render α σ String := do
  let file ← ofExcept (frameFilename d.basename frame d.frames)
  let directory ← job.framesDirectory
  let p ← Render.picture
  let path ← Render.ask (job.output.save p (Path.join directory file))
  Render.reset
  Render.note [.frameDone frame d.frames]
  pure path

/-- Renders a frame: the path of its file, if it is one of an animation. -/
def renderFrame (job : Job α σ) (d : Directives) (t : Timeline α) (frame : Nat) :
    Render α σ (Option String) := do
  Render.bindKnobs (← ofExcept (t.bindings frame))
  Render.execute job.settings job.output job.operations
  if d.isAnimated then some <$> job.exportFrame d frame else pure none

/-- Renders frames in order: the paths of their files. -/
def renderFrames (job : Job α σ) (d : Directives) (t : Timeline α) :
    List Nat → Render α σ (List String)
  | [] => pure []
  | f :: fs => do
    let path ← job.renderFrame d t f
    pure (path.toList ++ (← job.renderFrames d t fs))

/-- The frames of a run, from a new stack and an empty canvas. -/
def renderAll (job : Job α σ) (d : Directives) (t : Timeline α) : Render α σ Report := do
  Render.reset
  modify fun s => { s with saved := #[] }
  let paths ← job.renderFrames d t (List.range d.frames.toNat)
  let saved ← modifyGet fun s => (s.saved.toList, s)
  pure { frames := d.frames, basename := d.basename, framePaths := paths, savedPaths := saved }

/-- The first two passes: the directives and the timeline. -/
def prepare (job : Job α σ) : Render α σ (Directives × Timeline α) := do
  let d ← Render.scan job.operations
  Render.note (Timeline.notes job.operations d.frames)
  let t ← ofExcept (Timeline.ofOperations job.operations d.frames)
  pure (d, t)

/-- Runs a script. -/
def run (job : Job α σ) : Render α σ Report := do
  let (d, t) ← job.prepare
  Render.note [.knobTable (← modifyGet fun s => (s.knobs, s))]
  let report ← job.renderAll d t
  if d.isAnimated then
    let directory ← job.framesDirectory
    let path ← Render.ask (job.output.assemble
      ⟨d.basename, report.framePaths, directory, job.settings.frameDuration⟩)
    pure { report with animation := some path }
  else pure report

end Job

end SceneScript
