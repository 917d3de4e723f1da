import SceneScript.Output.Basic
import SceneScript.Storage.FileSystem

/-!
# The disk as an output

Pictures go to files whose extension says the format. The directory of a file is made if it is
missing. An animation is assembled from pictures that are read back from their files.
-/

namespace SceneScript.Disk

/-- The extension of a path in lower case. -/
def extension (path : String) : String := Text.lower (Path.extension path)

/-- What goes into the file of a picture, or the fault of a picture that its format refuses, and
what is left in the file then. -/
def contentOf (p : Picture) (path : String) (coder : Coder) :
    Except (Fault × ByteArray) Content :=
  match coder.check path p with
  | .ok () => .ok (if coder = .gif then .animation (Gif.shots [p] 0) else .picture path coder p)
  | .error fault => .error (fault, coder.left path p fault)

/-- Writes a picture in the format of its extension. A format that is never written is refused
before the file is opened. -/
def writePicture [Guard] (fs : FileSystem) (p : Picture) (path : String) :
    Except Fault Unit × FileSystem :=
  match ImageFormat.ofExtension? (extension path) with
  | none => (.error (.unknownFormat (extension path)), fs)
  | some format =>
    match format.support with
    | .read => (.error (.readOnlyFormat format.name), fs)
    | .refused why => fs.fill path (.error (why, .empty))
    | .written coder => fs.fill path (contentOf p path coder)

/-- Stores a picture. -/
def save [Guard] (p : Picture) (path : String) (fs : FileSystem) : Reply FileSystem String :=
  let directory := Path.directory path
  let (made, fs) := if directory.isEmpty then (.ok (), fs) else fs.makeDirectories directory
  match made with
  | .error fault => ⟨.error fault, fs, []⟩
  | .ok () =>
    match writePicture fs p path with
    | (.ok (), fs) => ⟨.ok path, fs, [.image path]⟩
    | (.error fault, fs) => ⟨.error fault, fs, []⟩

/-- The picture in a file. -/
def open? [Guard] (fs : FileSystem) (path : String) : Except Fault Picture := do
  match (← fs.read path).picture? with
  | .ok (some p) => pure p
  | .ok none => throw (.notAnImage path)
  | .error why => throw (.badImage why)

/-- The shots of an animation, whose frames are read, if its path has the extension of one. -/
def shotsOf [Guard] (fs : FileSystem) (a : Assembly) : Except Fault (List Shot) := do
  let frames ← a.frames.mapM (open? fs)
  if (ImageFormat.ofExtension? (extension a.path)).isNone then
    throw (.unknownFormat (extension a.path))
  pure (Gif.shots frames a.duration)

/-- Reads the frames of an animation and writes it. It is as large as its first frame. -/
def writeAnimation [Guard] (fs : FileSystem) (a : Assembly) : Except Fault Unit × FileSystem :=
  match shotsOf fs a with
  | .error fault => (.error fault, fs)
  | .ok shots =>
    match Gif.check shots with
    | .ok () => fs.fill a.path (.ok (.animation shots))
    | .error fault => fs.fill a.path (.error (fault, .empty))

/-- Makes an animation. There must be a frame, and the directory of the animation is made before the
frames are read. -/
def assemble [Guard] (a : Assembly) (fs : FileSystem) : Reply FileSystem String :=
  if a.frames.isEmpty then ⟨.error .noFrames, fs, []⟩
  else
    let (made, fs) := fs.makeDirectories a.directory
    match made with
    | .error fault => ⟨.error fault, fs, []⟩
    | .ok () =>
      match writeAnimation fs a with
      | (.ok (), fs) => ⟨.ok a.path, fs, [.animation a.frames.length a.path]⟩
      | (.error fault, fs) => ⟨.error fault, fs, []⟩

/-- Shows a picture on no screen. It must have pixels. -/
def display (p : Picture) (fs : FileSystem) : Reply FileSystem Unit :=
  ⟨if p.width = 0 ∨ p.height = 0 then .error .nothingToShow else .ok (), fs, []⟩

/-- The disk. -/
def output [Guard] : Output FileSystem where
  save := save
  display := display
  assemble := assemble

end SceneScript.Disk
