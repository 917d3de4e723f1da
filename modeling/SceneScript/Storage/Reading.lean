import SceneScript.Fault
import SceneScript.Storage.Bytes

/-!
# Reading pictures

A reader of a format answers with nothing if the data are not of its format, and with a picture or
a fault if they are (`Reading`). Its steps are attempts: each may find that the data are foreign to
the format, or that they are faulty.
-/

namespace SceneScript

/-- What a reader makes of data. -/
abbrev Reading := Except ImageFault (Option Picture)

/-- A step of a reader, which has no result if the data are foreign to the format. -/
abbrev Attempt (α : Type) := OptionT (Except ImageFault) α

namespace Attempt

/-- Finds that data are foreign to the format. -/
def foreign {α : Type} : Attempt α := OptionT.mk (.ok none)

/-- Finds that data are faulty. -/
def fault {α : Type} (why : ImageFault) : Attempt α := OptionT.mk (.error why)

/-- Finds that data are foreign to the format unless something holds. -/
def require (holds : Bool) : Attempt Unit := if holds then pure () else foreign

/-- Finds that data are faulty unless something holds. -/
def insist (holds : Bool) (why : ImageFault) : Attempt Unit :=
  if holds then pure () else fault why

/-- A step that knows that data are of the format. -/
def lift {α : Type} (r : Except ImageFault α) : Attempt α := OptionT.mk (r.map some)

/-- The value that is there, if data are not foreign to the format. -/
def ofOption {α : Type} (a : Option α) : Attempt α := OptionT.mk (.ok a)

end Attempt

/-- The largest number of pixels that are read. -/
def pixelLimit : Nat := 178956970

/-- Whether a picture of the given size may be read. -/
def checkPixels (width height : Nat) : Except ImageFault Unit :=
  if pixelLimit < width * height then .error (.tooManyPixels (width * height) pixelLimit)
  else .ok ()

/-- Whether data that describe a picture of the given size are of a format and may be read. -/
def Attempt.size (width height : Nat) : Attempt Unit := do
  require (width != 0 && height != 0)
  lift (checkPixels width height)

/-- A picture that is read, if it is not too large for that. -/
def Picture.checked (p : Picture) : Reading := (checkPixels p.width p.height).map fun _ => some p

end SceneScript
