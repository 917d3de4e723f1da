import SceneScript.Animation.Ramp
import SceneScript.Script.FrameCount
import SceneScript.Space.Transform

/-!
# Operations

A compiled script is a list of operations, one for each command that draws, moves the coordinate
system, writes a picture or directs the animation.
-/

namespace SceneScript

/-- One step of a scene. -/
inductive Operation (α : Type)
  | push
  | pop
  | move (offset : Vec3 α) (knob : Option String)
  | scale (factors : Vec3 α) (knob : Option String)
  | rotate (axis : Axis) (degrees : α) (knob : Option String)
  | box (corner size : Vec3 α)
  | sphere (centre : Vec3 α) (radius : α)
  | torus (centre : Vec3 α) (tube ring : α)
  | line (start stop : Vec3 α)
  | save (file : String)
  | display
  | frames (count : FrameCount)
  | basename (name : String)
  | vary (ramp : Ramp α)
  deriving Repr, Inhabited

namespace Operation

variable {α : Type}

/-- The frame count that an operation gives, if it gives one. -/
def frameCount? : Operation α → Option FrameCount
  | frames count => some count
  | _ => none

/-- The name of the frames' files that an operation gives, if it gives one. -/
def basename? : Operation α → Option String
  | basename name => some name
  | _ => none

/-- The ramp that an operation is, if it is one. -/
def ramp? : Operation α → Option (Ramp α)
  | vary ramp => some ramp
  | _ => none

/-- The file that an operation saves a picture to, if it saves one. -/
def file? : Operation α → Option String
  | save file => some file
  | _ => none

/-- Whether an operation directs the animation. The others act on every frame. -/
def isDirective : Operation α → Bool
  | frames _ | basename _ | vary _ => true
  | _ => false

end Operation

end SceneScript
