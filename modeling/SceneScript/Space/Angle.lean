import SceneScript.Fault
import SceneScript.Space.Transform

/-!
# Angles

Where the cosine and the sine of an angle come from. A scene needs them for a rotation by an angle
in degrees and for the points of a circle cut into equal parts. `Trig` holds these three; nothing
else of the angle is used, so that a statement about scenes can be made for every pair of functions
that has the properties it needs.
-/

namespace SceneScript

/-- The cosines and sines that scenes are computed with, each as a pair. -/
class Trig (α : Type) where
  /-- Of an angle in degrees. -/
  degrees : α → Except Fault (α × α)
  /-- Of the given number of parts of a full turn that is cut into `parts`. -/
  ofTurn (parts count : Nat) : α × α
  /-- Of the given number of parts of a half turn that is cut into `parts`. -/
  ofHalfTurn (parts count : Nat) : α × α

namespace Angle

/-- The double nearest to the ratio of a circle's circumference to its diameter. -/
def pi : Float := 3.141592653589793

/-- The cosine and the sine of an angle in radians. An infinite angle has none. -/
def ofRadians (x : Float) : Except Fault (Float × Float) :=
  if x.isInf then .error .angleNotFinite else .ok (x.cos, x.sin)

/-- The rotation about the axis with the given number. The angle is looked at before the axis. -/
def rotationOfCode (code : Int) (radians : Float) : Except Fault (Transform Float) := do
  let (c, s) ← ofRadians radians
  match Axis.ofCode? code with
  | some axis => .ok (.rotation axis c s)
  | none => .error (.noSuchAxis code)

end Angle

/-- Double precision. -/
instance : Trig Float where
  degrees x := Angle.ofRadians (x * (Angle.pi / 180.0))
  ofTurn parts count :=
    let angle := 2.0 * Angle.pi * Float.ofNat count / Float.ofNat parts
    (angle.cos, angle.sin)
  ofHalfTurn parts count :=
    let angle := Angle.pi * Float.ofNat count / Float.ofNat parts
    (angle.cos, angle.sin)

/-- The rotation about an axis by an angle in degrees. -/
def Transform.rotationByDegrees {α : Type} [Scalar α] [Trig α] (axis : Axis) (angle : α) :
    Except Fault (Transform α) :=
  (Trig.degrees angle).map fun (c, s) => .rotation axis c s

end SceneScript
