import SceneScript.Scalar

/-!
# Points and directions

Vectors of three coordinates for scenes and of four for homogeneous points. Sums of products are
taken from left to right.
-/

namespace SceneScript

/-- A point or a direction of space. -/
structure Vec3 (α : Type) where
  x : α
  y : α
  z : α
  deriving Repr, DecidableEq, Inhabited

/-- A homogeneous point, or a row of a transform. -/
structure Vec4 (α : Type) where
  x : α
  y : α
  z : α
  w : α
  deriving Repr, DecidableEq, Inhabited

variable {α : Type} [Scalar α]

namespace Vec3

/-- The difference of two points. -/
@[inline] def sub (a b : Vec3 α) : Vec3 α := ⟨a.x - b.x, a.y - b.y, a.z - b.z⟩

/-- A direction multiplied by a factor. -/
@[inline] def scale (v : Vec3 α) (k : α) : Vec3 α := ⟨v.x * k, v.y * k, v.z * k⟩

/-- The scalar product. -/
@[inline] def dot (a b : Vec3 α) : α := a.x * b.x + a.y * b.y + a.z * b.z

/-- The vector product. -/
@[inline] def cross (a b : Vec3 α) : Vec3 α :=
  ⟨a.y * b.z - a.z * b.y, a.z * b.x - a.x * b.z, a.x * b.y - a.y * b.x⟩

/-- The homogeneous point at a point of space. -/
@[inline] def homogeneous (p : Vec3 α) : Vec4 α := ⟨p.x, p.y, p.z, 1⟩

/-- The coordinates in order. -/
def toList {β : Type} (v : Vec3 β) : List β := [v.x, v.y, v.z]

/-- A function of each coordinate. -/
@[inline] def map {β γ : Type} (f : β → γ) (v : Vec3 β) : Vec3 γ := ⟨f v.x, f v.y, f v.z⟩

/-- The normal of the triangle with the given corners, as long as twice its area. It points to where
the corners are seen in counter-clockwise order. -/
@[inline] def normal (a b c : Vec3 α) : Vec3 α := cross (b.sub a) (c.sub a)

end Vec3

namespace Vec4

/-- The scalar product. -/
@[inline] def dot (a b : Vec4 α) : α := a.x * b.x + a.y * b.y + a.z * b.z + a.w * b.w

/-- The point of space that a homogeneous point of an affine scene stands for: its first three
coordinates. -/
@[inline] def point {β : Type} (p : Vec4 β) : Vec3 β := ⟨p.x, p.y, p.z⟩

/-- The coordinates in order. -/
def toList {β : Type} (v : Vec4 β) : List β := [v.x, v.y, v.z, v.w]

end Vec4

end SceneScript
