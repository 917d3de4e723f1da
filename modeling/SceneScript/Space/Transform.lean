import SceneScript.Space.Vec

/-!
# Transforms

Homogeneous transforms of space, four rows of four. They act on points written as columns, so in
`a.compose b` the transform `b` is applied first. Translations, scalings and rotations about the
axes are what a script can name; a rotation is given by the cosine and the sine of its angle.
-/

namespace SceneScript

/-- An axis of rotation. -/
inductive Axis
  | x | y | z
  deriving Repr, DecidableEq, Inhabited

namespace Axis

/-- The axis in a log record. -/
def name : Axis → String
  | x => "X"
  | y => "Y"
  | z => "Z"

/-- The number that stands for an axis in an operation list. -/
def code : Axis → Int
  | x => 0
  | y => 1
  | z => 2

/-- The axis with the given number. -/
def ofCode? (code : Int) : Option Axis :=
  if code = 0 then some x else if code = 1 then some y else if code = 2 then some z else none

end Axis

/-- A homogeneous transform, by rows. -/
structure Transform (α : Type) where
  row₁ : Vec4 α
  row₂ : Vec4 α
  row₃ : Vec4 α
  row₄ : Vec4 α
  deriving Repr, DecidableEq, Inhabited

namespace Transform

variable {α : Type} [Scalar α]

/-- The rows from the top. -/
def rows {β : Type} (m : Transform β) : List (Vec4 β) := [m.row₁, m.row₂, m.row₃, m.row₄]

/-- The transform that moves nothing. -/
def identity : Transform α :=
  ⟨⟨1, 0, 0, 0⟩, ⟨0, 1, 0, 0⟩, ⟨0, 0, 1, 0⟩, ⟨0, 0, 0, 1⟩⟩

/-- The transform that moves every point by the given offset. -/
def translation (v : Vec3 α) : Transform α :=
  ⟨⟨1, 0, 0, v.x⟩, ⟨0, 1, 0, v.y⟩, ⟨0, 0, 1, v.z⟩, ⟨0, 0, 0, 1⟩⟩

/-- The transform that multiplies each coordinate by its factor. -/
def scaling (v : Vec3 α) : Transform α :=
  ⟨⟨v.x, 0, 0, 0⟩, ⟨0, v.y, 0, 0⟩, ⟨0, 0, v.z, 0⟩, ⟨0, 0, 0, 1⟩⟩

/-- The rotation about an axis by the angle with the given cosine and sine, counter-clockwise when
one looks from the axis to the origin. -/
def rotation (axis : Axis) (c s : α) : Transform α :=
  match axis with
  | .x => ⟨⟨1, 0, 0, 0⟩, ⟨0, c, -s, 0⟩, ⟨0, s, c, 0⟩, ⟨0, 0, 0, 1⟩⟩
  | .y => ⟨⟨c, 0, s, 0⟩, ⟨0, 1, 0, 0⟩, ⟨-s, 0, c, 0⟩, ⟨0, 0, 0, 1⟩⟩
  | .z => ⟨⟨c, -s, 0, 0⟩, ⟨s, c, 0, 0⟩, ⟨0, 0, 1, 0⟩, ⟨0, 0, 0, 1⟩⟩

/-- The image of a homogeneous point. -/
@[specialize] def apply (m : Transform α) (p : Vec4 α) : Vec4 α :=
  ⟨m.row₁.dot p, m.row₂.dot p, m.row₃.dot p, m.row₄.dot p⟩

/-- The first column. -/
def column₁ {β : Type} (m : Transform β) : Vec4 β := ⟨m.row₁.x, m.row₂.x, m.row₃.x, m.row₄.x⟩

/-- The second column. -/
def column₂ {β : Type} (m : Transform β) : Vec4 β := ⟨m.row₁.y, m.row₂.y, m.row₃.y, m.row₄.y⟩

/-- The third column. -/
def column₃ {β : Type} (m : Transform β) : Vec4 β := ⟨m.row₁.z, m.row₂.z, m.row₃.z, m.row₄.z⟩

/-- The last column. -/
def column₄ {β : Type} (m : Transform β) : Vec4 β := ⟨m.row₁.w, m.row₂.w, m.row₃.w, m.row₄.w⟩

/-- One row of a product. -/
def composeRow (row : Vec4 α) (b : Transform α) : Vec4 α :=
  ⟨row.dot b.column₁, row.dot b.column₂, row.dot b.column₃, row.dot b.column₄⟩

/-- The transform that applies `b` and then `a`. -/
def compose (a b : Transform α) : Transform α :=
  ⟨composeRow a.row₁ b, composeRow a.row₂ b, composeRow a.row₃ b, composeRow a.row₄ b⟩

end Transform

end SceneScript
