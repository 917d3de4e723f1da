import SceneScript.Room
import SceneScript.Space.Angle
import SceneScript.Space.Geometry

/-!
# Solids

The surfaces of a box, a sphere and a torus as meshes. Each is given twice over: its faces are
triples of labels of corners (`Box.faces`, `Sphere.faces`, `Torus.faces`), and the labels have
positions (`Box.position`, `Sphere.position`, `Torus.position`). The faces say how the surface
closes, whatever the positions are.

Spheres and tori are made of a grid of points. `Sphere.grid` and `Torus.grid` are its sizes, if
there is room for it.
-/

namespace SceneScript

variable {α : Type} [Scalar α]

/-- The mesh of labelled faces whose labels have the given positions. -/
def Mesh.ofFaces {β : Type} (faces : List (β × β × β)) (position : β → Vec3 α) : Mesh α :=
  ⟨(corners faces).map position⟩

/-- The rows and columns of a grid of points at evenly spaced angles, if there is room for it. -/
def gridOf [Machine] (rows columns : Int) : Except Fault (Nat × Nat) := do
  let n ← spacedCount rows "int64"
  let m ← spacedCount columns "int64"
  Block.check ⟨[n, m], 8, "float64"⟩
  pure (n, m)

/-- The number of rows of a grid that a solid is made of. A grid that ought to have rows must have
them. -/
def rowsOf (step : Int) (grid : Except Fault (Nat × Nat)) : Except Fault Nat := do
  let (n, _) ← grid
  if n = 0 ∧ 0 < step then throw (.outOfBounds 0 0 0)
  pure n

/-! ## Boxes -/

namespace Box

/-- A corner of a box, by the sides that meet in it. -/
structure Corner where
  right : Bool
  low : Bool
  back : Bool
  deriving Repr, DecidableEq

/-- The corner of a box opposite to its left upper front corner. -/
def opposite (corner size : Vec3 α) : Vec3 α :=
  ⟨corner.x + size.x, corner.y - size.y, corner.z - size.z⟩

/-- The place of a corner, given the left upper front corner and the sides. -/
def position (corner size : Vec3 α) (c : Corner) : Vec3 α :=
  let far := opposite corner size
  ⟨if c.right then far.x else corner.x, if c.low then far.y else corner.y,
    if c.back then far.z else corner.z⟩

/-- The front, the back, the right, the left, the upper and the lower side. -/
def sides : List (Corner × Corner × Corner × Corner) := [
  (⟨false, false, false⟩, ⟨false, true, false⟩, ⟨true, true, false⟩, ⟨true, false, false⟩),
  (⟨true, false, true⟩, ⟨true, true, true⟩, ⟨false, true, true⟩, ⟨false, false, true⟩),
  (⟨true, false, false⟩, ⟨true, true, false⟩, ⟨true, true, true⟩, ⟨true, false, true⟩),
  (⟨false, false, true⟩, ⟨false, true, true⟩, ⟨false, true, false⟩, ⟨false, false, false⟩),
  (⟨false, false, true⟩, ⟨false, false, false⟩, ⟨true, false, false⟩, ⟨true, false, true⟩),
  (⟨false, true, false⟩, ⟨false, true, true⟩, ⟨true, true, true⟩, ⟨true, true, false⟩)]

/-- The two triangles of each side. -/
def faces : List (Corner × Corner × Corner) :=
  sides.flatMap fun (a, b, c, d) => quad a b c d

/-- The box with the given left upper front corner, width, height and depth. -/
def mesh (corner size : Vec3 α) : Mesh α := .ofFaces faces (position corner size)

end Box

/-! ## Spheres -/

namespace Sphere

/-- The point at a place of a meridian. The meridians are half circles from pole to pole along the
x axis, rotated about it. -/
def position [Trig α] (centre : Vec3 α) (radius : α) (n : Nat) (place : Nat × Nat) : Vec3 α :=
  let (cosPhi, sinPhi) := Trig.ofTurn n place.1
  let (cosTheta, sinTheta) := Trig.ofHalfTurn n place.2
  ⟨radius * cosTheta + centre.x, radius * sinTheta * cosPhi + centre.y,
    radius * sinTheta * sinPhi + centre.z⟩

/-- The triangles between the places `j` and `j + 1` of the meridians `i` and the next one. The
first and the last band end in a pole and have one triangle. -/
def band (n i j : Nat) : List ((Nat × Nat) × (Nat × Nat) × (Nat × Nat)) :=
  let next := (i + 1) % n
  (if j ≠ 0 then [((i, j), (i, j + 1), (next, j))] else []) ++
  (if j ≠ n - 1 then [((i, j + 1), (next, j + 1), (next, j))] else [])

/-- The triangles of a sphere of `n` meridians with `n` bands. -/
def faces (n : Nat) : List ((Nat × Nat) × (Nat × Nat) × (Nat × Nat)) :=
  (List.range n).flatMap fun i => (List.range n).flatMap fun j => band n i j

/-- The sphere with the given centre and radius, of `n` meridians. -/
def mesh [Trig α] (centre : Vec3 α) (radius : α) (n : Nat) : Mesh α :=
  .ofFaces (faces n) (position centre radius n)

/-- The number of meridians of a sphere and of the places on each. -/
def grid [Machine] (step : Int) : Except Fault (Nat × Nat) := gridOf step (step + 1)

/-- The sphere with a number of meridians that may be too large, or negative for none. -/
def ofStep [Machine] [Trig α] (centre : Vec3 α) (radius : α) (step : Int) : Except Fault (Mesh α) :=
  (rowsOf step (grid step)).map (mesh centre radius)

end Sphere

/-! ## Tori -/

namespace Torus

/-- The point at a place of a ring. The rings are circles of radius `tube` around a circle of radius
`ring` about the y axis. -/
def position [Trig α] (centre : Vec3 α) (tube ring : α) (n : Nat) (place : Nat × Nat) : Vec3 α :=
  let (cosPhi, sinPhi) := Trig.ofTurn n place.1
  let (cosTheta, sinTheta) := Trig.ofTurn n place.2
  let distance := tube * cosTheta + ring
  ⟨cosPhi * distance + centre.x, tube * sinTheta + centre.y, -sinPhi * distance + centre.z⟩

/-- The two triangles between the places `j` and the next one of the rings `i` and the next one. -/
def patch (n i j : Nat) : List ((Nat × Nat) × (Nat × Nat) × (Nat × Nat)) :=
  let next := (i + 1) % n
  let up := (j + 1) % n
  [((i, j), (next, j), (i, up)), ((i, up), (next, j), (next, up))]

/-- The triangles of a torus of `n` rings of `n` places. -/
def faces (n : Nat) : List ((Nat × Nat) × (Nat × Nat) × (Nat × Nat)) :=
  (List.range n).flatMap fun i => (List.range n).flatMap fun j => patch n i j

/-- The torus with the given centre and radii, of `n` rings. -/
def mesh [Trig α] (centre : Vec3 α) (tube ring : α) (n : Nat) : Mesh α :=
  .ofFaces (faces n) (position centre tube ring n)

/-- The number of rings of a torus and of the places on each. -/
def grid [Machine] (step : Int) : Except Fault (Nat × Nat) := gridOf step step

/-- The torus with a number of rings that may be too large, or negative for none. -/
def ofStep [Machine] [Trig α] (centre : Vec3 α) (tube ring : α) (step : Int) :
    Except Fault (Mesh α) :=
  (rowsOf step (grid step)).map (mesh centre tube ring)

end Torus

end SceneScript
