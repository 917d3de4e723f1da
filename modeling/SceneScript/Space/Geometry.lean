import SceneScript.Space.Transform

/-!
# Geometry

Points in the order in which they are drawn, `k` to an item: three to a triangle, two to an edge.
Points after the last whole item belong to none.
-/

namespace SceneScript

/-- Points of which every `k` are an item. -/
structure Geometry (α : Type) (k : Nat) where
  points : List (Vec3 α)
  deriving Repr, DecidableEq

/-- Triangles, their corners counter-clockwise when seen from outside the solid. -/
abbrev Mesh (α : Type) := Geometry α 3

/-- Line segments. -/
abbrev Edges (α : Type) := Geometry α 2

namespace Geometry

variable {α : Type} {k : Nat}

/-- No points. -/
def empty : Geometry α k := ⟨[]⟩

/-- The number of whole items. -/
def items (g : Geometry α k) : Nat := g.points.length / k

/-- More points at the end. -/
def append (g : Geometry α k) (ps : List (Vec3 α)) : Geometry α k := ⟨g.points ++ ps⟩

/-- The homogeneous points of a geometry in another coordinate system. -/
def transformed [Scalar α] (g : Geometry α k) (m : Transform α) : List (Vec4 α) :=
  g.points.map fun p => m.apply p.homogeneous

end Geometry

/-- The corners of the two triangles of a planar quadrilateral, which is given counter-clockwise. -/
def quad {β : Type} (a b c d : β) : List (β × β × β) := [(a, b, c), (a, c, d)]

/-- The corners of triangles in drawing order. -/
def corners {β : Type} (triangles : List (β × β × β)) : List β :=
  triangles.flatMap fun (a, b, c) => [a, b, c]

/-- One segment. -/
def Edges.segment {α : Type} (p q : Vec3 α) : Edges α := ⟨[p, q]⟩

end SceneScript
