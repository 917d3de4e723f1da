import SceneScript.Raster.Segment
import SceneScript.Raster.Triangle

/-!
# Drawing geometry

A drawing of transformed points is the fragments it gives and how it ends: with the number of items
drawn, or with a fault. Triangles that face away from the viewer are left out. The colour of a
triangle comes from its normal; if there is none the drawing stops there, and what was drawn before
stays. So it does at a coordinate that stands for no cell.
-/

namespace SceneScript

/-- How the sides of solids look: where the viewer is, and the colour of a side with a given normal.
-/
structure Surface (α : Type) where
  view : Vec3 α
  shade : Vec3 α → Except Fault Rgb

/-- What is drawn of some points. -/
structure Drawing (α : Type) where
  fragments : List (Fragment α)
  outcome : Except Fault Nat

namespace Drawing

variable {α : Type}

/-- Nothing is drawn. -/
def empty : Drawing α := ⟨[], .ok 0⟩

/-- One more item in front of a drawing, which is not made behind the fault of the item. -/
@[inline] def cons (s : Stroke α) (d : Drawing α) : Drawing α :=
  match s.fault? with
  | some fault => ⟨s.fragments, .error fault⟩
  | none => ⟨s.fragments ++ d.fragments, d.outcome.map (· + 1)⟩

end Drawing

variable {α : Type} [Scalar α]

/-- Whether a triangle with the given normal faces the viewer. -/
@[inline] def Surface.faces (s : Surface α) (normal : Vec3 α) : Bool :=
  !decide (normal.dot s.view ≤ 0)

/-- The drawing of triangles: every three points are one, and the rest of them none. -/
@[specialize] def drawTriangles (e : Extent) (s : Surface α) : List (Vec4 α) → Drawing α
  | p :: q :: r :: rest =>
    let (a, b, c) := (p.point, q.point, r.point)
    let normal := Vec3.normal a b c
    if s.faces normal then
      match s.shade normal with
      | .error fault => ⟨[], .error fault⟩
      | .ok colour => .cons (Triangle.stroke e colour a b c) (drawTriangles e s rest)
    else drawTriangles e s rest
  | _ => .empty

/-- The drawing of line segments in one colour: every two points are one, and the rest of them
none. -/
@[specialize] def drawSegments (e : Extent) (colour : Rgb) : List (Vec4 α) → Drawing α
  | p :: q :: rest =>
    .cons (Segment.stroke e colour p.point q.point) (drawSegments e colour rest)
  | _ => .empty

/-- The drawing of line segments in a colour that is given by its parts. They are not looked at
before there is a segment. -/
@[specialize] def drawInked (e : Extent) (ink : Rgb.Parts) : List (Vec4 α) → Drawing α
  | p :: q :: rest =>
    match ink.ink with
    | .ok colour => drawSegments e colour (p :: q :: rest)
    | .error fault => ⟨[], .error fault⟩
  | _ => .empty

end SceneScript
