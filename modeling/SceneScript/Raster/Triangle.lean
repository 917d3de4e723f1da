import SceneScript.Raster.Canvas
import SceneScript.Space.Vec

/-!
# Filling triangles

A triangle is filled row by row, from the lowest row of the screen that it reaches to the highest,
and each row from the left to the right. A row lies between the long edge, from the lowest corner
to the highest, and one of the two short edges, which meet in the middle corner. Cells whose
centres lie on an edge belong to the triangle. The depth runs linearly along the edges and between
them.

The rows and columns to visit are bounded by the canvas before they become cells, the first one from
below (`firstCell`) and the last one from above (`lastCell`), so a triangle of any size costs no more
than the screen. A bound that stands for no cell ends the filling (`cellsFault?`).
-/

namespace SceneScript

variable {α : Type} [Scalar α]

/-- The first cell at or after `lo` that is on the canvas, as a scalar. -/
@[inline] def firstCell (lo : α) : α := Scalar.larger (Scalar.ceil lo) 0

/-- The last cell at or before `hi` of a canvas with `n` cells in a line, as a scalar. -/
@[inline] def lastCell (hi : α) (n : Nat) : α :=
  Scalar.smaller (Scalar.floor hi) (((n : Int) - 1 : Int) : α)

/-- The integers from `a` to `b`. -/
def integersFrom (a b : Int) : List Int :=
  (List.range (b + 1 - a).toNat).map fun (i : Nat) => a + i

/-- The cells from `lo` to `hi` of a line of `n` cells. -/
@[inline] def cellsBetween (lo hi : α) (n : Nat) : List Int :=
  integersFrom (Scalar.toCell (firstCell lo)) (Scalar.toCell (lastCell hi n))

/-- What is wrong with the cells from `lo` to `hi`: the first of them is looked at first. -/
@[inline] def cellsFault? (lo hi : α) (n : Nat) : Option Fault :=
  (Scalar.cellFault? (firstCell lo)).or (Scalar.cellFault? (lastCell hi n))

namespace Triangle

/-- The corners from the lowest to the highest. Corners of one height keep their order. -/
@[inline] def byHeight (a b c : Vec3 α) : Vec3 α × Vec3 α × Vec3 α :=
  let (a, b) := if b.y < a.y then (b, a) else (a, b)
  if c.y < b.y then
    if c.y < a.y then (c, a, b) else (a, c, b)
  else (a, b, c)

/-- The x coordinate and the depth of the edge from `p` to `q` at the height `y`. -/
@[inline] def edgeAt (p q : Vec3 α) (y : α) : α × α :=
  let t := (y - p.y) / (q.y - p.y)
  (p.x + t * (q.x - p.x), p.z + t * (q.z - p.z))

/-- The x coordinate and the depth of the short edges at the height `y`, given the middle corner and
its neighbours. Where the upper one is level it is the middle corner. -/
@[inline] def shortEdgesAt (low mid high : Vec3 α) (y : α) : α × α :=
  if y < mid.y then edgeAt low mid y
  else if mid.y < high.y then edgeAt mid high y
  else (mid.x, mid.z)

/-- The depth at `x` of a row from `(xa, za)` to `(xb, zb)`, the nearer end of a row that is a
point. -/
@[inline] def depthAt (xa za xb zb x : α) : α :=
  if 0 < xb - xa then za + (x - xa) / (xb - xa) * (zb - za)
  else if zb < za then za else zb

/-- What is drawn of a row between two points of it, in either order. -/
@[specialize] def span (width : Nat) (colour : Rgb) (row : Int) (p q : α × α) : Stroke α :=
  let (a, b) := if q.1 < p.1 then (q, p) else (p, q)
  .checked (cellsFault? a.1 b.1 width) ⟨(cellsBetween a.1 b.1 width).map fun column =>
    ⟨column, row, depthAt a.1 a.2 b.1 b.2 ((column : Int) : α), colour⟩, none⟩

/-- What is drawn of a triangle on a canvas. A triangle without height is not filled. -/
@[specialize] def stroke (e : Extent) (colour : Rgb) (a b c : Vec3 α) : Stroke α :=
  let (low, mid, high) := byHeight a b c
  if high.y == low.y then .empty
  else .checked (cellsFault? low.y high.y e.height) (.forEach (fun row =>
    let y : α := ((row : Int) : α)
    span e.width colour row (edgeAt low high y) (shortEdgesAt low mid high y))
      (cellsBetween low.y high.y e.height))

/-- The fragments of a triangle on a canvas. -/
def fragments (e : Extent) (colour : Rgb) (a b c : Vec3 α) : List (Fragment α) :=
  (stroke e colour a b c).fragments

end Triangle

end SceneScript
