import SceneScript.Raster.Rgb
import SceneScript.Room
import SceneScript.Scalar

/-!
# The canvas

A canvas has a colour and a depth in each of its cells. Cells have the coordinates of the screen:
`x` grows to the right and `y` upwards, and a larger depth is nearer to the viewer. A cell in
which nothing has been drawn has no depth.

What is drawn is a sequence of fragments. `Canvas.plot` lets a fragment into its cell if it is
nearer than what the cell holds, so of the fragments of one cell the first of the nearest stays. The
fragments of an item (`Stroke`) may end early, at a number that stands for no cell.
-/

namespace SceneScript

/-- The number of columns and rows of a canvas. -/
structure Extent where
  width : Nat
  height : Nat
  deriving Repr, DecidableEq, Inhabited

/-- A point of a drawn item that falls on a cell. -/
structure Fragment (α : Type) where
  x : Int
  y : Int
  z : α
  colour : Rgb
  deriving Repr, DecidableEq, Inhabited

/-- What is drawn of an item: its fragments, in order, and the fault at which they end if a number
on the way stands for no cell. -/
structure Stroke (α : Type) where
  fragments : List (Fragment α)
  fault? : Option Fault := none
  deriving Repr, Inhabited

/-- Colours and depths, row by row from the bottom of the screen. -/
structure Canvas (α : Type) where
  extent : Extent
  background : Rgb
  colours : Vector Rgb (extent.width * extent.height)
  depths : Vector (Option α) (extent.width * extent.height)

namespace Extent

/-- The number of cells. -/
def cells (e : Extent) : Nat := e.width * e.height

/-- The place of a cell in the rows of a canvas, if it is one. -/
def index? (e : Extent) (x y : Int) : Option (Fin (e.width * e.height)) :=
  if h : 0 ≤ x ∧ x < e.width ∧ 0 ≤ y ∧ y < e.height then
    some ⟨y.toNat * e.width + x.toNat, by
      obtain ⟨hx, hx', hy, hy'⟩ := h
      have hr : y.toNat + 1 ≤ e.height := by omega
      have hm := Nat.mul_le_mul_right e.width hr
      have hc : x.toNat < e.width := by omega
      rw [Nat.add_mul, Nat.one_mul] at hm
      rw [Nat.mul_comm e.width e.height]
      omega⟩
  else none

end Extent

namespace Stroke

variable {α β : Type}

/-- Nothing is drawn. -/
def empty : Stroke α := ⟨[], none⟩

/-- What is drawn if there is no fault in front of it. -/
@[inline] def checked (fault? : Option Fault) (s : Stroke α) : Stroke α :=
  match fault? with
  | some fault => ⟨[], some fault⟩
  | none => s

/-- What is drawn for the elements of a list, one after another, up to the first fault. -/
@[specialize] def forEach (f : β → Stroke α) : List β → Stroke α
  | [] => empty
  | x :: xs =>
    match f x with
    | ⟨fs, some fault⟩ => ⟨fs, some fault⟩
    | ⟨fs, none⟩ =>
      let rest := forEach f xs
      ⟨fs ++ rest.fragments, rest.fault?⟩

end Stroke

namespace Canvas

variable {α : Type}

/-- The canvas without a drawing. -/
def blank (extent : Extent) (background : Rgb) : Canvas α :=
  ⟨extent, background, .replicate _ background, .replicate _ none⟩

/-- The canvas of the given size and background, if there is room for its colours and depths. -/
def create [Machine] (width height : Int) (background : Rgb.Parts) : Except Fault (Canvas α) := do
  Block.check ⟨[height, width, 3], 1, "uint8"⟩
  Block.check ⟨[height, width], 8, "float64"⟩
  pure (blank ⟨width.toNat, height.toNat⟩ (← background.fill))

/-- The canvas with every cell in the background colour. The depths stay. -/
def clearColours (c : Canvas α) : Canvas α := { c with colours := .replicate _ c.background }

/-- The canvas with no depth in any cell. The colours stay. -/
def clearDepths (c : Canvas α) : Canvas α := { c with depths := .replicate _ none }

/-- The canvas without its drawing. -/
def clear (c : Canvas α) : Canvas α := c.clearColours.clearDepths

/-- Whether a fragment of depth `z` is nearer than a cell with the given depth. -/
@[inline] def nearer [Scalar α] (depth : Option α) (z : α) : Bool :=
  match depth with
  | none => Scalar.isDepth z
  | some d => decide (d < z)

/-- Lets a fragment into its cell. -/
@[specialize] def plot [Scalar α] (c : Canvas α) (f : Fragment α) : Canvas α :=
  match c.extent.index? f.x f.y with
  | none => c
  | some i =>
    if nearer c.depths[i] f.z then
      { c with colours := c.colours.set i f.colour, depths := c.depths.set i (some f.z) }
    else c

/-- Lets the fragments of a list into their cells, in order. -/
@[specialize] def paint [Scalar α] (c : Canvas α) (fs : List (Fragment α)) : Canvas α :=
  fs.foldl plot c

/-- The colour of a cell, if it is one. -/
def colour? (c : Canvas α) (x y : Int) : Option Rgb := (c.extent.index? x y).map (c.colours[·])

/-- The depth of a cell: nothing where nothing is drawn, and where there is no cell. -/
def depth? (c : Canvas α) (x y : Int) : Option α := (c.extent.index? x y).bind (c.depths[·])

/-- Whether every cell has the background colour. -/
def isBlank (c : Canvas α) : Bool := c.colours.all (· == c.background)

/-- The row or column that an index means. A negative index counts from the end. -/
def wrapIndex (index : Int) (axis size : Nat) : Except Fault Int :=
  if index < -size ∨ size ≤ index then .error (.outOfBounds index axis size)
  else .ok (if index < 0 then index + size else index)

/-- The colour at the given coordinates of the screen. Rows are numbered from the top, and both
indices may count from the end. -/
def pixel (c : Canvas α) (x y : Int) : Except Fault Rgb := do
  let row : Int := c.extent.height - 1 - y
  if !(isWord row && isWord x) then throw .indexNotWord
  let row ← wrapIndex row 0 c.extent.height
  let column ← wrapIndex x 1 c.extent.width
  pure ((c.colour? column (c.extent.height - 1 - row)).getD c.background)

end Canvas

end SceneScript
