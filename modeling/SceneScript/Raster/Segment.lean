import SceneScript.Raster.Canvas
import SceneScript.Space.Vec

/-!
# Drawing line segments

A segment is first cut to the part that lies on the canvas or within one cell of it, so that its
length costs nothing, and then stepped along: one fragment for each cell along the axis on which it
is longer. A coordinate on the way that stands for no cell ends the drawing (`stepsFault?`,
`fragmentFault?`).

The cut keeps an interval of the parameter `t` that runs from `0` to `1` along the segment. Each
side of the canvas narrows it (`Clip.narrow`) to the `t` with `p * t ≤ q`.
-/

namespace SceneScript

variable {α : Type} [Scalar α]

/-- The part of a segment from the parameter `start` to `stop`. There is none when `stop` comes
first. -/
structure Clip (α : Type) where
  start : α
  stop : α
  deriving Repr, DecidableEq

namespace Clip

/-- The whole segment. -/
@[inline] def whole : Clip α := ⟨0, 1⟩

/-- The part that satisfies `p * t ≤ q`. -/
@[inline] def narrow (c : Clip α) (p q : α) : Clip α :=
  if p == 0 then
    if q < 0 then ⟨1, 0⟩ else c
  else
    let t := q / p
    if p < 0 then
      if c.start < t then ⟨t, c.stop⟩ else c
    else if t < c.stop then ⟨c.start, t⟩ else c

end Clip

namespace Segment

/-- The part of a segment on a canvas with a margin of one cell, which holds the ends that are
rounded onto the canvas. -/
def clip (e : Extent) (p q : Vec3 α) : Clip α :=
  let dx := q.x - p.x
  let dy := q.y - p.y
  Clip.whole
    |>.narrow (-dx) (p.x + 1)
    |>.narrow dx (((e.width : Int) : α) - p.x)
    |>.narrow (-dy) (p.y + 1)
    |>.narrow dy (((e.height : Int) : α) - p.y)

/-- The ends of a part of a segment. A part that is the whole segment has its very ends. -/
def ends (p q : Vec3 α) (c : Clip α) : Vec3 α × Vec3 α :=
  if 0 < c.start ∨ c.stop < 1 then
    let d := q.sub p
    (⟨p.x + c.start * d.x, p.y + c.start * d.y, p.z + c.start * d.z⟩,
      ⟨p.x + c.stop * d.x, p.y + c.stop * d.y, p.z + c.stop * d.z⟩)
  else (p, q)

/-- The distance between two cells of a line. -/
def distance (a b : Int) : Int :=
  let d := b - a
  if d < 0 then -d else d

/-- The number of steps from the first cell of a segment to the last. -/
def steps (p q : Vec3 α) : Int :=
  max (distance (Scalar.nearest p.x) (Scalar.nearest q.x))
    (distance (Scalar.nearest p.y) (Scalar.nearest q.y))

/-- What is wrong with the ends of a segment for which there are no steps. The coordinates of the
second end are looked at before those of the first. -/
def stepsFault? (p q : Vec3 α) : Option Fault :=
  (Scalar.nearestFault? q.x).or <| (Scalar.nearestFault? p.x).or <|
    (Scalar.nearestFault? q.y).or (Scalar.nearestFault? p.y)

/-- The fragment at the parameter `t` of a segment. -/
def fragmentAt (colour : Rgb) (p q : Vec3 α) (t : α) : Fragment α :=
  ⟨Scalar.nearest (p.x + t * (q.x - p.x)), Scalar.nearest (p.y + t * (q.y - p.y)),
    p.z + t * (q.z - p.z), colour⟩

/-- What is wrong with the parameter `t` of a segment if there is no fragment at it. -/
def fragmentFault? (p q : Vec3 α) (t : α) : Option Fault :=
  (Scalar.nearestFault? (p.x + t * (q.x - p.x))).or
    (Scalar.nearestFault? (p.y + t * (q.y - p.y)))

/-- What is drawn of a segment that is not cut: its nearer end if both are in one cell, and a
fragment for each step otherwise. -/
def steppedStroke (colour : Rgb) (p q : Vec3 α) : Stroke α :=
  let n := steps p q
  .checked (stepsFault? p q) <|
    if n = 0 then
      ⟨[⟨Scalar.nearest p.x, Scalar.nearest p.y, Scalar.larger p.z q.z, colour⟩], none⟩
    else
      .forEach (fun (i : Nat) =>
        let t : α := ((i : Int) : α) / ((n : Int) : α)
        .checked (fragmentFault? p q t) ⟨[fragmentAt colour p q t], none⟩) (List.range (n + 1).toNat)

/-- What is drawn of a segment on a canvas. -/
def stroke (e : Extent) (colour : Rgb) (p q : Vec3 α) : Stroke α :=
  let c := clip e p q
  if c.stop < c.start then .empty
  else
    let (p, q) := ends p q c
    steppedStroke colour p q

/-- The fragments of a segment that is not cut. -/
def stepped (colour : Rgb) (p q : Vec3 α) : List (Fragment α) := (steppedStroke colour p q).fragments

/-- The fragments of a segment on a canvas. -/
def fragments (e : Extent) (colour : Rgb) (p q : Vec3 α) : List (Fragment α) :=
  (stroke e colour p q).fragments

end Segment

end SceneScript
