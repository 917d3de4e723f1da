import SceneScript.Raster.Picture

/-!
# Pictures in other sizes

A pixel of a picture in another size is a mean of pixels around its place, first of those in a row
and then of those in a column. A kernel says how much each of them weighs by its distance. Weights
are multiples of `2 ^ -22`, so a mean is computed in integers.
-/

namespace SceneScript

/-- How much a pixel weighs by its distance, and how far the pixels are that weigh anything. -/
structure Kernel where
  reach : Float
  weight : Float → Float

namespace Kernel

/-- Half of the circumference of the unit circle. -/
def halfTurn : Float := 3.14159265358979323846

/-- The cardinal sine. -/
def sinc (x : Float) : Float := if x == 0 then 1 else (x * halfTurn).sin / (x * halfTurn)

/-- The cardinal sine, which is cut off by another one. -/
def lanczos : Kernel where
  reach := 3
  weight x := if -3 ≤ x ∧ x < 3 then sinc x * sinc (x / 3) else 0

/-- The pieces of a polynomial of the third degree that is smooth where they meet. -/
def cubic : Kernel where
  reach := 2
  weight x :=
    let x := x.abs
    if x < 1 then (1.5 * x - 2.5) * x * x + 1
    else if x < 2 then (((x - 5) * x + 8) * x - 4) * (-0.5)
    else 0

/-- The integer nearest to a number, a half away from zero. -/
def nearest (x : Float) : Int := (if x < 0 then -0.5 + x else 0.5 + x).toInt64.toInt

/-- The first of the pixels that make up the pixel with a number, and their weights, if so many
pixels become so many others. -/
def window (k : Kernel) (size target n : Nat) : Nat × Array Int :=
  let scale := size.toFloat / target.toFloat
  let stretch := if scale < 1 then 1 else scale
  let (reach, step) := (k.reach * stretch, 1 / stretch)
  let centre := (n.toFloat + 0.5) * scale
  let start := (centre - reach + 0.5).toUInt64.toNat
  let stop := min size (centre + reach + 0.5).toUInt64.toNat
  let weights := (Array.range (stop - start)).map fun i =>
    k.weight (((i + start : Nat).toFloat - centre + 0.5) * step)
  let sum := weights.foldl (· + ·) 0
  (start, weights.map fun w => nearest ((if sum == 0 then w else w / sum) * 4194304))

/-- The windows of all pixels. -/
def windows (k : Kernel) (size target : Nat) : Array (Nat × Array Int) :=
  (Array.range target).map (k.window size target)

end Kernel

namespace Picture

/-- The mean of bytes that lie the given step apart, the first of them at an offset. -/
@[inline] def mean (bytes : ByteArray) (offset step : Nat) (weights : Array Int) : UInt8 :=
  let sum := weights.size.fold (fun i h sum =>
    sum + ((bytes[offset + step * i]?).getD 0).toNat * weights[i]) (2097152 : Int)
  UInt8.ofNat (min 255 (sum / 4194304)).toNat

/-- The picture with another width. -/
def widened (k : Kernel) (width : Nat) (p : Picture) : Picture :=
  let windows := k.windows p.width width
  ⟨width, p.height, p.height.fold (fun y _ out =>
    windows.foldl (fun out (start, weights) =>
      let offset := 3 * (y * p.width + start)
      ((out.push (mean p.bytes offset 3 weights)).push (mean p.bytes (offset + 1) 3 weights)).push
        (mean p.bytes (offset + 2) 3 weights)) out) .empty⟩

/-- The picture with another height. -/
def heightened (k : Kernel) (height : Nat) (p : Picture) : Picture :=
  let size := 3 * p.width
  ⟨p.width, height, (k.windows p.height height).foldl (fun out (start, weights) =>
    size.fold (fun x _ out => out.push (mean p.bytes (size * start + x) size weights)) out) .empty⟩

/-- The picture in another size. -/
def resized (k : Kernel) (width height : Nat) (p : Picture) : Picture :=
  let p := if p.width = width then p else p.widened k width
  if p.height = height then p else p.heightened k height

end Picture

end SceneScript
