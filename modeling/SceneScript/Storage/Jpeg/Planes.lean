import SceneScript.Storage.Rows
import SceneScript.Storage.Jpeg.Transform

/-!
# The planes of photographs

A photograph holds the brightness of its pixels in one plane and the two differences from it in
others, which may have fewer columns and rows. `Plane.halved` takes every second one away, and
`Plane.stretched` fills them in again: a sample between two is nearer to the one beside it.
-/

namespace SceneScript.Jpeg

/-- Samples in rows. -/
structure Plane where
  width : Nat
  height : Nat
  bytes : ByteArray
  deriving Inhabited

namespace Plane

/-- The sample in a column of a row. -/
@[inline] def at2 (p : Plane) (x y : Nat) : Nat := Bytes.byteAt p.bytes (y * p.width + x)

/-- The sample nearest to a place that may lie beyond the right or the lower edge. -/
@[inline] def nearest (p : Plane) (x y : Nat) : Nat :=
  p.at2 (min x (p.width - 1)) (min y (p.height - 1))

/-- The plane whose samples are given by their columns and rows. -/
@[inline] def tabulate (width height : Nat) (sample : Nat → Nat → Nat) : Plane :=
  ⟨width, height, height.fold (fun y _ out => width.fold (fun x _ out =>
    out.push (UInt8.ofNat (sample x y))) out) .empty⟩

/-- The plane with half as many columns and rows, and more columns up to a whole number of blocks. A
sample is the mean of four, which is rounded down in every other column. -/
def halved (p : Plane) : Plane :=
  tabulate ((p.width + 15) / 16 * 8) ((p.height + 1) / 2) fun x y =>
    let sample (i j : Nat) : Nat := p.nearest (2 * x + i) (2 * y + j)
    (sample 0 0 + sample 1 0 + sample 0 1 + sample 1 1 + (if x % 2 = 0 then 1 else 2)) / 4

/-- The block of samples with the given place, as differences from the middle. -/
def block (p : Plane) (column row : Nat) : Array Int :=
  (Array.range 64).map fun i => (p.nearest (8 * column + i % 8) (8 * row + i / 8) : Int) - 128

/-- The row or column beside the one that a stretched sample lies in: the one before for the first
of two, and the one after for the second, if there is one. -/
@[inline] def beside (n size : Nat) : Nat :=
  if n % 2 = 0 then n / 2 - 1 else min (size - 1) (n / 2 + 1)

/-- A sample of a plane that is stretched in both directions. -/
def stretchedBoth (p : Plane) (x y : Nat) : Nat :=
  let (row, other) := (y / 2, beside y p.height)
  let sum (x : Nat) : Nat := 3 * p.at2 x row + p.at2 x other
  (3 * sum (x / 2) + sum (beside x p.width) + (if x % 2 = 0 then 8 else 7)) / 16

/-- A sample of a plane that is stretched from left to right. -/
def stretchedAcross (p : Plane) (x y : Nat) : Nat :=
  let other := beside x p.width
  if other = x / 2 then p.at2 other y
  else (3 * p.at2 (x / 2) y + p.at2 other y + (if x % 2 = 0 then 1 else 2)) / 4

/-- A sample of a plane that is stretched from the top to the bottom. -/
def stretchedDown (p : Plane) (x y : Nat) : Nat :=
  (3 * p.at2 x (y / 2) + p.at2 x (beside y p.height) + (if y % 2 = 0 then 1 else 2)) / 4

/-- The samples of a plane that has fewer columns and rows than the picture, by the given factors. A
plane that is too narrow, or is stretched by another factor, repeats its samples. -/
def stretched (p : Plane) (across down : Nat) : Nat → Nat → Nat :=
  let smooth := 2 < p.width
  if across = 2 ∧ down = 2 ∧ smooth then p.stretchedBoth
  else if across = 2 ∧ down = 1 ∧ smooth then p.stretchedAcross
  else if across = 1 ∧ down = 2 then p.stretchedDown
  else fun x y => p.at2 (x / across) (y / down)

end Plane

/-- The brightness and the two differences of a colour. -/
def chroma (c : Rgb) : Nat × Nat × Nat :=
  let (r, g, b) := (c.red.toNat, c.green.toNat, c.blue.toNat)
  let middle := 128 * 65536 + 32767
  ((19595 * r + 38470 * g + 7471 * b + 32768) / 65536,
    (middle + 32768 * b - 11059 * r - 21709 * g) / 65536,
    (middle + 32768 * r - 27439 * g - 5329 * b) / 65536)

/-- The planes of a picture: the brightness, and the halves of the two differences. -/
def planes (p : Picture) : List Plane :=
  let plane (part : Nat × Nat × Nat → Nat) : Plane :=
    .tabulate p.width p.height fun x y => part (chroma (p.pixel (y * p.width + x)))
  [plane (·.1), (plane (·.2.1)).halved, (plane (·.2.2)).halved]

/-- The plane of blocks of coefficients, row by row, each in the given steps. -/
def Plane.ofBlocks (width height across : Nat) (steps : Array Nat) (blocks : Array Int) : Plane :=
  let down := (height + 7) / 8
  let whole := (across * down).fold (fun n _ (out : Array (Array Int)) =>
    let found := (Array.range 64).map fun i =>
      blocks.getD (64 * n + i) 0 * (steps.getD i 1 : Nat)
    out.push (samples found)) #[]
  .tabulate width height fun x y =>
    let block := whole.getD (y / 8 * across + x / 8) #[]
    (min 255 (block.getD (y % 8 * 8 + x % 8) 0 + 128)).toNat

end SceneScript.Jpeg
