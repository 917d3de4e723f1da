import SceneScript.Heap
import SceneScript.Raster.Picture
import Std.Data.HashMap

/-!
# Pictures in few colours

The colours of a picture are divided into boxes. The box with the most pixels is cut in two at the
side on which it is longest to the eye, so that each half has about as many pixels, until there are
as many boxes as there may be colours. The mean of the pixels of a box is its colour, and each
pixel gets the nearest colour of those that are not too far from that of its box. A picture that
has no more colours than there may be stays as it is.
-/

namespace SceneScript.Reduction

/-- A part of a colour: red, green or blue. -/
def part (axis : Nat) (c : Rgb) : Nat :=
  if axis = 0 then c.red.toNat else if axis = 1 then c.green.toNat else c.blue.toNat

/-- A colour as a number. -/
def number (c : Rgb) : Nat := 65536 * part 0 c + 256 * part 1 c + part 2 c

/-- The distance of two colours, squared. -/
def distance (a b : Rgb) : Nat :=
  let side (axis : Nat) : Nat := ((part axis a : Int) - part axis b).natAbs
  side 0 * side 0 + side 1 * side 1 + side 2 * side 2

/-- Colours with the numbers of pixels that have them, and how the box was reached: the last cut
first, and whether the box has the darker half. -/
structure Box where
  colours : Array (Rgb × Nat)
  count : Nat
  path : List Bool := []
  deriving Inhabited

namespace Box

/-- Whether a box has more pixels than another one. -/
def before (a b : Box) : Bool := b.count < a.count

/-- The length of a side. -/
def side (b : Box) (axis : Nat) : Nat :=
  let parts := b.colours.map fun (c, _) => part axis c
  parts.foldl max 0 - parts.foldl min 255

/-- Whether a box has one colour. -/
def isPoint (b : Box) : Bool := b.side 0 == 0 && b.side 1 == 0 && b.side 2 == 0

/-- The side on which a box is longest. -/
def axis (b : Box) : Nat :=
  let (red, green, blue) := (77 * b.side 0, 150 * b.side 1, 29 * b.side 2)
  if red < green then if green < blue then 2 else 1
  else if red < blue then 2 else 0

/-- The least value of the brighter half: that of the pixel in the middle, or the one above if no
other half would be left. -/
def cutAt (b : Box) (axis : Nat) : Nat :=
  let counts := b.colours.foldl (fun (counts : Array Nat) (c, n) =>
    counts.modify (part axis c) (· + n)) (.replicate 256 0)
  let brighter (v : Nat) : Nat := (counts.extract v 256).foldl (· + ·) 0
  let middle := ((List.range 256).reverse.find? fun v => b.count < 2 * brighter v).getD 0
  let lowest := ((List.range 256).find? fun v => counts.getD v 0 ≠ 0).getD 0
  if lowest < middle then middle else lowest + 1

/-- The brighter and the darker half of a box. -/
def split (b : Box) : Box × Box :=
  let axis := b.axis
  let cut := b.cutAt axis
  let half (darker : Bool) : Box :=
    let colours := b.colours.filter fun (c, _) => (part axis c < cut) == darker
    ⟨colours, colours.foldl (fun n (_, m) => n + m) 0, darker :: b.path⟩
  (half false, half true)

end Box

/-- Takes the largest box that can be cut, past those that cannot. -/
def nextBox : Nat → Array Box → List Box → Option (Box × Array Box) × List Box
  | 0, _, points => (none, points)
  | fuel + 1, heap, points =>
    match Heap.pop? Box.before heap with
    | none => (none, points)
    | some (b, heap) =>
      if b.isPoint then nextBox fuel heap (b :: points) else (some (b, heap), points)

/-- The boxes after so many cuts, given those that cannot be cut. -/
def boxes : Nat → Array Box → List Box → List Box
  | 0, heap, points => heap.toList ++ points
  | cuts + 1, heap, points =>
    match nextBox (heap.size + 1) heap points with
    | (none, points) => points
    | (some (b, heap), points) =>
      let (bright, dark) := b.split
      boxes cuts (Heap.push Box.before dark (Heap.push Box.before bright heap)) points

/-- Whether a box comes before another one, the brighter half of each cut before the darker. -/
def comesFirst (a b : List Bool) : Bool :=
  match a, b with
  | x :: a, y :: b => if x = y then comesFirst a b else !x
  | _, _ => true

/-- The colours of a picture, in their order, with the numbers of their pixels. -/
def tally (p : Picture) : Array (Rgb × Nat) :=
  let counts := (p.width * p.height).fold (fun i _ (counts : Std.HashMap Nat Nat) =>
    let n := number (p.pixel i)
    counts.insert n (counts.getD n 0 + 1)) {}
  ((counts.toList.mergeSort fun a b => a.1 ≤ b.1).map fun (n, count) =>
    (⟨UInt8.ofNat (n / 65536), UInt8.ofNat (n / 256), UInt8.ofNat n⟩, count)).toArray

/-- The mean of the pixels of a box, a half rounded up. -/
def mean (b : Box) : Rgb :=
  let value (axis : Nat) : UInt8 :=
    let sum := b.colours.foldl (fun n (c, m) => n + part axis c * m) 0
    UInt8.ofNat ((2 * sum + b.count) / (2 * b.count))
  ⟨value 0, value 1, value 2⟩

/-- The colours of a palette with their distances from one of them, the nearest first. -/
def neighbours (palette : Array Rgb) (c : Rgb) : List (Nat × Rgb) :=
  (palette.toList.map fun d => (distance c d, d)).mergeSort fun a b => a.1 ≤ b.1

/-- The colour for a pixel, given that of its box and the neighbours of that: the first of the
nearest ones that are at most twice as far from that of the box as the pixel is. -/
def nearest (own : Rgb) (near : List (Nat × Rgb)) (c : Rgb) : Rgb :=
  let start := distance own c
  ((near.takeWhile fun (d, _) => d ≤ 4 * start).foldl (fun (found : Nat × Rgb) (_, d) =>
    if distance d c < found.1 then (distance d c, d) else found) (start, own)).2

/-- The place of a number among numbers in their order, between two places. -/
def search (keys : Array Nat) (n : Nat) : Nat → Nat → Nat → Nat
  | 0, low, _ => low
  | fuel + 1, low, high =>
    if high ≤ low + 1 then low
    else
      let middle := (low + high) / 2
      if keys.getD middle 0 ≤ n then search keys n fuel middle high
      else search keys n fuel low middle

/-- The most colours. -/
def limit : Nat := 256

/-- The colours that stand for those of a picture, in the order of the latter. -/
def replacements (found : Array (Rgb × Nat)) (count : Nat) : Array (Nat × Rgb) :=
  let all := boxes (limit - 1) #[⟨found, count, []⟩] []
  let ordered := all.mergeSort fun a b => comesFirst a.path.reverse b.path.reverse
  let palette := (ordered.map mean).toArray
  let pairs := ordered.flatMap fun b =>
    let own := mean b
    let near := neighbours palette own
    b.colours.toList.map fun (c, _) => (number c, nearest own near c)
  (pairs.mergeSort fun a b => a.1 ≤ b.1).toArray

end SceneScript.Reduction

namespace SceneScript

open Reduction in
/-- The picture in at most 256 colours. -/
def Picture.reduced (p : Picture) : Picture :=
  let found := tally p
  if found.size ≤ limit then p
  else
    let pairs := replacements found (p.width * p.height)
    let keys := pairs.map (·.1)
    let bytes := (p.width * p.height).fold (fun i _ out =>
      let n := number (p.pixel i)
      let (_, c) := pairs.getD (search keys n keys.size 0 keys.size) default
      ((out.push c.red).push c.green).push c.blue) ByteArray.empty
    ⟨p.width, p.height, bytes⟩

end SceneScript
