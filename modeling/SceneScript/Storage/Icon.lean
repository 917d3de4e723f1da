import SceneScript.Raster.Resample
import SceneScript.Storage.Png

/-!
# Icons

An icon file holds a picture in several sizes, each as a graphic of its own. A favourite icon holds
the picture in those of its sizes that are not larger than the picture, with its proportions, or as
it is if there are none; a desktop icon holds it in all of its sizes, as squares. What is read of an
icon is its largest picture.
-/

namespace SceneScript

namespace Icon

/-- The sides of favourite icons. -/
def sides : List Nat := [16, 24, 32, 48, 64, 128, 256]

/-- How far the proportion of width to height is from that of a picture, as a quotient with the
height of the picture times the second number below. -/
def strain (p : Picture) (size : Nat × Nat) : Nat × Nat :=
  ((((p.width * size.2 : Nat) : Int) - ((size.1 * p.height : Nat) : Int)).natAbs, size.2)

/-- The size of a picture whose longer side is scaled to the given one. The other side is the one of
the two integers next to its exact value that keeps the proportion better, and at least one. -/
def fittedSize (p : Picture) (side : Nat) : Nat × Nat :=
  let (long, short) := (max p.width p.height, min p.width p.height)
  let size (n : Nat) : Nat × Nat := if p.height < p.width then (side, n) else (n, side)
  let low := side * short / long
  let high := (side * short + long - 1) / long
  let (a, b) := (strain p (size low), strain p (size high))
  size (max 1 (if b.1 * a.2 < a.1 * b.2 then high else low))

/-- The picture with its longer side scaled to the given one, if it is larger. -/
def fitted (p : Picture) (side : Nat) : Picture :=
  if p.width ≤ side ∧ p.height ≤ side then p
  else p.resized .lanczos (fittedSize p side).1 (fittedSize p side).2

/-- The largest side of a picture in a favourite icon. -/
def limit : Nat := 256

/-- The pictures of a favourite icon. One that is smaller than all sizes is taken as it is. -/
def pictures (p : Picture) : List Picture :=
  match sides.filter fun side => side ≤ p.width ∧ side ≤ p.height with
  | [] => [p]
  | found => found.map (fitted p)

/-- Whether a picture can be written as a favourite icon. -/
def check (p : Picture) : Except Fault Unit :=
  if (sides.headD 0) ≤ min p.width p.height then .ok ()
  else if limit < max p.width p.height then .error .noIconSize
  else if p.width = 0 ∨ p.height = 0 then .error .emptyPicture
  else .ok ()

/-- The beginning of an entry in the table of an icon. -/
def entryHead (p : Picture) : List UInt8 :=
  [UInt8.ofNat p.width, UInt8.ofNat p.height, 0, 0, 0, 0, 32, 0]

/-- What stands in a file that could not be written for the given reason. -/
def left (p : Picture) (why : Fault) : ByteArray :=
  match why with
  | .emptyPicture => Bytes.ofList ([0, 0, 1, 0, 1, 0] ++ entryHead p)
  | _ => Bytes.ofList [0, 0, 1, 0]

/-- The favourite icon of a picture. -/
def encodeFavourite (p : Picture) : ByteArray :=
  let all := (pictures p).map fun q => (q, Png.encode q)
  let start := 6 + 16 * all.length
  let head := Bytes.ofList ([0, 0, 1, 0] ++ Bytes.low 2 all.length)
  let (entries, bodies) := all.foldl (fun ((entries, bodies) : ByteArray × ByteArray) (q, data) =>
    let entry := entryHead q ++ Bytes.low 4 data.size ++ Bytes.low 4 (start + bodies.size)
    (entries ++ Bytes.ofList entry, bodies ++ data)) (head, .empty)
  entries ++ bodies

/-- The names of the pictures of a desktop icon and their sides. -/
def squares : List (String × Nat) :=
  [("ic07", 128), ("ic08", 256), ("ic09", 512), ("ic10", 1024), ("ic11", 32), ("ic12", 64),
    ("ic13", 256), ("ic14", 512)]

/-- The picture as a square of the given side. -/
def square (p : Picture) (side : Nat) : Picture := p.resized .cubic side side

/-- The desktop icon of a picture: a table of its pictures, and the pictures. -/
def encodeDesktop (p : Picture) : ByteArray :=
  let all := squares.map fun (name, side) => (name, Png.encode (square p side))
  let block (name : String) (data : ByteArray) : ByteArray :=
    name.toUTF8 ++ Bytes.ofList (Bytes.high 4 (data.size + 8)) ++ data
  let table := all.foldl (fun out (name, data) =>
    out ++ name.toUTF8 ++ Bytes.ofList (Bytes.high 4 (data.size + 8))) ByteArray.empty
  block "icns" (all.foldl (fun out (name, data) => out ++ block name data) (block "TOC " table))

end Icon

end SceneScript
