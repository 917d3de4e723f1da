import SceneScript.Storage.Bitmap
import SceneScript.Storage.Jpeg2000
import SceneScript.Storage.Png.Decode

/-!
# Reading icons

An icon is a table of pictures. Of a favourite icon the largest picture is read, and of those of one
size the first that has the fewest bits to a pixel. It is a graphic, or a bitmap that is twice as
high as the picture: what is below is the mask of the pixels that are seen. A cursor is alike, and
has no graphics. Of a desktop icon the largest picture is read as well.
-/

namespace SceneScript.Icon

/-- What is faulty in data that are read to find out whether they are of a format, and is no fault
of the file, makes them foreign to it. -/
def softly {α : Type} (a : Attempt α) : Attempt α := OptionT.mk <|
  match a.run with
  | .error why => if [.illFormed, .index].contains (Fault.Kind.ofImage why) then .ok none
    else .error why
  | r => r

/-! ## Favourite icons and cursors -/

/-- An entry of the table of an icon. -/
structure Slot where
  width : Nat
  height : Nat
  bits : Nat
  /-- The bits of a pixel, or what stands for them if they are not given. -/
  depth : Nat
  size : Nat
  offset : Nat
  deriving Inhabited

/-- The entry at an offset. A side of zero is one of 256. -/
def slotAt (data : ByteArray) (offset : Nat) : Slot :=
  let byte (k : Nat) : Nat := Bytes.byteAt data (offset + k)
  let side (n : Nat) : Nat := if n = 0 then 256 else n
  let (colours, bits) := (byte 2, Bytes.lowAt data (offset + 6) 2)
  let least := ((List.range 9).find? fun n => colours ≤ 1 <<< n).getD 8
  let depth := if bits ≠ 0 then bits else if colours ≠ 0 ∧ least ≠ 0 then least else 256
  ⟨side (byte 0), side (byte 1), bits, depth, Bytes.lowAt data (offset + 8) 4,
    Bytes.lowAt data (offset + 12) 4⟩

/-- The entry that is read. -/
def largest? (slots : List Slot) : Option Slot :=
  let ordered := slots.mergeSort fun a b => a.depth ≤ b.depth
  (ordered.mergeSort fun a b => b.width * b.height ≤ a.width * a.height).head?

/-- A bitmap without its mask, which must be there as well. With 32 bits to a pixel, the last byte
of each is its opacity, and otherwise the mask stands at the end. -/
def maskedBitmap (data : ByteArray) (s : Slot) : Attempt Picture := do
  let found ← Bitmap.describe data s.offset 0
  let (width, height) := (found.rows.width, found.rows.height / 2)
  Attempt.size width found.rows.height
  if s.bits = 32 then
    Attempt.insist (width * height ≤ (data.size - found.rows.offset) / 4) .bufferTooSmall
  else
    let stride := (width + 31) / 32 * 4
    Attempt.insist (stride * height ≤ s.offset + s.size) .outsideFile
    let start := s.offset + s.size - stride * height
    Attempt.insist (start + stride * (height - 1) + (width + 7) / 8 ≤ data.size || height == 0)
      .tooLittle
  Attempt.insist (height != 0) .outsidePicture
  Attempt.lift (({ found with rows := { found.rows with height } } : Bitmap.Surface).read data)

/-- The picture in data, if they are a favourite icon. -/
def decode (data : ByteArray) : Reading := OptionT.run do
  Attempt.require (Bytes.hasAt data 0 [0, 0, 1, 0])
  let count := Bytes.lowAt data 4 2
  Attempt.require (6 + 16 * count ≤ data.size)
  let slots := (List.range count).map fun k => slotAt data (6 + 16 * k)
  let s ← Attempt.ofOption (largest? slots)
  softly (if Bytes.hasAt data s.offset Png.signature then Png.decodeAt data s.offset
    else maskedBitmap data s)

/-- The picture in data, if they are a cursor: the last one that is wider and higher than the one
that was taken before. -/
def decodeCursor (data : ByteArray) : Reading := OptionT.run do
  Attempt.require (Bytes.hasAt data 0 [0, 0, 2, 0])
  let count := Bytes.lowAt data 4 2
  let (side, start) := ((fun k => Bytes.byteAt data k), fun k => 6 + 16 * k)
  let chosen := (List.range count).foldl (fun chosen k =>
    if side (start chosen) < side (start k) ∧ side (start chosen + 1) < side (start k + 1) then k
    else chosen) 0
  Attempt.require (count != 0 && start count ≤ data.size)
  let offset := Bytes.lowAt data (start chosen + 12) 4
  let found ← Bitmap.describe data (if offset = 0 then start count else offset) 0
  let height := found.rows.height / 2
  Attempt.size found.rows.width height
  Attempt.lift (({ found with rows := { found.rows with height } } : Bitmap.Surface).read data)

/-! ## Desktop icons -/

/-- How a picture of a desktop icon is held. -/
inductive Form
  /-- As a file of its own. -/
  | file
  /-- As its parts in runs, with so many bytes in front. -/
  | parts (front : Nat)
  /-- As its opacities alone. -/
  | mask
  deriving DecidableEq

/-- The pictures of a desktop icon: their names, their sides, and how they are held. The largest
comes first, and of two that fill as many pixels the one for the larger place. -/
def forms : List (String × Nat × Form) :=
  [("ic10", 1024, .file), ("ic09", 512, .file), ("ic14", 512, .file), ("ic08", 256, .file),
    ("ic13", 256, .file), ("ic07", 128, .file), ("it32", 128, .parts 4), ("t8mk", 128, .mask),
    ("icp6", 64, .file), ("ih32", 48, .parts 0), ("h8mk", 48, .mask), ("ic12", 64, .file),
    ("icp5", 32, .file), ("il32", 32, .parts 0), ("l8mk", 32, .mask), ("ic11", 32, .file),
    ("icp4", 16, .file), ("is32", 16, .parts 0), ("s8mk", 16, .mask)]

/-- The places that pictures are for, by their names: those of one place are read together. -/
def places : List (List String) :=
  [["ic10"], ["ic09"], ["ic14"], ["ic08"], ["ic13"], ["ic07", "it32", "t8mk"], ["icp6"],
    ["ih32", "h8mk"], ["ic12"], ["icp5", "il32", "l8mk"], ["ic11"], ["icp4", "is32", "s8mk"]]

/-- The blocks of a desktop icon from an offset on: their names, where their data begin, and their
sizes. -/
def blocks (data : ByteArray) (stop : Nat) :
    Nat → Nat → List (ByteArray × Nat × Int) → Attempt (List (ByteArray × Nat × Int))
  | 0, _, _ => Attempt.foreign
  | fuel + 1, offset, sofar => do
    if stop ≤ offset then pure sofar
    else
      Attempt.require (offset + 8 ≤ data.size)
      let size := Bytes.highAt data (offset + 4) 4
      Attempt.require (size != 0)
      blocks data stop fuel (offset + size)
        ((data.extract offset (offset + 4), offset + 8, (size : Int) - 8) :: sofar)

/-- The bytes of a part in runs, until there are so many, and the offset behind. A run may not be
longer than the part. -/
def partRuns (data : ByteArray) (count : Nat) :
    Nat → Nat → ByteArray → Except ImageFault (ByteArray × Nat)
  | 0, _, _ => .error (.iconPartLeft 0)
  | fuel + 1, offset, out =>
    if count ≤ out.size then
      if count < out.size then .error (.iconPartLeft ((count : Int) - out.size))
      else .ok (out, offset)
    else
      match data[offset]? with
      | none => .error (.iconPartLeft ((count : Int) - out.size))
      | some mark =>
        if 128 ≤ mark then
          let value := UInt8.ofNat (Bytes.byteAt data (offset + 1))
          partRuns data count fuel (offset + 2)
            ((mark.toNat - 125).fold (fun _ _ out => out.push value) out)
        else
          let size := mark.toNat + 1
          partRuns data count fuel (offset + 1 + size)
            (out ++ data.extract (offset + 1) (offset + 1 + size) ++
              Bytes.zeros (size - (data.extract (offset + 1) (offset + 1 + size)).size))

/-- A picture of the given side that is held in its parts: colour by colour, or in runs. -/
def readParts (data : ByteArray) (start : Nat) (size : Int) (side : Nat) :
    Except ImageFault Picture := do
  let count := side * side
  if size = 3 * count then
    if data.size < start + 3 * count then throw .tooLittle
    pure ⟨side, side, data.extract start (start + 3 * count)⟩
  else
    let (red, offset) ← partRuns data count (count + 1) start .empty
    let (green, offset) ← partRuns data count (count + 1) offset .empty
    let (blue, _) ← partRuns data count (count + 1) offset .empty
    pure (.tabulate side side fun x y =>
      let byte (part : ByteArray) : Nat := Bytes.byteAt part (y * side + x)
      Rgb.ofNats (byte red) (byte green) (byte blue))

/-- A picture that is a file of its own. -/
def readFile (data : ByteArray) (start : Nat) (size : Int) : Attempt Picture := do
  if Bytes.hasAt data start Png.signature then Png.decodeAt data start
  else
    Attempt.insist (Jpeg2000.isStart data start) .unknownIconPicture
    OptionT.mk (Jpeg2000.decode (data.extract start (start + size.toNat)))

/-- Whether a picture of the given size may stand for one of the sides of an icon. -/
def fits (sides : List Nat) (p : Picture) : Bool :=
  sides.any fun side => p.height * (side / p.width) == side && p.height != 0

/-- The picture in data, if they are a desktop icon. A picture that is a file of its own goes before
the others of its place. -/
def decodeDesktop (data : ByteArray) : Reading := OptionT.run do
  Attempt.require (Bytes.begins data "icns" && 8 ≤ data.size)
  let all ← blocks data (Bytes.highAt data 4 4) (data.size + 1) 8 []
  let block? (name : String) : Option (Nat × Int) := all.lookup name.toUTF8
  let found := forms.filter fun (name, _, _) => (block? name).isSome
  let sides := found.map fun (_, side, _) => side
  let place ← Attempt.ofOption
    (places.find? fun names => names.any fun name => (block? name).isSome)
  let here := found.filter fun (name, _, _) => place.contains name
  let pictures ← here.filterMapM fun (name, side, form) => do
    let some (start, size) := block? name | pure none
    match form with
    | .file => pure (some (true, ← readFile data start size))
    | .parts front =>
      Attempt.insist (front = 0 || Bytes.hasAt data start [0, 0, 0, 0]) .iconMark
      pure (some (false, ← Attempt.lift (readParts data (start + front) (size - front) side)))
    | .mask =>
      Attempt.insist (start + side * side ≤ data.size) .bufferTooSmall
      pure none
  match pictures.find? (·.1) |>.orElse fun _ => pictures.getLast? with
  | none => Attempt.fault .noIconColours
  | some (isFile, p) =>
    Attempt.insist (!isFile || fits sides p) .noSuchIconSize
    pure p

end SceneScript.Icon
