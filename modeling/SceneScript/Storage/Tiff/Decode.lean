import SceneScript.Storage.Tiff
import SceneScript.Storage.Tiff.Unpack

/-!
# Reading tagged images

The directory says what the pixels are (`Kind`), how the picture is cut into strips or tiles
(`Cut`), and which way up it is (`oriented`).
-/

namespace SceneScript.Tiff

/-- What the values of a pixel are: the meaning of the first ones, the bits of a value, how many
there are, and whether bits and bytes are reversed. -/
structure Kind where
  meaning : Nat
  bits : Nat
  count : Nat
  format : Nat
  lowBitFirst : Bool
  highFirst : Bool
  palette : Palette

namespace Kind

/-- The byte with its bits in the other order. -/
def turned (b : Nat) : Nat :=
  (List.range 8).foldl (fun n i => 2 * n + (b >>> i) % 2) 0

/-- The value of a pixel of one value. -/
def shade (k : Kind) (n : Nat) : Rgb :=
  let top := (1 <<< k.bits) - 1
  if k.meaning = 3 then k.palette.colour n
  else if k.format = 3 then Rgb.ofSingle n
  else if 16 ≤ k.bits then
    if k.format = 2 ∧ top / 2 < n then .black else Rgb.clippedGrey n
  else if k.meaning = 0 then Rgb.grey (255 - n * 255 / top)
  else Rgb.grey (n * 255 / top)

/-- The colour of the highest bytes of the values of a pixel. -/
def mixture (k : Kind) (value : Nat → Nat) : Rgb :=
  match k.meaning with
  | 5 => Rgb.ofInks (value 0) (value 1) (value 2) (value 3)
  | 6 => Rgb.ofChroma (value 0) (value 1) (value 2)
  | 2 | 8 => Rgb.ofNats (value 0) (value 1) (value 2)
  | _ => k.shade (value 0)

/-- The number of values that make up a colour. -/
def needed (meaning : Nat) : Nat :=
  if [2, 6, 8].contains meaning then 3 else if meaning = 5 then 4 else 1

/-- The layout of rows of pixels. -/
def layout (k : Kind) : Layout :=
  let bytes := k.bits / 8
  let order (b : Nat) : Nat := if k.lowBitFirst then turned b else b
  let number (byte : Nat → Nat) (start : Nat) : Nat :=
    (List.range bytes).foldl (fun n i =>
      256 * n + order (byte (start + if k.highFirst then i else bytes - 1 - i))) 0
  if k.bits < 8 then
    { bits := k.bits
      colour := fun data row x =>
        let perByte := 8 / k.bits
        let b := order (Bytes.byteAt data (row + x / perByte))
        k.shade ((b >>> (k.bits * (perByte - 1 - x % perByte))) % (1 <<< k.bits)) }
  else if k.count = 1 then .wide bytes fun byte => k.shade (number byte 0)
  else
    .wide (bytes * k.count) fun byte => k.mixture fun i =>
      number byte (bytes * i) >>> (k.bits - 8)

/-- Whether pixels of such values are read. -/
def isKnown (meaning bits count format extra : Nat) (lowBitFirst : Bool) : Bool :=
  let one := count == 1 && extra == 0 && format == 1 && [1, 2, 4, 8].contains bits
  let more := count == needed meaning + extra
  match meaning with
  | 0 => one || (count == 1 && extra == 0 && !lowBitFirst && bits == 16 && format == 1)
  | 1 => one || (count == 1 && extra == 0 && !lowBitFirst &&
      ((bits == 16 && (format == 1 || format == 2)) || bits == 32)) ||
      (count == 2 && extra == 1 && bits == 8 && !lowBitFirst)
  | 2 => format == 1 && (bits == 8 || (bits == 16 && extra ≤ 1)) &&
      (count == 3 || count == 4 || (more && count ≤ 6)) &&
      (!lowBitFirst || (bits == 8 && count == 3))
  | 3 => one || (count == 2 && extra == 1 && bits == 8 && !lowBitFirst)
  | 5 => format == 1 && !lowBitFirst && more && (bits == 8 || (bits == 16 && extra == 0))
  | 6 => format == 1 && !lowBitFirst && bits == 8 && (count == 3 || (count == 4 && extra ≤ 1))
  | 8 => format == 1 && !lowBitFirst && bits == 8 && count == 3
  | _ => false

end Kind

/-- The kind of the pixels, if the directory makes sense of them. -/
def kind? (d : Directory) : Option Kind :=
  let method := d.value 259 1
  let meaning := if method = 6 then 6 else d.value 262 0
  let given := (d.values? 258).getD [1]
  let count := d.value 277 (if method = 6 ∧ (meaning = 2 ∨ meaning = 6) then 3 else 1)
  let bits := if given.length = 1 then List.replicate count (given.headD 1) else given.take count
  let formats := (d.values? 339).getD [1]
  let format := formats.headD 1
  let order := d.value 266 1
  let extra := ((d.values? 338).getD []).length
  let size := bits.headD 1
  let entries := ((d.values? 320).getD []).map fun n => UInt8.ofNat (n / 256)
  let third := entries.length / 3
  let colours := (List.range third).flatMap fun i =>
    [entries.getD i 0, entries.getD (third + i) 0, entries.getD (2 * third + i) 0]
  if 6 < count ∨ bits.length ≠ count ∨ bits.any (· != size) ∨ 2 < order ∨ order = 0 ∨
      formats.any (· != format) ∨ !Kind.isKnown meaning size count format extra (order == 2) ∨
      (meaning = 3 ∧ (d.values? 320).isNone) then none
  else
    some ⟨meaning, size, count, format, order = 2, d.highFirst, ⟨Bytes.ofList colours, 3, false⟩⟩

/-- How a picture is cut: the size of a tile, which may be a strip of whole rows, the places of the
tiles in the data, and whether each value has tiles of its own. -/
structure Cut where
  width : Nat
  height : Nat
  offsets : Array Nat
  sizes : Array Nat
  apart : Bool

/-- How a picture of the given size is cut. -/
def cut (d : Directory) (width height : Nat) : Attempt Cut := do
  let apart := d.value 284 1 = 2
  match d.values? 273 with
  | some offsets =>
    let rows := min height (max 1 (d.value 278 height))
    let offsets := if rows = height ∧ !apart then offsets.drop (offsets.length - 1) else offsets
    pure ⟨width, rows, offsets.toArray, ((d.values? 279).getD []).toArray, apart⟩
  | none =>
    let offsets ← Attempt.ofOption (d.values? 324)
    Attempt.insist (d.isInteger 322 && d.isInteger 323) .badTileSize
    pure ⟨max 1 (d.value 322 1), max 1 (d.value 323 1), offsets.toArray,
      ((d.values? 325).getD []).toArray, apart⟩

namespace Cut

/-- The number of tiles side by side. -/
def across (c : Cut) (width : Nat) : Nat := (width + c.width - 1) / c.width

/-- The number of tiles of one layer. -/
def perLayer (c : Cut) (width height : Nat) : Nat :=
  c.across width * ((height + c.height - 1) / c.height)

/-- The rows of a tile of pixels of so many bits, at an offset. Those at the right edge are as wide
as the others, but only the part that is in the picture is read. -/
def rowsOf (c : Cut) (width height bits n offset : Nat) : Rows :=
  let (column, row) := (n % c.across width, n % c.perLayer width height / c.across width)
  { offset
    width := min c.width (width - column * c.width)
    height := min c.height (height - row * c.height)
    stride := (c.width * bits + 7) / 8 }

end Cut

/-- The tiles as bytes, and where the rows of each begin. Tiles that are held as they are must be in
the data, and the others must be unpacked, which needs the whole directory. -/
def tiles (data : ByteArray) (d : Directory) (c : Cut) (k : Kind) (width height : Nat) :
    Except ImageFault (Array (ByteArray × Nat)) := do
  let method := d.value 259 1
  let bits := if c.apart then k.bits else k.bits * k.count
  let count := c.perLayer width height * if c.apart then k.count else 1
  let used := c.offsets.extract 0 count
  if method = 1 then
    let ordered := used.toList.zipIdx.mergeSort fun a b => a.1 ≤ b.1
    ordered.forM fun (offset, n) => (c.rowsOf width height bits n offset).check bits data
    pure (used.map fun offset => (data, offset))
  else if !d.isWhole then throw (.cannotUnpack (-2))
  else
    let row := (c.width * bits + 7) / 8
    (Array.range used.size).mapM fun n => do
      let offset := used.getD n 0
      let size := c.sizes.getD n (data.size - offset)
      let rows := if (d.values? 273).isSome then (c.rowsOf width height bits n 0).height
        else c.height
      if data.size < offset + size then throw (.cannotUnpack (-2))
      match unpack? method (data.extract offset (offset + size)) (row * rows) with
      | none => throw (.cannotUnpack (-2))
      | some found =>
        let pixel := max 1 (bits / 8)
        let found := if d.value 317 1 = 2 ∧ k.bits = 8 ∧ [5, 8, 32946].contains method then
          withoutPredictor found row pixel else found
        pure (found, 0)

/-- The picture that is held in a way that turns it: mirrored, upside down, or on its side. -/
def oriented (p : Picture) (way : Nat) : Picture :=
  let (w, h) := (p.width, p.height)
  let at' (x y : Nat) : Rgb := p.pixel (y * w + x)
  match way with
  | 2 => .tabulate w h fun x y => at' (w - 1 - x) y
  | 3 => .tabulate w h fun x y => at' (w - 1 - x) (h - 1 - y)
  | 4 => .tabulate w h fun x y => at' x (h - 1 - y)
  | 5 => .tabulate h w fun x y => at' y x
  | 6 => .tabulate h w fun x y => at' y (h - 1 - x)
  | 7 => .tabulate h w fun x y => at' (w - 1 - y) (h - 1 - x)
  | 8 => .tabulate h w fun x y => at' (w - 1 - y) x
  | _ => p

/-- The ways of packing that are known. -/
def methods : List Nat :=
  [1, 2, 3, 4, 5, 6, 7, 8, 32771, 32773, 32809, 32946, 34676, 34677, 34925, 50000, 50001]

/-- The picture in data, if they are a tagged image. -/
def decode (data : ByteArray) : Reading := OptionT.run do
  let d ← Attempt.ofOption (directory? data)
  Attempt.require (methods.contains (d.value 259 1))
  Attempt.require ((d.values? 256).isSome && (d.values? 257).isSome)
  Attempt.insist (d.isInteger 256 && d.isInteger 257) .badSize
  let (width, height) := (d.value 256 0, d.value 257 0)
  let k ← Attempt.ofOption (kind? d)
  Attempt.require
    (d.value 259 1 != 1 || (d.values? 273).isSome || (d.values? 324).isSome)
  let c ← cut d width height
  Attempt.size width height
  let found ← Attempt.lift (tiles data d c k width height)
  let (across, perLayer) := (c.across width, c.perLayer width height)
  let one : Kind := { k with count := 1, meaning := 1 }
  let layout := if c.apart then one.layout else k.layout
  let colourAt (layer x y : Nat) : Rgb :=
    match found[layer * perLayer + y / c.height * across + x / c.width]? with
    | none => .black
    | some (bytes, offset) =>
      let n := y / c.height * across + x / c.width
      let row := (c.rowsOf width height layout.bits n offset).step layout.bits
      layout.colour bytes (offset + row * (y % c.height)) (x % c.width)
  let p := Picture.tabulate width height fun x y =>
    if c.apart then k.mixture fun layer => (colourAt layer x y).red.toNat else colourAt 0 x y
  pure (oriented p (d.value 274 1))

end SceneScript.Tiff
