import SceneScript.Storage.Rows

/-!
# Bitmaps

A bitmap has two heads, and then pixels in rows of whole words, from the bottom or from the top. It
is written with three bytes to a pixel and a resolution of 96 to the inch. It is read with any
number of bits to a pixel, with a palette if there are at most eight, in rows or in runs
(`Bitmap.runs`). `Bitmap.describe` makes out where the pixels are, and `Bitmap.Surface.read` reads
them.
-/

namespace SceneScript.Bitmap

/-- The zeros that fill a row up to whole words. -/
def padding (p : Picture) : Nat := (4 - 3 * p.width % 4) % 4

/-- The number of bytes of the rows. -/
def rowBytes (p : Picture) : Nat := (3 * p.width + padding p) * p.height

/-- The second head. -/
def innerHead (p : Picture) : ByteArray :=
  Bytes.ofList (Bytes.low 4 40 ++ Bytes.low 4 p.width ++ Bytes.low 4 p.height ++ Bytes.low 2 1 ++
    Bytes.low 2 24 ++ Bytes.low 4 0 ++ Bytes.low 4 (rowBytes p) ++ Bytes.low 4 3780 ++
    Bytes.low 4 3780 ++ Bytes.low 8 0)

/-- Both heads. -/
def head (p : Picture) : ByteArray :=
  Bytes.ofList ([66, 77] ++ Bytes.low 4 (54 + rowBytes p) ++ Bytes.low 4 0 ++ Bytes.low 4 54) ++
    innerHead p

/-- A picture as a bitmap. -/
def encode (p : Picture) : ByteArray := head p ++ p.upwards (padding p)

/-- A picture as a bitmap without the first head. -/
def encodeInner (p : Picture) : ByteArray := innerHead p ++ p.upwards (padding p)

/-! ## Reading the heads -/

/-- What the second head of a bitmap says. -/
structure Head where
  width : Nat
  height : Nat
  /-- Whether the first row is the top one. -/
  downwards : Bool
  bits : Nat
  compression : Nat
  colours : Nat
  /-- The bytes of an entry of the palette. -/
  entry : Nat
  /-- The bits of a pixel that are its red, its green, its blue and its opacity. -/
  masks : List Nat
  /-- Where the head ends. -/
  stop : Nat
  /-- The bytes of the head. -/
  size : Nat

/-- The sizes of the second head. -/
def headSizes : List Nat := [12, 40, 52, 56, 64, 108, 124]

/-- The second head, if it has the short form. -/
def shortHead (data : ByteArray) (start : Nat) : Head :=
  let field (k : Nat) : Nat := Bytes.lowAt data (start + k) 2
  ⟨field 4, field 6, false, field 10, 0, 0, 3, [], start + 12, 12⟩

/-- The second head of a longer form. The masks stand in the longest ones, and after the others. -/
def longHead (data : ByteArray) (start size : Nat) : Head :=
  let field (k : Nat) : Nat := Bytes.lowAt data (start + k) 4
  let height := field 8
  let downwards := Bytes.byteAt data (start + 11) == 255
  let compression := field 16
  let masks := [field 40, field 44, field 48, if 56 ≤ size then field 52 else 0]
  let stop := start + size + if compression = 3 ∧ size < 52 then 12 else 0
  ⟨field 4, if downwards then 1 <<< 32 - height else height, downwards,
    Bytes.lowAt data (start + 14) 2, compression, field 32, 4, masks, stop, size⟩

/-- The second head of a bitmap at an offset. -/
def readHead (data : ByteArray) (start : Nat) : Attempt Head := do
  Attempt.require (start + 4 ≤ data.size)
  let size := Bytes.lowAt data start 4
  Attempt.insist (size ≤ 4 || start + size ≤ data.size) .readTooLittle
  Attempt.insist (headSizes.contains size) (.unsupportedBitmap "header type" size)
  if size = 12 then pure (shortHead data start)
  else
    let h := longHead data start size
    Attempt.require (h.stop ≤ data.size)
    pure h

/-! ## Reading the pixels -/

/-- The masks of pixels of 32 bits, each with the bytes of a pixel that are its red, its green and
its blue. -/
def wideMasks : List (List Nat × Nat × Nat × Nat) :=
  [([0xff0000, 0xff00, 0xff, 0], 2, 1, 0), ([0xff000000, 0xff0000, 0xff00, 0], 3, 2, 1),
    ([0xff000000, 0xff00, 0xff, 0], 3, 1, 0), ([0xff000000, 0xff0000, 0xff00, 0xff], 3, 2, 1),
    ([0xff, 0xff00, 0xff0000, 0xff000000], 0, 1, 2),
    ([0xff0000, 0xff00, 0xff, 0xff000000], 2, 1, 0),
    ([0xff000000, 0xff00, 0xff, 0xff0000], 3, 1, 0), ([0, 0, 0, 0], 2, 1, 0)]

/-- Pixels of fifteen bits. -/
def fifteen : Layout := .wide 2 fun byte => Rgb.ofFifteen (byte 0 + 256 * byte 1)

/-- Pixels of sixteen bits. -/
def sixteen : Layout := .wide 2 fun byte => Rgb.ofSixteen (byte 0 + 256 * byte 1)

/-- The layout of pixels whose parts have the given masks. -/
def maskedLayout? (bits : Nat) (masks : List Nat) : Option Layout :=
  if bits = 32 then (wideMasks.lookup masks).map fun (red, green, blue) => .parts 4 red green blue
  else if bits = 24 ∧ masks.take 3 = [0xff0000, 0xff00, 0xff] then some (.parts 3 2 1 0)
  else if bits = 16 ∧ masks.take 3 = [0xf800, 0x7e0, 0x1f] then some sixteen
  else if bits = 16 ∧ masks.take 3 = [0x7c00, 0x3e0, 0x1f] then some fifteen
  else none

/-- How the pixels of a bitmap are held: in rows, or in runs of one byte or of two halves of a byte,
which only some layouts have. -/
inductive Coding
  | rows (layout : Layout)
  | runs (halves : Bool) (layout : Option Layout)

/-- The pixels of a bitmap that has been described: their place, and whether the palette has too
many entries. -/
structure Surface where
  rows : Rows
  coding : Coding
  palette : Except ImageFault Unit

/-- The layouts of pixels without a palette. -/
def directLayout (bits : Nat) : Layout :=
  if bits = 16 then fifteen else .parts (bits / 8) 2 1 0

/-- Whether the entries of a palette are just the shades of grey: black and white if there are two,
and otherwise from zero on. -/
def isGrey (entries : ByteArray) (entry colours : Nat) : Bool :=
  (List.range colours).all fun i =>
    let shade := if colours = 2 then 255 * i else i % 256
    Bytes.hasAt entries (entry * i) [UInt8.ofNat shade, UInt8.ofNat shade, UInt8.ofNat shade]

/-- What a bitmap with a palette holds: how its pixels are laid out in rows and in runs. A palette
of shades of grey is left out, and then the bits of the pixels are not what the head says. -/
def paletteLayout (data : ByteArray) (h : Head) (colours : Nat) :
    Layout × Option Layout × Except ImageFault Unit :=
  let entries := data.extract h.stop (h.stop + h.entry * colours)
  if isGrey entries h.entry colours then
    if colours = 2 then (.bit, none, .ok ()) else (.grey 8, some (.grey 8), .ok ())
  else
    let p : Palette := ⟨entries, h.entry, true⟩
    (.palette h.bits p, some (.palette 8 p), p.check)

/-- Describes the pixels of a bitmap whose second head stands at an offset, and whose first head
says where its pixels are, if it is there. -/
def describe (data : ByteArray) (start given : Nat) : Attempt Surface := do
  let h ← readHead data start
  let colours := if h.colours = 0 then 1 <<< h.bits else h.colours
  let given := if given = 14 + h.size ∧ h.bits ≤ 8 then given + h.entry * colours else given
  Attempt.insist ([1, 4, 8, 16, 24, 32].contains h.bits) (.unsupportedBitmap "pixel depth" h.bits)
  let masked := maskedLayout? h.bits h.masks
  Attempt.insist (h.compression != 3 || masked.isSome) .badLayout
  Attempt.insist (h.compression ≤ 3) (.unsupportedBitmap "compression" h.compression)
  let hasPalette := h.bits ≤ 8
  Attempt.insist (!hasPalette || colours ≤ 65536) (.unsupportedBitmap "Palette size" colours)
  let (inRows, inRuns, palette) := if hasPalette then paletteLayout data h colours
    else (masked.getD (directLayout h.bits), none, .ok ())
  let inRows := if hasPalette ∨ h.compression = 3 then inRows else directLayout h.bits
  let stop := if hasPalette then min data.size (h.stop + h.entry * colours) else h.stop
  let coded := h.compression = 1 ∨ h.compression = 2
  let stride := if coded then 0 else (h.width * h.bits + 31) / 32 * 4
  pure {
    rows := ⟨if given = 0 then stop else given, h.width, h.height, stride, !h.downwards⟩
    coding := if coded then .runs (h.compression == 2) inRuns else .rows inRows
    palette := palette }

/-! ## Runs -/

/-- The first bytes of the halves of a byte, taken in turn. -/
def halved (b count : Nat) : ByteArray :=
  count.fold (fun i _ out => out.push (UInt8.ofNat (if i % 2 = 0 then b / 16 else b % 16))) .empty

/-- So many equal bytes. -/
def repeated (b count : Nat) : ByteArray :=
  count.fold (fun _ _ out => out.push (UInt8.ofNat b)) .empty

/-- The bytes that runs from an offset on stand for, given those so far and the column. A run stays
in its row. A zero is an escape: to the end of the row, to the end, over pixels to the right and
above, or to pixels that are given one by one and fill whole words. -/
def runs (data : ByteArray) (width count : Nat) (halves : Bool) :
    Nat → Nat → Nat → ByteArray → Except ImageFault ByteArray
  | 0, _, _, out => .ok out
  | fuel + 1, offset, x, out =>
    if count ≤ out.size ∨ data.size < offset + 2 then .ok out
    else
      let (n, b) := (Bytes.byteAt data offset, Bytes.byteAt data (offset + 1))
      let next := offset + 2
      if 0 < n then
        let n := if width < x + n then width - x else n
        runs data width count halves fuel next (x + n)
          (out ++ if halves then halved b n else repeated b n)
      else if b = 0 then
        runs data width count halves fuel next 0
          (out ++ Bytes.zeros ((width - out.size % width) % width))
      else if b = 1 then .ok out
      else if b = 2 then
        if data.size < next + 2 then .ok out
        else if data.size < next + 4 then .error (.missingPair (data.size - (next + 2)))
        else
          let step := Bytes.byteAt data (next + 2) + Bytes.byteAt data (next + 3) * width
          let out := out ++ Bytes.zeros step
          runs data width count halves fuel (next + 4) (out.size % width) out
      else
        let size := if halves then b / 2 else b
        let found := data.extract next (next + size)
        let out := out ++ if halves then found.foldl (fun out b => out ++ halved b.toNat 2) .empty
          else found
        if data.size < next + size then .ok out
        else runs data width count halves fuel (next + size + (next + size) % 2) (x + b) out

/-- The picture of the pixels that have been described. -/
def Surface.read (s : Surface) (data : ByteArray) : Except ImageFault Picture := do
  s.palette
  match s.coding with
  | .rows l => s.rows.read l data
  | .runs halves layout =>
    let count := s.rows.width * s.rows.height
    let bytes ← runs data s.rows.width count halves (data.size + 1) s.rows.offset 0 .empty
    match layout with
    | none => throw .unknownLayout
    | some l => ({ s.rows with offset := 0 } : Rows).unpacked l bytes

/-- The picture of a bitmap whose second head stands at an offset. -/
def decodeAt (data : ByteArray) (start given : Nat) : Attempt Picture := do
  let s ← describe data start given
  Attempt.size s.rows.width s.rows.height
  Attempt.lift (s.read data)

/-- The picture of a bitmap, if the data are one. -/
def decode (data : ByteArray) : Reading := OptionT.run do
  Attempt.require (Bytes.begins data "BM" && 14 ≤ data.size)
  decodeAt data 14 (Bytes.lowAt data 10 4)

/-- The picture of a bitmap without the first head, if the data are one. -/
def decodeInner (data : ByteArray) : Reading := OptionT.run do
  Attempt.require (headSizes.contains (Bytes.lowAt data 0 4) && 4 ≤ data.size)
  decodeAt data 0 0

end SceneScript.Bitmap
