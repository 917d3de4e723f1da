import SceneScript.Storage.Rows

/-!
# Targas

A targa has a head of eighteen bytes, the pixels, and a foot with its name. It is written with three
bytes to a pixel. It is read as grey, as colour or with a palette, in rows that are stored as they
are or in runs. Nothing in front says that data are a targa: they are one if the head makes sense.
-/

namespace SceneScript.Targa

/-- The head of a picture. -/
def head (p : Picture) : ByteArray :=
  Bytes.ofList ([0, 0, 2] ++ Bytes.low 9 0 ++ Bytes.low 2 p.width ++ Bytes.low 2 p.height ++
    [24, 0])

/-- A picture as a targa. -/
def encode (p : Picture) : ByteArray :=
  head p ++ p.upwards 0 ++ Bytes.zeros 8 ++ "TRUEVISION-XFILE.".toUTF8 ++ Bytes.zeros 1

/-! ## Reading -/

/-- What a pixel of a targa is. -/
inductive Pixel
  | bit | grey | greyAlpha | numbered | fifteen | colour | colourAlpha
  deriving Repr, DecidableEq, Inhabited

namespace Pixel

/-- The kind of the pixels of the given type of image with so many bits. -/
def ofType? (type bits : Nat) : Option Pixel :=
  match type, bits with
  | 1, 8 => some numbered
  | 3, 1 => some bit
  | 3, 8 => some grey
  | 3, 16 => some greyAlpha
  | 2, 16 => some fifteen
  | 2, 24 => some colour
  | 2, 32 => some colourAlpha
  | _, _ => none

/-- Whether the pixels are numbers of the colours of a palette, if there is one. -/
def takesPalette : Pixel → Bool
  | grey | greyAlpha | numbered => true
  | bit | fifteen | colour | colourAlpha => false

/-- How the pixels stand in a row, given the palette. -/
def layout (kind : Pixel) (palette : Palette) : Layout :=
  match kind with
  | bit => .bit
  | grey | numbered => .palette 8 palette
  | greyAlpha => .wide 2 fun byte => palette.colour (byte 0)
  | fifteen => .wide 2 fun byte => Rgb.ofFifteen (byte 0 + 256 * byte 1)
  | colour => .parts 3 2 1 0
  | colourAlpha => .parts 4 2 1 0

end Pixel

/-- The palette that stands at an offset, as the head describes it, and the offset after it. Its
first entries may be missing. -/
def paletteAt? (data : ByteArray) (offset : Nat) : Option (Palette × Nat) :=
  let start := Bytes.lowAt data 3 2
  let count := Bytes.lowAt data 5 2
  let bits := Bytes.byteAt data 7
  let size := bits / 8
  let stop := offset + size * count
  let entries := Bytes.zeros (size * start) ++ data.extract offset stop
  if bits = 24 ∨ bits = 32 then some (⟨entries, size, true⟩, stop)
  else if bits = 16 then
    let colours := (List.range (entries.size / 2)).flatMap fun i =>
      let c := Rgb.ofFifteen (Bytes.lowAt entries (2 * i) 2)
      [c.red, c.green, c.blue]
    some (⟨Bytes.ofList colours, 3, false⟩, stop)
  else none

/-- The bytes of runs from an offset on, until there are so many. A run does not cross the end of a
row. -/
def runs (data : ByteArray) (size row count : Nat) :
    Nat → Nat → ByteArray → Except ImageFault ByteArray
  | 0, _, out => .ok out
  | fuel + 1, offset, out =>
    if count ≤ out.size then .ok out
    else if data.size ≤ offset ∨ size = 0 then .error (.cutShort 0)
    else
      let n := Bytes.byteAt data offset
      let length := size * (n % 128 + 1)
      let rest := data.size - offset
      if 128 ≤ n then
        if rest < 1 + size then .error (.cutShort rest)
        else if row < out.size % row + length then .error .overrun
        else
          let pixel := data.extract (offset + 1) (offset + 1 + size)
          runs data size row count fuel (offset + 1 + size)
            ((n % 128 + 1).fold (fun _ _ out => out ++ pixel) out)
      else if rest < 1 + length then .error (.cutShort rest)
      else
        runs data size row count fuel (offset + 1 + length)
          (out ++ data.extract (offset + 1) (offset + 1 + length))

/-- The bytes of the foot. -/
def footSize : Nat := 26

/-- Whether data that may hold opacities are long enough to end with a foot that says so. It is
looked for when the pixels have been read, whether they were whole or not. -/
def checkFoot (data : ByteArray) (type bits : Nat) (r : Except ImageFault Picture) :
    Except ImageFault Picture :=
  match r with
  | .error (.cutShort left) => .error (.cutShort left)
  | r => if type = 2 ∧ bits ≠ 24 ∧ data.size < footSize then .error .outsideFile else r

/-- Whether pixels may have a palette, which is settled when all has been read. -/
def checkPalette (kind : Pixel) (maps : Nat) (palette : Palette) : Except ImageFault Unit :=
  if maps = 0 then .ok ()
  else if kind.takesPalette then palette.check
  else .error .unknownMode

/-- The picture of a targa whose head makes sense, from the offset of its pixels on. -/
def decodeRows (data : ByteArray) (palette : Palette) (offset : Nat) :
    Except ImageFault Picture := do
  let (maps, type, bits) := (Bytes.byteAt data 1, Bytes.byteAt data 2, Bytes.byteAt data 16)
  let (width, height) := (Bytes.lowAt data 12 2, Bytes.lowAt data 14 2)
  let flags := Bytes.byteAt data 17
  checkPixels width height
  match Pixel.ofType? (type % 8) bits with
  | none => throw .notReadable
  | some kind =>
    if kind = .numbered then
      if maps = 0 then throw .unknownLayout
      palette.check
    let rows : Rows := ⟨offset, width, height, 0, !flags.testBit 5⟩
    let layout := kind.layout palette
    let found : Except ImageFault Picture := do
      if type < 8 then rows.read layout data
      else
        let size := rows.size bits
        let bytes ← runs data (bits / 8) size (size * height) data.size offset .empty
        pure (({ rows with offset := 0 } : Rows).picture layout bytes)
    let p ← checkFoot data (type % 8) bits found
    checkPalette kind maps palette
    if flags.testBit 4 then
      pure (.tabulate width height fun x y => p.pixel (y * width + (width - 1 - x)))
    else pure p

/-- The picture of a targa, if the data are one. -/
def decode (data : ByteArray) : Reading := OptionT.run do
  let (maps, type, bits) := (Bytes.byteAt data 1, Bytes.byteAt data 2, Bytes.byteAt data 16)
  let offset := 18 + Bytes.byteAt data 0
  Attempt.require (18 ≤ data.size && maps ≤ 1)
  Attempt.require (Bytes.lowAt data 12 2 != 0 && Bytes.lowAt data 14 2 != 0)
  Attempt.require ([1, 8, 16, 24, 32].contains bits && [1, 2, 3, 9, 10, 11].contains type)
  let (palette, offset) ← if maps = 1 then Attempt.ofOption (paletteAt? data offset)
    else pure (⟨.empty, 3, false⟩, offset)
  Attempt.lift (decodeRows data palette offset)

end SceneScript.Targa
