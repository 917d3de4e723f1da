import SceneScript.Storage.Jpeg.Decode
import SceneScript.Storage.Texture

/-!
# Textures in many sizes

A head, the places and the lengths of sixteen copies of the texture, each of half the size of the
one in front of it, and a palette. Only the first copy is read. It is held as numbers of the
palette, as a photograph, or in blocks of four by four pixels.
-/

namespace SceneScript.Blp

/-- What a head says: how the pixels are held, whether they have opacities and of which kind, and
where the tables of the copies begin. -/
structure Head where
  packing : Int
  coding : Int
  hasOpacity : Bool
  opacity : Int
  tables : Nat

/-- The head of a texture in the first form. -/
def firstHead (data : ByteArray) : Attempt Head := do
  let signed (offset : Nat) : Int := Int.bmod (Bytes.lowAt data offset 4) 4294967296
  Attempt.require (24 ≤ data.size)
  pure ⟨signed 4, signed 20, Bytes.lowAt data 8 4 != 0, 0, 28⟩

/-- The head of a texture in the second form. -/
def secondHead (data : ByteArray) : Attempt Head := do
  let signed (offset : Nat) : Int := Int.bmod (Bytes.byteAt data offset) 256
  Attempt.require (20 ≤ data.size)
  pure ⟨Int.bmod (Bytes.lowAt data 4 4) 4294967296, signed 8, signed 9 != 0, signed 10, 20⟩

/-- The bytes of the two tables. -/
def tablesSize : Nat := 128

/-- The bytes of the palette. -/
def paletteSize : Nat := 1024

/-- So many bytes at an offset. -/
def piece (data : ByteArray) (offset size : Nat) : Except ImageFault ByteArray :=
  if size ≠ 0 ∧ data.size < offset + size then .error .readTooLittle
  else .ok (data.extract offset (offset + size))

/-- Reads pixels that are numbers of the palette at an offset. -/
def readNumbers (rows : Rows) (palette numbers : ByteArray) : Except ImageFault Picture :=
  rows.unpacked (.palette 8 ⟨palette, 4, true⟩) numbers

/-- Reads pixels from the photograph whose head stands at an offset, and the rest of it in the copy.
Its colours have blue as the first part. -/
def readPhotograph (rows : Rows) (data : ByteArray) (offset copy length : Nat) :
    Except ImageFault Picture := do
  let size := Bytes.lowAt (← piece data offset 4) 0 4
  let head ← piece data (offset + 4) size
  let _ ← piece data (offset + 4 + size) (copy - (offset + 4 + size))
  let rest ← piece data (max copy (offset + 4 + size)) length
  match ← Jpeg.decode (head ++ rest) with
  | none => throw .noPhotograph
  | some p => rows.unpacked (.parts 3 2 1 0) p.bytes

/-- A colour of sixteen bits, whose lowest bits are zero. -/
def narrowColour (n : Nat) : Rgb :=
  Rgb.ofNats (8 * (n / 2048 % 32)) (4 * (n / 32 % 64)) (8 * (n % 32))

/-- The kinds of blocks by the kinds of opacities. -/
def kinds : List (Int × Texture.Kind) := [(0, .one), (1, .two), (7, .three)]

/-- The colour and the opacity of a pixel of a block at an offset. -/
def pixelAt (kind : Texture.Kind) (data : ByteArray) (offset pixel : Nat) : Rgb × Nat :=
  let apart := Texture.colour narrowColour data (offset + 8) true pixel
  match kind with
  | .two => (apart, 17 * ((Bytes.byteAt data (offset + pixel / 2) >>> (4 * (pixel % 2))) % 16))
  | .three => (apart, Texture.value data offset pixel)
  | _ => (Texture.colour narrowColour data offset false pixel, 255)

/-- Reads pixels in blocks from an offset on. The rows of the blocks are taken one after the other
as they are, also if they are longer than those of the picture. All blocks but the plainest ones
hold opacities, whether these are wanted or not. -/
def readBlocks (rows : Rows) (kind : Texture.Kind) (data : ByteArray) (offset : Nat)
    (hasOpacity : Bool) : Except ImageFault Picture := do
  let (across, down) := ((rows.width + 3) / 4, (rows.height + 3) / 4)
  let blocks ← piece data offset (kind.size * across * down)
  let bytes := (16 * across * down).fold (fun n _ (out : ByteArray) =>
    let (x, y) := (n % (4 * across), n / (4 * across))
    let (k, opacity) := pixelAt kind blocks (kind.size * (y / 4 * across + x / 4))
      (4 * (y % 4) + x % 4)
    let out := ((out.push k.red).push k.green).push k.blue
    if kind = .one ∧ !hasOpacity then out else out.push (UInt8.ofNat opacity)) .empty
  rows.unpacked (.parts (if hasOpacity then 4 else 3) 0 1 2) bytes

/-- Reads a texture in the first form. -/
def readFirst (h : Head) (rows : Rows) (data : ByteArray) : Except ImageFault Picture := do
  let tables ← piece data h.tables tablesSize
  let (copy, length) := (Bytes.lowAt tables 0 4, Bytes.lowAt tables 64 4)
  let start := h.tables + tablesSize
  if h.packing = 0 then readPhotograph rows data start copy length
  else if h.packing ≠ 1 then throw (.unknownPacking "Unsupported BLP compression" h.coding)
  else if h.coding ≠ 4 ∧ h.coding ≠ 5 then
    throw (.unknownPacking "Unsupported BLP encoding" h.coding)
  else
    let palette ← piece data start paletteSize
    readNumbers rows palette (← piece data (start + paletteSize) length)

/-- Reads a texture in the second form. -/
def readSecond (h : Head) (rows : Rows) (data : ByteArray) : Except ImageFault Picture := do
  let tables ← piece data h.tables tablesSize
  let (copy, length) := (Bytes.lowAt tables 0 4, Bytes.lowAt tables 64 4)
  let palette ← piece data (h.tables + tablesSize) paletteSize
  if h.packing ≠ 1 then throw (.unknownPacking "Unknown BLP compression" h.packing)
  else if h.coding = 1 then readNumbers rows palette (← piece data copy length)
  else if h.coding ≠ 2 then throw (.unknownPacking "Unknown BLP encoding" h.coding)
  else
    match kinds.lookup h.opacity with
    | some kind => readBlocks rows kind data copy h.hasOpacity
    | none => throw (.unknownPacking "Unsupported alpha encoding" h.opacity)

/-- The picture in data, if they are such a texture. -/
def decode (data : ByteArray) : Reading := OptionT.run do
  let isFirst := Bytes.begins data "BLP1"
  Attempt.require (isFirst || Bytes.begins data "BLP2")
  let h ← if isFirst then firstHead data else secondHead data
  let (width, height) := (Bytes.lowAt data 12 4, Bytes.lowAt data 16 4)
  Attempt.size width height
  let rows : Rows := { offset := 0, width, height }
  Attempt.lift (if isFirst then readFirst h rows data else readSecond h rows data)

end SceneScript.Blp
