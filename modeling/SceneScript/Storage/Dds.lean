import SceneScript.Storage.Rows
import SceneScript.Storage.Texture

/-!
# Surfaces

A head of 128 bytes that says how a pixel is held: as a number whose bits are its parts, as shades
of grey, as numbers of a palette, or in blocks of four by four pixels.
-/

namespace SceneScript.Dds

/-! ## Writing -/

/-- The head of a surface. -/
def head (p : Picture) : ByteArray :=
  "DDS ".toUTF8 ++ Bytes.ofList (([124, 0x100f, p.height, p.width, 3 * p.width, 0, 0] ++
    List.replicate 11 0 ++ [32, 64, 0, 24, 0xff0000, 0xff00, 0xff, 0, 0x1000, 0, 0, 0, 0]).flatMap
      (Bytes.low 4))

/-- The rows of a surface, with blue as the first part. -/
def rows (p : Picture) : ByteArray :=
  (p.width * p.height).fold (fun i _ out =>
    let k := p.pixel i
    ((out.push k.blue).push k.green).push k.red) .empty

/-- A picture in bytes. -/
def encode (p : Picture) : ByteArray := head p ++ rows p

/-! ## Reading -/

/-- The count of zeros at the end of a number, whose bits are not all zero. -/
def shift (mask : Nat) : Nat := ((List.range 32).find? mask.testBit).getD 0

/-- A part of a pixel as a byte, the share of the mask that it fills. -/
def masked (value mask : Nat) : Nat :=
  let s := shift mask
  (Float.ofNat ((value &&& mask) >>> s) / Float.ofNat (mask >>> s) * 255).toUInt8.toNat

/-- The layout of pixels that are numbers of so many bits. What is missing of a number is zero. -/
def maskedLayout (bits : Nat) (masks : List Nat) : Layout where
  bits := bits / 8 * 8
  colour data row x :=
    let value := Bytes.lowAt data (row + bits / 8 * x) (bits / 8)
    let part (k : Nat) : Nat := masked value (masks[k]?.getD 0)
    Rgb.ofNats (part 0) (part 1) (part 2)

/-- How the pixels of a surface are held: in rows at an offset, all of which need not be there, or
in blocks. -/
inductive Held
  | loose (layout : Layout)
  | rows (layout : Layout) (offset : Nat)
  | blocks (kind : Texture.Kind) (offset : Nat)

/-- The kinds of blocks by their names of four letters. -/
def namedKinds : List (String × Texture.Kind) :=
  [("DXT1", .one), ("DXT3", .two), ("DXT5", .three), ("BC4U", .four), ("ATI1", .four),
    ("BC5S", .fiveSigned), ("BC5U", .five), ("ATI2", .five)]

/-- The kinds of blocks by their numbers. -/
def numberedKinds : List (Nat × Texture.Kind) :=
  [(70, .one), (71, .one), (73, .two), (74, .two), (76, .three), (77, .three), (79, .four),
    (80, .four), (82, .five), (83, .five), (84, .fiveSigned), (95, .six),
    (96, .six), (97, .seven), (98, .seven), (99, .seven)]

/-- How the pixels of a surface with a name of its format are held. -/
def namedFormat (data : ByteArray) : Attempt Held := do
  match namedKinds.find? fun (name, _) => Bytes.hasAt data 84 name.toUTF8.toList with
  | some (_, kind) => pure (.blocks kind 128)
  | none =>
    let code := Bytes.lowAt data 84 4
    Attempt.insist (Bytes.hasAt data 84 "DX10".toUTF8.toList) (.unknownPixelFormat code)
    Attempt.require (132 ≤ data.size)
    let number := Bytes.lowAt data 128 4
    match numberedKinds.lookup number with
    | some kind => pure (.blocks kind 148)
    | none =>
      Attempt.insist ([27, 28, 29].contains number) (.unknownSurfaceFormat number)
      pure (.rows (.parts 4 0 1 2) 148)

/-- How the pixels of a surface are held. -/
def held (data : ByteArray) : Attempt Held := do
  let (flags, bits) := (Bytes.lowAt data 80 4, Bytes.lowAt data 88 4)
  if flags.testBit 6 then
    let count := if flags.testBit 0 then 4 else 3
    let masks := (List.range count).map fun k => Bytes.lowAt data (92 + 4 * k) 4
    pure (.loose (maskedLayout bits masks))
  else if flags.testBit 17 then
    Attempt.insist (bits == 8 || (bits == 16 && flags.testBit 0)) (.surfaceDepth bits flags)
    pure (.rows (.wide (bits / 8) fun byte => Rgb.grey (byte 0)) 128)
  else if flags.testBit 5 then
    pure (.rows (.palette 8 ⟨data.extract 128 1152, 4, false⟩) (min data.size 1152))
  else if flags.testBit 2 then namedFormat data
  else Attempt.fault (.surfaceFlags flags)

/-- The picture in data, if they are a surface. -/
def decode (data : ByteArray) : Reading := OptionT.run do
  Attempt.require (Bytes.begins data "DDS " && 8 ≤ data.size)
  let size := Bytes.lowAt data 4 4
  Attempt.insist (size == 124) (.surfaceHead size)
  Attempt.insist (128 ≤ data.size) (.surfaceHeadCut (data.size - 8))
  let (height, width) := (Bytes.lowAt data 12 4, Bytes.lowAt data 16 4)
  let found ← held data
  Attempt.size width height
  match found with
  | .rows layout offset => Attempt.lift (({ offset, width, height } : Rows).read layout data)
  | .blocks kind offset => Attempt.lift (Texture.read kind data offset width height)
  | .loose layout =>
    pure (({ offset := 128, width, height } : Rows).picture layout data)

end SceneScript.Dds
