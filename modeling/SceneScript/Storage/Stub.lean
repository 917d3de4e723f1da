import SceneScript.Storage.Rows

/-!
# Formats that are recognised and not read

Data of these formats are left to programs that are not there, or have no pixels of their own.
-/

namespace SceneScript.Stub

/-- An integer of so many bytes with a sign, the lowest byte first. -/
def signedAt (data : ByteArray) (offset size : Nat) : Int :=
  Int.bmod (Bytes.lowAt data offset size) (1 <<< (8 * size))

/-- Data of the weather in the first of two forms. -/
def weatherTable (data : ByteArray) : Reading := OptionT.run do
  Attempt.require (Bytes.begins data "BUFR" || Bytes.begins data "ZCZC")
  Attempt.fault (.noLoader "BUFR")

/-- Data of the weather in the second of two forms. -/
def weatherGrid (data : ByteArray) : Reading := OptionT.run do
  Attempt.require (Bytes.begins data "GRIB" && 8 ≤ data.size && Bytes.byteAt data 7 == 1)
  Attempt.fault (.noLoader "GRIB")

/-- Data in a hierarchy. -/
def hierarchy (data : ByteArray) : Reading := OptionT.run do
  Attempt.require (Bytes.hasAt data 0 [0x89, 0x48, 0x44, 0x46, 0x0d, 0x0a, 0x1a, 0x0a])
  Attempt.fault (.noLoader "HDF5")

/-- The size of a metafile that is placed, in points, if it has a unit. -/
def placedSize (data : ByteArray) : Attempt (Int × Int) := do
  let unit := Bytes.lowAt data 14 2
  Attempt.require (16 ≤ data.size)
  Attempt.insist (unit != 0) .badUnit
  Attempt.require (Bytes.hasAt data 22 [1, 0, 9, 0])
  let length (from0 to0 : Nat) : Int :=
    ((signedAt data to0 2 - signedAt data from0 2) * 72).fdiv unit
  pure (length 6 10, length 8 12)

/-- A metafile. -/
def metafile (data : ByteArray) : Reading := OptionT.run do
  let placed := Bytes.hasAt data 0 [0xd7, 0xcd, 0xc6, 0x9a, 0, 0]
  Attempt.require (placed ||
    (Bytes.hasAt data 0 [1, 0, 0, 0] && Bytes.hasAt data 40 " EMF".toUTF8.toList))
  let (width, height) ← if placed then placedSize data
    else pure (signedAt data 16 4 - signedAt data 8 4, signedAt data 20 4 - signedAt data 12 4)
  Attempt.require (0 < width && 0 < height)
  Attempt.lift (checkPixels width.toNat height.toNat)
  Attempt.fault (.noLoader "WMF")

/-- A film, whose head says how large it is and no more. -/
def film (data : ByteArray) : Reading := OptionT.run do
  Attempt.require (Bytes.hasAt data 0 [0, 0, 1, 0xb3] && 7 ≤ data.size)
  let n := Bytes.highAt data 4 3
  Attempt.size (n / 4096) (n % 4096)
  Attempt.fault .notReadable

/-- A photograph of a disc, whose first size is 768 by 512 pixels. Its head stands behind others.
Every two rows take 2304 bytes. -/
def disc (data : ByteArray) : Reading := OptionT.run do
  Attempt.require (Bytes.hasAt data 2048 "PCD_".toUTF8.toList && 2048 + 1539 ≤ data.size)
  let turned := Bytes.byteAt data (2048 + 1538) % 2 = 1
  let start := 96 * 2048
  let rest := data.size - start
  Attempt.insist (256 * 2304 ≤ rest) (.cutShort (rest % 2304))
  let pixel (x y : Nat) : Rgb :=
    let row := start + 2304 * (y / 2)
    Rgb.ofChroma (Bytes.byteAt data (row + 768 * (y % 2) + x))
      (Bytes.byteAt data (row + 1536 + x / 2)) (Bytes.byteAt data (row + 1920 + x / 2))
  pure (if turned then .tabulate 512 768 fun x y => pixel y x else .tabulate 768 512 pixel)

end SceneScript.Stub
