import SceneScript.Storage.Rows

/-!
# Wavelet images

A stream of marked segments, which may stand in a box of a file of boxes. The first segment and the
box `ihdr` say how large the picture is. The pixels are not worked out.
-/

namespace SceneScript.Jpeg2000

/-- What a file of boxes begins with. -/
def boxMark : List UInt8 := [0, 0, 0, 12, 0x6a, 0x50, 0x20, 0x20, 13, 10, 0x87, 10]

/-- What a stream begins with. -/
def streamMark : List UInt8 := [0xff, 0x4f, 0xff, 0x51]

/-- Whether a wavelet image begins at an offset. -/
def isStart (data : ByteArray) (offset : Nat) : Bool :=
  Bytes.hasAt data offset boxMark || Bytes.hasAt data offset streamMark ||
    Bytes.hasAt data offset [13, 10, 0x87, 10]

/-- The data of a box from an offset on: its name, where its data begin, and where they end. -/
def boxAt (data : ByteArray) (offset stop : Nat) : Attempt (ByteArray × Nat × Nat) := do
  Attempt.require (offset + 8 ≤ stop)
  let size := Bytes.highAt data offset 4
  let wide := size = 1
  Attempt.require (!wide || offset + 16 ≤ stop)
  let size := if wide then Bytes.highAt data (offset + 8) 8
    else if size = 0 then stop - offset
    else size
  let start := offset + if wide then 16 else 8
  Attempt.require (start ≤ offset + size)
  pure (data.extract (offset + 4) (offset + 8), start, min stop (offset + size))

/-- Finds the first box with a name between two offsets. -/
def findBox (data : ByteArray) (name : String) (stop : Nat) : Nat → Nat → Attempt (Nat × Nat)
  | 0, _ => Attempt.foreign
  | fuel + 1, offset => do
    let (found, start, next) ← boxAt data offset stop
    if Bytes.begins found name then pure (start, next)
    else
      Attempt.require (offset < next)
      findBox data name stop fuel next

/-- Whether the segments of a stream from an offset on are whole. A tile says how long it is. -/
def isWhole (data : ByteArray) : Nat → Nat → Bool
  | 0, _ => false
  | fuel + 1, offset =>
    let mark := Bytes.highAt data offset 2
    if mark = 0xffd9 then true
    else if data.size < offset + 4 then false
    else if mark = 0xff90 then
      let length := Bytes.highAt data (offset + 6) 4
      if data.size < offset + 12 then false
      else if length = 0 then true
      else offset + length ≤ data.size && isWhole data fuel (offset + length)
    else isWhole data fuel (offset + 2 + Bytes.highAt data (offset + 2) 2)

/-- The size that the first segment of a stream says, if the parts of a pixel are known. -/
def streamSize (data : ByteArray) (offset : Nat) : Attempt (Nat × Nat) := do
  let field (k : Nat) : Nat := Bytes.highAt data (offset + 8 + 4 * k) 4
  Attempt.require (offset + 42 ≤ data.size)
  let parts := Bytes.highAt data (offset + 40) 2
  Attempt.require (1 ≤ parts && parts ≤ 4 && (parts != 1 || offset + 43 ≤ data.size))
  Attempt.require (field 2 < field 0 && field 3 < field 1)
  pure (field 0 - field 2, field 1 - field 3)

/-- The size that the head of a file of boxes says, and where the stream begins. -/
def boxSize (data : ByteArray) : Attempt (Nat × Nat × Nat) := do
  let (start, stop) ← findBox data "jp2h" data.size data.size 12
  let (first, behind) ← findBox data "ihdr" stop data.size start
  Attempt.require (first + 11 ≤ behind)
  let parts := Bytes.highAt data (first + 8) 2
  Attempt.require (1 ≤ parts && parts ≤ 4)
  let stream := match (findBox data "jp2c" data.size data.size stop).run with
    | .ok (some (stream, _)) => stream
    | _ => data.size
  pure (Bytes.highAt data (first + 4) 4, Bytes.highAt data first 4, stream)

/-- The picture in data, if they are a wavelet image. -/
def decode (data : ByteArray) : Reading := OptionT.run do
  let boxed := Bytes.hasAt data 0 boxMark
  Attempt.require (boxed || Bytes.hasAt data 0 streamMark)
  let (width, height, stream) ← if boxed then boxSize data
    else do
      let (width, height) ← streamSize data 0
      pure (width, height, 0)
  Attempt.size width height
  Attempt.insist (Bytes.hasAt data stream streamMark && isWhole data data.size (stream + 2)) .broken
  pure (Picture.standIn data width height)

end SceneScript.Jpeg2000
