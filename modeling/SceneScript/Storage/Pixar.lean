import SceneScript.Storage.Rows

/-!
# Computer pictures

A head of 1024 bytes, and the pixels, three bytes to each.
-/

namespace SceneScript.Pixar

/-- The picture in data, if they are a computer picture. -/
def decode (data : ByteArray) : Reading := OptionT.run do
  Attempt.require (Bytes.hasAt data 0 [0x80, 0xe8, 0, 0] && 428 ≤ data.size)
  let field (offset : Nat) : Nat := Bytes.lowAt data offset 2
  Attempt.require (field 424 == 14 && field 426 == 2)
  ({ offset := 1024, width := field 418, height := field 416 } : Rows).attempt (.parts 3 0 1 2) data

end SceneScript.Pixar
