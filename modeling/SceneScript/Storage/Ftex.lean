import SceneScript.Storage.Rows
import SceneScript.Storage.Texture

/-!
# Game textures

A head of eight numbers, of which the last says where the pixels begin: their size, and then the
pixels in blocks or one by one.
-/

namespace SceneScript.Ftex

/-- The picture in data, if they are a game texture. -/
def decode (data : ByteArray) : Reading := OptionT.run do
  Attempt.require (Bytes.begins data "FTEX" && 32 ≤ data.size)
  let field (k : Nat) : Nat := Bytes.lowAt data (4 * k) 4
  let (width, height, format, start) := (field 2, field 3, field 6, field 7)
  Attempt.require (start + 4 ≤ data.size)
  let pixels := data.extract (start + 4) (start + 4 + Bytes.lowAt data start 4)
  Attempt.insist (format ≤ 1) (.unknownTexture (Int.bmod format 4294967296))
  Attempt.size width height
  Attempt.lift (if format = 0 then Texture.read .one pixels 0 width height
    else ({ offset := 0, width, height } : Rows).read (.parts 3 0 1 2) pixels)

end SceneScript.Ftex
