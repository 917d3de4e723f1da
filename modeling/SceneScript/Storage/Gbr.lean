import SceneScript.Storage.Rows

/-!
# Brushes

A head whose size is its first number, and the pixels, one byte or four to each.
-/

namespace SceneScript.Gbr

/-- The picture in data, if they are a brush. -/
def decode (data : ByteArray) : Reading := OptionT.run do
  let field (k : Nat) : Nat := Bytes.highAt data (4 * k) 4
  let (size, version, width, height, bytes) := (field 0, field 1, field 2, field 3, field 4)
  Attempt.require (20 ≤ size && (version == 1 || version == 2) && 20 ≤ data.size)
  Attempt.require (width != 0 && height != 0 && (bytes == 1 || bytes == 4))
  Attempt.require (version == 1 || (Bytes.hasAt data 20 "GIMP".toUTF8.toList && 28 ≤ data.size))
  Attempt.size width height
  let offset := if version = 2 ∧ size < 28 then data.size else size
  let layout : Layout := if bytes = 1 then .grey 8 else .parts 4 0 1 2
  Attempt.lift (({ offset, width, height } : Rows).unpacked layout data)

end SceneScript.Gbr
