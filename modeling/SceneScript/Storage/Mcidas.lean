import SceneScript.Storage.Rows

/-!
# Areas

Images of the weather: a head of 64 numbers, and rows of one value to a pixel behind a few bytes of
their own. Values have one, two or four bytes, the highest first.
-/

namespace SceneScript.Mcidas

/-- What an area begins with. -/
def start : List UInt8 := [0, 0, 0, 0, 0, 0, 0, 4]

/-- The layout of values of so many bytes. Those above a byte are white, and those below zero black.
-/
def layout? (bytes : Nat) : Option Layout :=
  match bytes with
  | 1 => some (.grey 8)
  | 2 => some (.wide 2 fun byte => Rgb.clippedGrey (256 * byte 0 + byte 1))
  | 4 => some (.wide 4 fun byte => if 128 ≤ byte 0 then .black
      else Rgb.clippedGrey (65536 * (256 * byte 0 + byte 1) + 256 * byte 2 + byte 3))
  | _ => none

/-- The picture in data, if they are an area. -/
def decode (data : ByteArray) : Reading := OptionT.run do
  Attempt.require (Bytes.hasAt data 0 start && 256 ≤ data.size)
  let field (k : Nat) : Nat := Bytes.highAt data (4 * (k - 1)) 4
  let layout ← Attempt.ofOption (layout? (field 11))
  let front := field 15
  Attempt.require (field 9 < 0x80000000 && field 10 < 0x80000000)
  ({ offset := field 34 + front, width := field 10, height := field 9,
      stride := front + field 10 * field 11 * field 14 } : Rows).attempt layout data

end SceneScript.Mcidas
