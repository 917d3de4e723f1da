import SceneScript.Raster.Canvas

/-!
# Pictures

A picture is what an output receives of a canvas: its colours, three bytes to a pixel, row by row
from the top. Files of pictures hold check sums of bytes (`Crc32`).
-/

namespace SceneScript

/-- An image of three bytes to a pixel, from the top left. -/
structure Picture where
  width : Nat
  height : Nat
  bytes : ByteArray
  deriving Inhabited

/-- The CRC-32 check sum, with the reflected polynomial `edb88320`. -/
def Crc32.table : Array UInt32 :=
  (Array.range 256).map fun n =>
    (List.range 8).foldl (fun c _ => if c &&& 1 == 1 then (c >>> 1) ^^^ 0xedb88320 else c >>> 1)
      (UInt32.ofNat n)

/-- The check sum register after one more byte. -/
@[inline] def Crc32.step (table : Array UInt32) (c : UInt32) (b : UInt8) : UInt32 :=
  (table[((c ^^^ b.toUInt32) &&& 0xff).toNat]?).getD 0 ^^^ (c >>> 8)

/-- The CRC-32 check sum of bytes. -/
def Crc32.ofBytes (bytes : ByteArray) : UInt32 :=
  let table := Crc32.table
  bytes.foldl (Crc32.step table) 0xffffffff ^^^ 0xffffffff

/-- The number of rows that have cells. -/
def Extent.filledRows (e : Extent) : Nat := if e.width = 0 then 0 else e.height

/-- The picture on a canvas. -/
def Canvas.picture {α : Type} (c : Canvas α) : Picture :=
  let { width, height } := c.extent
  let rows := c.extent.filledRows
  let row (bytes : ByteArray) (y : Nat) : ByteArray :=
    width.fold (fun x _ bytes =>
      match c.colours[y * width + x]? with
      | some k => ((bytes.push k.red).push k.green).push k.blue
      | none => bytes) bytes
  ⟨width, height, rows.fold (fun r _ bytes => row bytes (rows - 1 - r)) .empty⟩

namespace Picture

/-- The pixel with the given number, counted from the top left. -/
@[inline] def pixel (p : Picture) (i : Nat) : Rgb :=
  let byte (k : Nat) : UInt8 := (p.bytes[k]?).getD 0
  ⟨byte (3 * i), byte (3 * i + 1), byte (3 * i + 2)⟩

end Picture

end SceneScript
