import SceneScript.Raster.Picture

/-!
# Numbers in bytes

Numbers in files have a fixed count of bytes, the lowest first or the highest first. `lowAt` and
`highAt` read what `low` and `high` write; a byte beyond the end counts as zero.
-/

namespace SceneScript.Bytes

/-- The bytes of a natural number, the lowest first. -/
def low (size n : Nat) : List UInt8 := (List.range size).map fun i => UInt8.ofNat (n >>> (8 * i))

/-- The bytes of a natural number, the highest first. -/
def high (size n : Nat) : List UInt8 := (low size n).reverse

/-- A list of bytes. -/
def ofList (bs : List UInt8) : ByteArray := ⟨bs.toArray⟩

/-- So many zeros. -/
def zeros (count : Nat) : ByteArray := count.fold (fun _ _ out => out.push 0) .empty

/-- The byte at an offset. -/
@[inline] def byteAt (data : ByteArray) (offset : Nat) : Nat := ((data[offset]?).getD 0).toNat

/-- The number in the bytes from an offset on, the lowest first. -/
def lowAt (data : ByteArray) (offset size : Nat) : Nat :=
  (List.range size).foldr (fun i n => n * 256 + byteAt data (offset + i)) 0

/-- The number in the bytes from an offset on, the highest first. -/
def highAt (data : ByteArray) (offset size : Nat) : Nat :=
  (List.range size).foldl (fun n i => n * 256 + byteAt data (offset + i)) 0

/-- Whether data has the given bytes at an offset. -/
def hasAt (data : ByteArray) (offset : Nat) (bs : List UInt8) : Bool :=
  (data.extract offset (offset + bs.length)).toList == bs

/-- Whether data begins with the given ASCII text. -/
def begins (data : ByteArray) (text : String) : Bool := hasAt data 0 text.toUTF8.toList

end SceneScript.Bytes
