import SceneScript.Storage.Deflate.Encode
import SceneScript.Storage.Png.Filter
import SceneScript.Storage.Rows

/-!
# Portable network graphics

A graphic is a signature and a sequence of chunks, each with a length, a name, data and a check sum.
The first holds the size and what a pixel is, and those named `IDAT` hold the rows in a deflated
stream. Each row begins with the number of a filter, which predicts its bytes from those before
them.
-/

namespace SceneScript.Png

/-- What a graphic begins with. -/
def signature : List UInt8 := [0x89, 80, 78, 71, 13, 10, 26, 10]

/-- A chunk. -/
def chunk (name : String) (data : ByteArray) : ByteArray :=
  let body := name.toUTF8 ++ data
  Bytes.ofList (Bytes.high 4 data.size) ++ body ++
    Bytes.ofList (Bytes.high 4 (Crc32.ofBytes body).toNat)

/-- The signature and the first chunk of a picture. -/
def head (p : Picture) : ByteArray :=
  Bytes.ofList signature ++ chunk "IHDR"
    (Bytes.ofList (Bytes.high 4 p.width ++ Bytes.high 4 p.height ++ [8, 2, 0, 0, 0]))

/-- The rows of a picture, each behind the number of its filter. -/
def rows (p : Picture) : ByteArray :=
  let size := 3 * p.width
  (p.height.fold (fun r _ ((out, above) : ByteArray × ByteArray) =>
    let row := p.bytes.extract (size * r) (size * (r + 1))
    let (filter, left) := smallest 3 above row
    (out.push (UInt8.ofNat filter) ++ left, row)) (ByteArray.empty, Bytes.zeros size)).1

/-- The chunks with the rows, of which each has no more than so many bytes. -/
def rowChunks (data : ByteArray) (limit : Nat) : ByteArray :=
  ((data.size + limit - 1) / limit).fold (fun k _ out =>
    out ++ chunk "IDAT" (data.extract (limit * k) (limit * (k + 1)))) .empty

/-- A picture as a graphic. -/
def encode (p : Picture) : ByteArray :=
  head p ++ rowChunks (Deflate.deflate (rows p)) (max 65536 (4 * p.width)) ++ chunk "IEND" .empty

end SceneScript.Png
