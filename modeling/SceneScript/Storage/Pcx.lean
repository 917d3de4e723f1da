import SceneScript.Storage.Rows

/-!
# Exchange images

A head of 128 bytes, and then the rows, each of which holds its parts one after the other, in runs.
A picture of 256 colours has its palette in the last 769 bytes.

Three parts are read as if they took as many bytes each as the whole row leaves for its pixels, so
the parts of a picture that is one or three pixels wide are not told apart. `Pcx.encode` does not
write the last part of a row of one pixel at all.
-/

namespace SceneScript.Pcx

/-! ## Writing -/

/-- The bytes of a part of a row. There is an even number of them. -/
def stride (width : Nat) : Nat := width + width % 2

/-- Whether the numbers in the head fit. There must be pixels. -/
def check (p : Picture) : Except Fault Unit := do
  if p.width = 0 ∨ p.height = 0 then throw .emptyExchange
  checkField (p.width - 1)
  checkField (p.height - 1)
  checkField (stride p.width)
  checkField p.width
  checkField p.height

/-- The head. -/
def head (p : Picture) : ByteArray :=
  Bytes.ofList ([10, 5, 1, 8] ++ Bytes.low 4 0 ++ Bytes.low 2 (p.width - 1) ++
    Bytes.low 2 (p.height - 1) ++ Bytes.low 2 100 ++ Bytes.low 2 100 ++ List.replicate 24 0 ++
    List.replicate 24 255 ++ [0, 3] ++ Bytes.low 2 (stride p.width) ++ Bytes.low 2 1 ++
    Bytes.low 2 p.width ++ Bytes.low 2 p.height ++ List.replicate 54 0)

/-- A run of at most 63 equal bytes. A single byte below 192 stands for itself. -/
def run (b : UInt8) (count : Nat) : List UInt8 :=
  if count = 1 ∧ b < 192 then [b] else [UInt8.ofNat (192 + count), b]

/-- Bytes in runs, given the run so far. -/
def runs (last : UInt8) (count : Nat) : List UInt8 → List UInt8
  | [] => if count = 0 then [] else run last count
  | b :: rest =>
    if count = 0 then runs b 1 rest
    else if b = last ∧ count < 63 then runs last (count + 1) rest
    else run last count ++ runs b 1 rest

/-- The rows. The byte that makes the bytes of a part even stands alone. -/
def rows (p : Picture) : ByteArray :=
  let padding := List.replicate (p.width % 2) 0
  p.height.fold (fun y _ out =>
    let parts := if p.width = 1 then (p.planes y).take 2 else p.planes y
    parts.foldl (fun out part => out ++ Bytes.ofList (runs 0 0 part.toList ++ padding)) out) .empty

/-- A picture in bytes. -/
def encode (p : Picture) : ByteArray := head p ++ rows p

/-! ## Reading -/

/-- The bytes that runs from an offset on stand for, until there are so many, and whether one was
longer than its row. The rest of such a run is dropped. -/
def unpack (data : ByteArray) (row count : Nat) :
    Nat → Nat → ByteArray → Bool → Except ImageFault (ByteArray × Bool)
  | 0, _, _, _ => .error (.cutShort 0)
  | fuel + 1, offset, out, isOverrun =>
    if count ≤ out.size then .ok (out, isOverrun)
    else
      match data[offset]? with
      | none => .error (.cutShort 0)
      | some b =>
        if b < 192 then unpack data row count fuel (offset + 1) (out.push b) isOverrun
        else
          match data[offset + 1]? with
          | none => .error (.cutShort 1)
          | some value =>
            let n := b.toNat % 64
            let room := row - out.size % row
            unpack data row count fuel (offset + 2)
              ((min n room).fold (fun _ _ out => out.push value) out) (isOverrun || room < n)

/-- A layout of single bits, in the given number of parts of a row. The bits of a pixel are the
number of a colour, and the first part has the lowest of them. -/
def bitPlanes (count stride : Nat) (palette : Palette) : Layout where
  bits := count
  colour data row x :=
    let bit (k : Nat) : Nat := (Bytes.byteAt data (row + stride * k + x / 8) >>> (7 - x % 8)) % 2
    palette.colour ((List.range count).foldr (fun k n => 2 * n + bit k) 0)

/-- Where the parts of a row begin, counted from one to the next. -/
def partStep (width bytes : Nat) : Nat := max width (bytes / (bytes / width))

/-- The palette of 256 colours at the end, unless it is missing or has just the shades of grey. -/
def lastPalette? (data : ByteArray) : Option Palette :=
  let start := data.size - 768
  let entries := data.extract start data.size
  let plain := (List.range 768).all fun i => Bytes.byteAt entries i = i / 3
  if Bytes.byteAt data (start - 1) = 12 ∧ !plain then some ⟨entries, 3, false⟩ else none

/-- How the rows of a picture of the given width are held, with so many bytes to a part. -/
def layout (data : ByteArray) (start width stride : Nat) : Attempt Layout := do
  let byte (k : Nat) : Nat := Bytes.byteAt data (start + k)
  let (bits, parts) := (byte 3, byte 65)
  if bits = 1 ∧ parts = 1 then pure .bit
  else if bits = 1 ∧ (parts = 2 ∨ parts = 4) then
    pure (bitPlanes parts stride ⟨data.extract (start + 16) (start + 64), 3, false⟩)
  else if byte 1 = 5 ∧ bits = 8 ∧ parts = 1 then
    Attempt.insist (769 ≤ data.size) .outsideFile
    match lastPalette? data with
    | some p => pure (.palette 8 p)
    | none => pure (.grey 8)
  else if byte 1 = 5 ∧ bits = 8 ∧ parts = 3 then
    pure (.planes (partStep width (3 * stride)) 3 fun byte =>
      Rgb.ofNats (byte 0) (byte 1) (byte 2))
  else Attempt.fault .unknownExchange

/-- The picture whose head stands at an offset. -/
def decodeAt (data : ByteArray) (start : Nat) : Attempt Picture := do
  let byte (k : Nat) : Nat := Bytes.byteAt data (start + k)
  let field (k : Nat) : Nat := Bytes.lowAt data (start + k) 2
  Attempt.require (start + 68 ≤ data.size && byte 0 == 10 && [0, 2, 3, 5].contains (byte 1))
  Attempt.require (field 4 ≤ field 8 && field 6 ≤ field 10)
  let (width, height) := (field 8 + 1 - field 4, field 10 + 1 - field 6)
  let (bits, parts) := (byte 3, byte 65)
  let least := (width * bits + 7) / 8
  let stride := if field 66 = least then least else least + least % 2
  let found ← layout data start width stride
  let offset := if bits = 8 ∧ parts = 1 then 128 else start + 128
  Attempt.size width height
  let row := parts * stride
  let (bytes, isOverrun) ← Attempt.lift
    (unpack data row (row * height) (data.size + 1) offset .empty false)
  Attempt.insist (!isOverrun) .overrun
  pure (({ offset := 0, width, height, stride := row } : Rows).picture found bytes)

/-- The picture in data, if they are an exchange image. -/
def decode (data : ByteArray) : Reading := OptionT.run (decodeAt data 0)

/-- The first picture of several, whose offsets stand in front. -/
def decodeFirst (data : ByteArray) : Reading := OptionT.run do
  Attempt.require (Bytes.lowAt data 0 4 == 0x3ade68b1)
  let count := (List.range 1024).find? fun k => Bytes.lowAt data (4 + 4 * k) 4 == 0
  Attempt.require (8 + 4 * count.getD 1023 ≤ data.size && count != some 0)
  decodeAt data (Bytes.lowAt data 4 4)

end SceneScript.Pcx
