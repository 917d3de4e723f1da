import SceneScript.Storage.Reading

/-!
# Rows of pixels

Most formats hold pixels in rows of a fixed number of bytes. A layout says how the pixels of a row
stand in its bytes, and `Rows` where the rows lie in data, so `Rows.read` makes up the picture of
both. `Picture.upwards` writes rows from the bottom with blue as the first part, as some formats
want it.
-/

namespace SceneScript

/-- Whether an integer fits a field of two bytes. -/
def checkField (n : Int) : Except Fault Unit :=
  if n < 0 then .error .fieldNegative
  else if 65535 < n then .error .fieldTooLarge
  else .ok ()

/-- The pixels of a picture with their parts in the order blue, green, red, row by row from the
bottom, each row followed by `padding` zeros. -/
def Picture.upwards (p : Picture) (padding : Nat) : ByteArray :=
  p.height.fold (fun r _ out =>
    let row := p.height - 1 - r
    let out := p.width.fold (fun x _ out =>
      let k := p.pixel (row * p.width + x)
      ((out.push k.blue).push k.green).push k.red) out
    out ++ Bytes.zeros padding) .empty

/-- The bytes of one part of the colours of a row: its red ones, its green ones or its blue ones. -/
def Picture.plane (p : Picture) (part row : Nat) : ByteArray :=
  p.width.fold (fun x _ out => out.push (p.bytes[3 * (row * p.width + x) + part]?.getD 0)) .empty

/-- The rows of a picture, each split into its three parts. -/
def Picture.planes (p : Picture) (row : Nat) : List ByteArray :=
  (List.range 3).map fun part => p.plane part row

/-- The picture whose pixels are given by their columns and rows. -/
def Picture.tabulate (width height : Nat) (pixel : Nat → Nat → Rgb) : Picture :=
  ⟨width, height, height.fold (fun y _ out => width.fold (fun x _ out =>
    let k := pixel x y
    ((out.push k.red).push k.green).push k.blue) out) .empty⟩

/-- A picture that stands for one whose pixels are not worked out here. It is of one colour, which
follows from the data, so pictures of the same data are alike. -/
def Picture.standIn (data : ByteArray) (width height : Nat) : Picture :=
  let n := (Crc32.ofBytes data).toNat
  .tabulate width height fun _ _ =>
    ⟨UInt8.ofNat (n / 65536), UInt8.ofNat (n / 256), UInt8.ofNat n⟩

/-- Whether all pixels of a picture have one colour. -/
def Picture.isPlain (p : Picture) : Bool :=
  (p.width * p.height).all fun i _ => p.pixel i == p.pixel 0

namespace Rgb

/-- The colour whose parts are the lowest bytes of numbers. -/
def ofNats (red green blue : Nat) : Rgb := ⟨UInt8.ofNat red, UInt8.ofNat green, UInt8.ofNat blue⟩

/-- A shade of grey. -/
def grey (n : Nat) : Rgb := ofNats n n n

/-- A shade of grey, white if the number is no byte. -/
def clippedGrey (n : Nat) : Rgb := grey (min 255 n)

/-- The colour of fifteen bits, five to a part, of which the lowest are blue. -/
def ofFifteen (n : Nat) : Rgb :=
  let part (shift : Nat) : Nat := (n >>> shift) % 32 * 255 / 31
  ofNats (part 10) (part 5) (part 0)

/-- The colour of sixteen bits, five of red, six of green and five of blue. -/
def ofSixteen (n : Nat) : Rgb :=
  ofNats ((n >>> 11) % 32 * 255 / 31) ((n >>> 5) % 64 * 255 / 63) (n % 32 * 255 / 31)

/-- The shade of grey of a fraction of 32 bits: the byte nearest below it. -/
def ofSingle (bits : Nat) : Rgb :=
  let (scale, fraction) := ((bits >>> 23) % 256, bits % (1 <<< 23))
  if 1 <<< 31 ≤ bits ∨ scale < 127 then grey 0
  else if scale = 255 then grey (if fraction = 0 then 255 else 0)
  else if 150 < scale then grey 255
  else clippedGrey ((1 <<< 23 + fraction) >>> (150 - scale))

/-- The product of two shares of 255, rounded. -/
def share (a b : Nat) : Nat :=
  let n := a * b + 128
  (n / 256 + n) / 256

/-- The colour of four inks on paper. -/
def ofInks (cyan magenta yellow black : Nat) : Rgb :=
  let paper := 255 - black
  let part (ink : Nat) : Nat := paper - share ink paper
  ofNats (part cyan) (part magenta) (part yellow)

/-- The colour of a brightness and two differences from it, of blue and of red. -/
def ofChroma (luma blueness redness : Nat) : Rgb :=
  let (y, b, r) := ((luma : Int), (blueness : Int) - 128, (redness : Int) - 128)
  let part (n : Int) : Nat := (min 255 (y + (n + 32768).fdiv 65536)).toNat
  ofNats (part (91881 * r)) (part (-22554 * b - 46802 * r)) (part (116130 * b))

end Rgb

/-- A palette: its entries in bytes, the bytes of an entry, and whether blue is the first part. -/
structure Palette where
  entries : ByteArray
  size : Nat
  blueFirst : Bool := false
  deriving Inhabited

namespace Palette

/-- The number of whole entries. -/
def count (p : Palette) : Nat := p.entries.size / p.size

/-- Whether a palette has no more than 256 entries. -/
def check (p : Palette) : Except ImageFault Unit :=
  if 256 < p.count then .error .badPalette else .ok ()

/-- The colour with the given number. Past the entries, colours are shades of grey. -/
def colour (p : Palette) (n : Nat) : Rgb :=
  if p.entries.size < p.size * (n + 1) then Rgb.grey n
  else
    let part (k : Nat) : Nat := Bytes.byteAt p.entries (p.size * n + k)
    if p.blueFirst then Rgb.ofNats (part 2) (part 1) (part 0)
    else Rgb.ofNats (part 0) (part 1) (part 2)

end Palette

/-- How the pixels of a row stand in its bytes: the bits of a pixel, and the colour of the pixel in
a column of the row at an offset. -/
structure Layout where
  bits : Nat
  colour : ByteArray → Nat → Nat → Rgb

namespace Layout

/-- Pixels of one, two, four or eight bits, the first of a byte in its highest bits. -/
def packed (bits : Nat) (colour : Nat → Rgb) : Layout where
  bits := bits
  colour data row x :=
    let perByte := 8 / bits
    let shift := bits * (perByte - 1 - x % perByte)
    colour ((Bytes.byteAt data (row + x / perByte) >>> shift) % (1 <<< bits))

/-- Pixels of whole bytes. The colour is one of the bytes, which are counted from zero. -/
def wide (size : Nat) (colour : (Nat → Nat) → Rgb) : Layout where
  bits := 8 * size
  colour data row x := colour fun k => Bytes.byteAt data (row + size * x + k)

/-- Pixels whose parts are in the given bytes. -/
def parts (size red green blue : Nat) : Layout :=
  wide size fun byte => Rgb.ofNats (byte red) (byte green) (byte blue)

/-- Pixels whose parts are in rows of their own, one after the other. -/
def planes (width count : Nat) (colour : (Nat → Nat) → Rgb) : Layout where
  bits := 8 * count
  colour data row x := colour fun k => Bytes.byteAt data (row + width * k + x)

/-- Black and white. -/
def bit : Layout := packed 1 fun n => Rgb.grey (255 * n)

/-- White and black. -/
def ink : Layout := packed 1 fun n => Rgb.grey (255 * (1 - n))

/-- Shades of grey of so many bits. -/
def grey (bits : Nat) : Layout := packed bits fun n => Rgb.grey (255 / ((1 <<< bits) - 1) * n)

/-- Numbers of colours of so many bits. -/
def palette (bits : Nat) (p : Palette) : Layout := packed bits p.colour

end Layout

/-- A part of a picture: its left and upper edge and its size. -/
structure Part where
  left : Nat
  top : Nat
  width : Nat
  height : Nat
  deriving Repr, DecidableEq, Inhabited

/-- The part of a picture of the given size that is meant. One without columns at the left edge
stands for the whole, and else it must have pixels and may have no others. -/
def Part.within (p : Part) (width height : Nat) : Except ImageFault Part :=
  if p.left = 0 ∧ p.width = 0 then .ok ⟨0, 0, width, height⟩
  else if p.width = 0 ∨ p.height = 0 ∨ width < p.left + p.width ∨ height < p.top + p.height then
    .error .outsidePicture
  else .ok p

/-- Rows in data: where the first one begins, their number and the pixels of each, and the bytes
from one row to the next, if there are more of those than a row has. The first row is the top one or
the bottom one. -/
structure Rows where
  offset : Nat
  width : Nat
  height : Nat
  stride : Nat := 0
  upwards : Bool := false
  deriving Repr, DecidableEq, Inhabited

namespace Rows

/-- The bytes of a row. -/
def size (r : Rows) (bits : Nat) : Nat := (r.width * bits + 7) / 8

/-- The bytes from one row to the next. -/
def step (r : Rows) (bits : Nat) : Nat := if r.stride = 0 then r.size bits else r.stride

/-- Whether all rows are there. The bytes that follow a row need not. -/
def check (r : Rows) (bits : Nat) (data : ByteArray) : Except ImageFault Unit :=
  let (size, step) := (r.size bits, r.step bits)
  let rest := data.size - r.offset
  let left := rest % step
  if step < size then .error (if rest = 0 then .cutShort 0 else .misconfigured)
  else if rest < step * (r.height - 1) + size then
    .error (.cutShort (if size ≤ left then left - size else left))
  else .ok ()

/-- The picture that the rows make up. -/
def picture (r : Rows) (l : Layout) (data : ByteArray) : Picture :=
  let step := r.step l.bits
  Picture.tabulate r.width r.height fun x y =>
    l.colour data (r.offset + step * (if r.upwards then r.height - 1 - y else y)) x

/-- Reads rows. -/
def read (r : Rows) (l : Layout) (data : ByteArray) : Except ImageFault Picture := do
  r.check l.bits data
  pure (r.picture l data)

/-- Reads rows of a picture that is checked first. -/
def attempt (r : Rows) (l : Layout) (data : ByteArray) : Attempt Picture := do
  Attempt.size r.width r.height
  Attempt.lift (r.read l data)

/-- Reads rows that have been unpacked. -/
def unpacked (r : Rows) (l : Layout) (data : ByteArray) : Except ImageFault Picture :=
  if data.size < r.offset + r.step l.bits * (r.height - 1) + r.size l.bits then .error .tooLittle
  else .ok (r.picture l data)

end Rows

end SceneScript
