import SceneScript.Storage.Rows

/-!
# Textures

Pixels in blocks of four by four, each of 8 or 16 bytes. A block gives two values and the places of
its pixels on the way between them.
-/

namespace SceneScript.Texture

/-- The kinds of blocks. -/
inductive Kind
  /-- Colours. -/
  | one
  /-- Opacities, and colours. -/
  | two
  /-- Opacities on the way between two, and colours. -/
  | three
  /-- Shades of grey. -/
  | four
  /-- Reds and greens. -/
  | five
  /-- The same, with signs. -/
  | fiveSigned
  /-- Colours of a wide range. -/
  | six
  /-- Colours of several pairs. -/
  | seven
  deriving Repr, DecidableEq, Inhabited

/-- The bytes of a block. -/
def Kind.size : Kind → Nat
  | one | four => 8
  | two | three | five | fiveSigned | six | seven => 16

/-- A colour of sixteen bits, whose lowest bits repeat the highest. -/
def wideColour (n : Nat) : Rgb :=
  let (r, g, b) := (n / 2048 % 32, n / 32 % 64, n % 32)
  Rgb.ofNats (8 * r + r / 4) (4 * g + g / 16) (8 * b + b / 4)

/-- The colour between two, nearer to the first by the given shares. -/
def mixed (c d : Rgb) (first second : Nat) : Rgb :=
  let part (a b : UInt8) : Nat := (first * a.toNat + second * b.toNat) / (first + second)
  Rgb.ofNats (part c.red d.red) (part c.green d.green) (part c.blue d.blue)

/-- The colour of a pixel of a block of colours, given how a number of sixteen bits makes a colour.
Where the first number is not above the second, the last colour is black, unless opacities stand by
themselves. -/
def colour (ofSixteen : Nat → Rgb) (data : ByteArray) (offset : Nat) (apart : Bool) (pixel : Nat) :
    Rgb :=
  let (n, m) := (Bytes.lowAt data offset 2, Bytes.lowAt data (offset + 2) 2)
  let (c, d) := (ofSixteen n, ofSixteen m)
  match Bytes.lowAt data (offset + 4) 4 >>> (2 * pixel) % 4 with
  | 0 => c
  | 1 => d
  | 2 => if m < n ∨ apart then mixed c d 2 1 else mixed c d 1 1
  | _ => if m < n ∨ apart then mixed c d 1 2 else .black

/-- The value of a pixel of a block of values. -/
def value (data : ByteArray) (offset pixel : Nat) : Nat :=
  let (a, b) := (Bytes.byteAt data offset, Bytes.byteAt data (offset + 1))
  let k := Bytes.lowAt data (offset + 2) 6 >>> (3 * pixel) % 8
  if k = 0 then a
  else if k = 1 then b
  else if b < a then ((8 - k) * a + (k - 1) * b) / 7
  else if k < 6 then ((6 - k) * a + (k - 1) * b) / 5
  else if k = 6 then 0
  else 255

/-- The colour of a pixel of a block at an offset. Of the last two kinds, the bytes are taken for
the colours. -/
def Kind.colour (kind : Kind) (data : ByteArray) (offset pixel : Nat) : Rgb :=
  match kind with
  | one => Texture.colour wideColour data offset false pixel
  | two | three => Texture.colour wideColour data (offset + 8) true pixel
  | four => Rgb.grey (value data offset pixel)
  | five | fiveSigned => Rgb.ofNats (value data offset pixel) (value data (offset + 8) pixel) 0
  | six | seven => Rgb.grey (Bytes.byteAt data (offset + pixel))

/-- Reads the blocks from an offset on. -/
def read (kind : Kind) (data : ByteArray) (offset width height : Nat) :
    Except ImageFault Picture :=
  let across := (width + 3) / 4
  let rest := data.size - offset
  if rest < kind.size * across * ((height + 3) / 4) then .error (.cutShort (rest % kind.size))
  else
    .ok (.tabulate width height fun x y =>
      kind.colour data (offset + kind.size * (y / 4 * across + x / 4)) (y % 4 * 4 + x % 4))

end SceneScript.Texture
