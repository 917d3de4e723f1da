import SceneScript.Storage.Rows

/-!
# Pictures of the network

A file of chunks in a chunk of its own. The first one inside is a frame of a film, a picture without
losses, or the size of the canvas. The pixels are not worked out.
-/

namespace SceneScript.Webp

/-- The largest width and height. -/
def limit : Nat := 16383

/-- Whether a picture can be written. -/
def check (p : Picture) : Except Fault Unit :=
  if p.width = 0 ∨ p.height = 0 then .error .noPictureRoom
  else if limit < max p.width p.height then .error (.pastLimit "WebP" limit)
  else .ok ()

/-- What the file of a small picture of one colour begins with, up to its size. -/
def head (p : Picture) : ByteArray :=
  "RIFF".toUTF8 ++ Bytes.ofList (Bytes.low 4 52) ++ "WEBPVP8 ".toUTF8 ++
    Bytes.ofList (Bytes.low 4 40 ++ [0x70, 1, 0, 0x9d, 1, 0x2a] ++ Bytes.low 2 p.width ++
      Bytes.low 2 p.height)

/-- What is read of a colour that has been written. Its brightness has 220 steps. -/
def fadedColour (c : Rgb) : Rgb :=
  let (r, g, b) : Int × Int × Int := (c.red.toNat, c.green.toNat, c.blue.toNat)
  let part (n : Int) : Int := (n + 32768) / 65536
  let y := 16 + part (16839 * r + 33059 * g + 6420 * b)
  let u := 128 + part (28800 * b - 9719 * r - 19081 * g)
  let v := 128 + part (28800 * r - 24116 * g - 4684 * b)
  let share (n factor : Int) : Int := n * factor / 256
  let byte (n : Int) : Nat := (min 255 (n / 64)).toNat
  Rgb.ofNats (byte (share y 19077 + share v 26149 - 14234))
    (byte (share y 19077 - share u 6419 - share v 13320 + 8708))
    (byte (share y 19077 + share u 33050 - 17685))

/-- What is read of a picture that has been written. Only pictures of one colour are worked out, and
others are told apart from what they were. -/
def faded (p : Picture) : Picture :=
  if p.isPlain then .tabulate p.width p.height fun _ _ => fadedColour (p.pixel 0)
  else .standIn p.bytes p.width p.height

/-- The size of a frame whose data begin at an offset, and whether its first part is there. -/
def frameSize? (data : ByteArray) (start size : Nat) : Option (Nat × Nat × Bool) :=
  let tag := Bytes.lowAt data start 3
  if size < 10 ∨ tag % 2 = 1 ∨ !Bytes.hasAt data (start + 3) [0x9d, 1, 0x2a] then none
  else
    some (Bytes.lowAt data (start + 6) 2 % 16384, Bytes.lowAt data (start + 8) 2 % 16384,
      10 + tag / 32 ≤ size)

/-- The size of a picture without losses whose data begin at an offset. -/
def plainSize? (data : ByteArray) (start size : Nat) : Option (Nat × Nat × Bool) :=
  let bits := Bytes.lowAt data (start + 1) 4
  if size < 5 ∨ Bytes.byteAt data start ≠ 0x2f ∨ bits >>> 29 ≠ 0 then none
  else some (bits % 16384 + 1, bits / 16384 % 16384 + 1, true)

/-- The size of the canvas whose data begin at an offset. -/
def canvasSize? (data : ByteArray) (start size : Nat) : Option (Nat × Nat × Bool) :=
  if size < 10 then none
  else some (Bytes.lowAt data (start + 4) 3 + 1, Bytes.lowAt data (start + 7) 3 + 1, true)

/-- The picture in data, if they are a picture of the network. -/
def decode (data : ByteArray) : Reading := OptionT.run do
  let kind (name : String) : Bool := Bytes.hasAt data 12 name.toUTF8.toList
  Attempt.require (Bytes.begins data "RIFF" && Bytes.hasAt data 8 "WEBP".toUTF8.toList)
  Attempt.require (kind "VP8 " || kind "VP8L" || kind "VP8X")
  let (whole, size) := (Bytes.lowAt data 4 4, Bytes.lowAt data 16 4)
  Attempt.insist (8 + whole ≤ data.size && size + 12 ≤ whole) .noDecoder
  let some (width, height, isWhole) :=
      (if kind "VP8 " then frameSize? else if kind "VP8L" then plainSize? else canvasSize?)
        data 20 size
    | Attempt.fault .noDecoder
  Attempt.insist (width != 0 && height != 0) .noDecoder
  Attempt.size width height
  Attempt.insist isWhole .noNextFrame
  pure (Picture.standIn data width height)

end SceneScript.Webp
