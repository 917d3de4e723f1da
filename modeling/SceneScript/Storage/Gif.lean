import SceneScript.Raster.Reduce
import SceneScript.Storage.Rows

/-!
# Animations in the graphics interchange format

An animation is a sequence of shots, each a picture and how long it is shown. A frame that looks
like the shot before it makes that one last longer (`Gif.shots`). Sizes and times are held in two
bytes (`Gif.check`).

The pixels that are written are the nearest of 216 colours, six shades of each part. Their codes
have nine bits each, and are cleared so often that nine bits are always enough.
-/

namespace SceneScript

/-- A picture of an animation, and the milliseconds that it is shown. -/
structure Shot where
  picture : Picture
  time : Int
  deriving Inhabited

namespace Gif

/-! ## Shots -/

/-- Whether two pictures have the same pixels where both of them have some. -/
def alike (p q : Picture) : Bool :=
  let size := 3 * min p.width q.width
  (List.range (min p.height q.height)).all fun y =>
    let row (r : Picture) : ByteArray :=
      r.bytes.extract (3 * r.width * y) (3 * r.width * y + size)
    row p == row q

/-- The shots with one more frame, the last shot first. -/
def addFrame (time : Int) (sofar : List Shot) (frame : Picture) : List Shot :=
  match sofar with
  | last :: rest =>
    if alike last.picture frame then { last with time := last.time + time } :: rest
    else ⟨frame, time⟩ :: sofar
  | [] => [⟨frame, time⟩]

/-- The shots of frames that are shown for the given time each. A frame has at most 256 colours. -/
def shots (frames : List Picture) (time : Int) : List Shot :=
  ((frames.map Picture.reduced).foldl (addFrame time) []).reverse

/-- The hundredths of a second that a shot is shown, rounded toward zero. -/
def delay (s : Shot) : Int := s.time.tdiv 10

/-- The least integer that is too large to be tenths of a double: the greatest double, and half the
step to the next. -/
def quotientLimit : Int := ((1 <<< 1024 : Nat) : Int) - ((1 <<< 970 : Nat) : Int)

/-- Whether the time of a shot can be written. -/
def checkTime (s : Shot) : Except Fault Unit :=
  if 10 * quotientLimit ≤ s.time.natAbs then .error .quotientTooLarge else checkField (delay s)

/-- Whether an animation can be written: its first picture has pixels, and the numbers fit. -/
def check (all : List Shot) : Except Fault Unit := do
  let first := (all.headD default).picture
  checkField first.width
  checkField first.height
  all.forM checkTime
  if first.width = 0 ∨ first.height = 0 then throw .emptyPicture

/-! ## Writing -/

/-- The shade, of six, nearest to a part of a colour. -/
def shade (b : UInt8) : Nat := (b.toNat + 25) / 51

/-- The number of the colour nearest to a pixel. -/
def colourNumber (c : Rgb) : Nat := 36 * shade c.red + 6 * shade c.green + shade c.blue

/-- The 216 colours, and black up to 256. -/
def colours : List UInt8 :=
  (List.range 256).flatMap fun n =>
    if n < 216 then [n / 36, n / 6 % 6, n % 6].map fun k => UInt8.ofNat (51 * k) else [0, 0, 0]

/-- Adds a code of nine bits to bytes, of which the last is not full yet. -/
def pushCode (state : ByteArray × Nat × Nat) (code : Nat) : ByteArray × Nat × Nat :=
  let (out, held, count) := state
  let held := held + code <<< count
  let count := count + 9
  let out := out.push (UInt8.ofNat held)
  if 16 ≤ count then (out.push (UInt8.ofNat (held / 256)), held / 65536, count - 16)
  else (out, held / 256, count - 8)

/-- The codes of the pixels of a picture, with a clearing code before every 250. -/
def codes (p : Picture) : ByteArray :=
  let state := (p.width * p.height).fold (fun i _ state =>
    let state := if i % 250 = 0 then pushCode state 256 else state
    pushCode state (colourNumber (p.pixel i))) (ByteArray.empty, 0, 0)
  let (out, held, count) := pushCode state 257
  if count = 0 then out else out.push (UInt8.ofNat held)

/-- Bytes in blocks of at most 255, each after its size, and an empty one at the end. -/
def blocks (data : ByteArray) : ByteArray :=
  ((data.size + 254) / 255).fold (fun i _ out =>
    let block := data.extract (255 * i) (255 * (i + 1))
    out.push (UInt8.ofNat block.size) ++ block) ByteArray.empty |>.push 0

/-- A shot in bytes. It takes no more than the given size. -/
def encodeShot (width height : Nat) (s : Shot) : ByteArray :=
  let time := Bytes.low 2 (delay s).toNat
  let size := Bytes.low 2 (min width s.picture.width) ++ Bytes.low 2 (min height s.picture.height)
  let cut := Picture.tabulate (min width s.picture.width) (min height s.picture.height) fun x y =>
    s.picture.pixel (y * s.picture.width + x)
  Bytes.ofList ([0x21, 0xf9, 4, 0] ++ time ++ [0, 0, 0x2c] ++ Bytes.low 4 0 ++ size ++ [0, 8]) ++
    blocks (codes cut)

/-- An animation in bytes, as large as its first picture. It is shown again and again. -/
def encode (all : List Shot) : ByteArray :=
  let { width, height, .. } := (all.headD default).picture
  let head := "GIF89a".toUTF8 ++
    Bytes.ofList (Bytes.low 2 width ++ Bytes.low 2 height ++ [0xf7, 0, 0] ++ colours)
  let forever := Bytes.ofList [0x21, 0xff, 11] ++ "NETSCAPE2.0".toUTF8 ++
    Bytes.ofList [3, 1, 0, 0, 0]
  (all.map (encodeShot width height)).foldl (· ++ ·) (head ++ forever) |>.push 0x3b

end Gif

end SceneScript
