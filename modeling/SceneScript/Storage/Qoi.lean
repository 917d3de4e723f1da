import SceneScript.Storage.Rows

/-!
# Quite fine images

A pixel is like the one before it, or like one that was seen and whose place follows from its
colour, or differs little from the one before it, or is given in full.
-/

namespace SceneScript.Qoi

/-! ## Writing -/

/-- The head of a quite fine image. -/
def head (p : Picture) : ByteArray :=
  "qoif".toUTF8 ++ Bytes.ofList (Bytes.high 4 p.width ++ Bytes.high 4 p.height ++ [3, 1])

/-- The pixels in front of one: the last, how often it was repeated, and those that were seen. -/
structure State where
  out : ByteArray := .empty
  last : Rgb := .black
  repeated : Nat := 0
  seen : Array (Option Rgb) := .replicate 64 none

/-- The place of a colour among those that were seen. -/
def place (c : Rgb) : Nat :=
  (3 * c.red.toNat + 5 * c.green.toNat + 7 * c.blue.toNat + 11 * 255) % 64

/-- The bytes with the repetitions written. -/
def State.flush (s : State) : ByteArray :=
  if s.repeated = 0 then s.out else s.out.push (UInt8.ofNat (0xc0 + s.repeated - 1))

/-- The difference of two bytes, between -128 and 127. -/
def difference (a b : UInt8) : Int := Int.bmod ((a.toNat : Int) - b.toNat) 256

/-- A pixel that differs from the one before it. -/
def pixelBytes (last c : Rgb) : List UInt8 :=
  let (r, g, b) := (difference c.red last.red, difference c.green last.green,
    difference c.blue last.blue)
  let within (n low high : Int) : Bool := decide (low ≤ n) && decide (n ≤ high)
  let byte (n : Int) : UInt8 := UInt8.ofNat n.toNat
  if within r (-2) 1 && within g (-2) 1 && within b (-2) 1 then
    [byte (64 + 16 * (r + 2) + 4 * (g + 2) + (b + 2))]
  else if within g (-32) 31 && within (r - g) (-8) 7 && within (b - g) (-8) 7 then
    [byte (128 + g + 32), byte (16 * (r - g + 8) + (b - g + 8))]
  else [0xfe, c.red, c.green, c.blue]

/-- The state after one more pixel. -/
def State.add (s : State) (c : Rgb) : State :=
  if c = s.last then
    if s.repeated = 61 then { s with out := s.out.push 0xfd, repeated := 0 }
    else { s with repeated := s.repeated + 1 }
  else
    let place := place c
    let bytes := if s.seen[place]? = some (some c) then [UInt8.ofNat place] else pixelBytes s.last c
    ⟨bytes.foldl ByteArray.push s.flush, c, 0, s.seen.setIfInBounds place (some c)⟩

/-- The pixels of a quite fine image, and its end. -/
def rows (p : Picture) : ByteArray :=
  ((p.width * p.height).fold (fun i _ s => s.add (p.pixel i)) ({} : State)).flush ++
    Bytes.zeros 7 ++ Bytes.ofList [1]

/-- A picture in bytes. -/
def encode (p : Picture) : ByteArray := head p ++ rows p

/-! ## Reading -/

/-- A pixel with its opacity. -/
structure Dot where
  colour : Rgb := .black
  opacity : UInt8 := 0
  deriving Inhabited

/-- The place of a pixel among those that were seen. -/
def Dot.place (d : Dot) : Nat :=
  (3 * d.colour.red.toNat + 5 * d.colour.green.toNat + 7 * d.colour.blue.toNat +
    11 * d.opacity.toNat) % 64

/-- What has been read: the colours, the last pixel, and those that were seen. -/
structure Progress where
  out : ByteArray := .empty
  last : Dot := ⟨.black, 255⟩
  seen : Array Dot := (Array.replicate 64 {}).setIfInBounds 53 ⟨.black, 255⟩

/-- The colours with one more, so many times. -/
def Progress.push (s : Progress) (count : Nat) (c : Rgb) : Progress :=
  { s with out := count.fold (fun _ _ out => ((out.push c.red).push c.green).push c.blue) s.out }

/-- What has been read after a pixel that is not the last one again. -/
def Progress.add (s : Progress) (d : Dot) : Progress :=
  { s.push 1 d.colour with last := d, seen := s.seen.setIfInBounds d.place d }

/-- A colour whose parts differ from those of another one. They go round. -/
def shifted (c : Rgb) (red green blue : Int) : Rgb :=
  let part (b : UInt8) (n : Int) : UInt8 := UInt8.ofNat ((b.toNat + n) % 256).toNat
  ⟨part c.red red, part c.green green, part c.blue blue⟩

/-- Reads pixels from an offset on until there are so many bytes of colours. -/
def dots (data : ByteArray) (count : Nat) :
    Nat → Nat → Progress → Except ImageFault Progress
  | 0, _, s => .ok s
  | fuel + 1, offset, s =>
    if count ≤ s.out.size then .ok s
    else
      match data[offset]? with
      | none => .error .missingByte
      | some mark =>
        let byte (k : Nat) : UInt8 := (data[offset + k]?).getD 0
        let left := data.size - (offset + 1)
        let n := mark.toNat % 64
        if mark = 0xfe then
          if left < 3 then .error (.missingParts (left + 1))
          else
            dots data count fuel (offset + 4)
              (s.add { s.last with colour := ⟨byte 1, byte 2, byte 3⟩ })
        else if mark = 0xff then
          if left < 4 then .error (.missingParts left)
          else dots data count fuel (offset + 5) (s.add ⟨⟨byte 1, byte 2, byte 3⟩, byte 4⟩)
        else if mark < 64 then
          dots data count fuel (offset + 1) (s.add ((s.seen[n]?).getD {}))
        else if mark < 128 then
          let part (k : Nat) : Int := (n / k % 4 : Nat) - 2
          dots data count fuel (offset + 1)
            (s.add { s.last with colour := shifted s.last.colour (part 16) (part 4) (part 1) })
        else if mark < 192 then
          if left = 0 then .error .missingByte
          else
            let green : Int := (n : Int) - 32
            let red := green + (((byte 1).toNat / 16 : Nat) : Int) - 8
            let blue := green + (((byte 1).toNat % 16 : Nat) : Int) - 8
            dots data count fuel (offset + 2)
              (s.add { s.last with colour := shifted s.last.colour red green blue })
        else dots data count fuel (offset + 1) (s.push (n + 1) s.last.colour)

/-- The picture in data, if they are a quite fine image. -/
def decode (data : ByteArray) : Reading := OptionT.run do
  Attempt.require (Bytes.begins data "qoif" && 13 ≤ data.size)
  let (width, height) := (Bytes.highAt data 4 4, Bytes.highAt data 8 4)
  Attempt.size width height
  let count := 3 * width * height
  let s ← Attempt.lift (dots data count (width * height) 14 {})
  pure ⟨width, height, s.out.extract 0 count⟩

end SceneScript.Qoi
