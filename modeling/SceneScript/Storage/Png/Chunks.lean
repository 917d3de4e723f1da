import SceneScript.Storage.Png
import SceneScript.Storage.Rows

/-!
# The chunks of a graphic

`Png.Parts` is what the chunks of a graphic say: its size and its pixels, its palette, and how many
frames it has. `Png.Parts.add` takes one chunk more. Chunks that say nothing about the pixels must
still be sound, each in its own way.
-/

namespace SceneScript.Png

/-- The kinds of pixels. -/
inductive Pixel
  | grey | colour | palette | greyAlpha | colourAlpha
  deriving Repr, DecidableEq, Inhabited

namespace Pixel

/-- The number of values of a pixel. -/
def values : Pixel → Nat
  | grey | palette => 1
  | greyAlpha => 2
  | colour => 3
  | colourAlpha => 4

/-- The kind with the given number, if its values may have so many bits. -/
def ofCode? (code bits : Nat) : Option Pixel :=
  match code with
  | 0 => if [1, 2, 4, 8, 16].contains bits then some grey else none
  | 2 => if [8, 16].contains bits then some colour else none
  | 3 => if [1, 2, 4, 8].contains bits then some palette else none
  | 4 => if [8, 16].contains bits then some greyAlpha else none
  | 6 => if [8, 16].contains bits then some colourAlpha else none
  | _ => none

end Pixel

/-- What the chunks of a graphic say. -/
structure Parts where
  width : Nat := 0
  height : Nat := 0
  /-- The kind of the pixels and the bits of a value. -/
  pixel : Option (Pixel × Nat) := none
  interlaced : Bool := false
  palette : Option ByteArray := none
  /-- The number of frames of an animated graphic. -/
  frames : Option Nat := none
  /-- The number of the last chunk of an animated graphic. -/
  sequence : Option Nat := none
  /-- The part that a frame of an animated graphic fills. -/
  frame : Option Part := none
  deriving Inhabited

/-- A place in a graphic: the name of a chunk, the offset of its data, and their size. -/
structure Chunk where
  name : ByteArray
  start : Nat
  size : Nat

/-- What comes of a chunk: the offset behind what was read of it, or that it holds rows, or that it
is the last one. -/
inductive Outcome
  | read (stop : Nat)
  | rows (start size : Nat)
  | last
  deriving Repr, DecidableEq, Inhabited

/-- Whether a byte may stand in the name of a chunk. -/
def isNameByte (b : UInt8) : Bool :=
  let c := Char.ofNat b.toNat
  b < 128 && (c.isAlphanum || c == '_')

/-- The chunk at an offset. Its size must be there, and its name be one. -/
def chunkAt (data : ByteArray) (offset : Nat) : Except ImageFault Chunk :=
  let name := data.extract (offset + 4) (offset + 8)
  if data.size < offset + 4 then .error .ended
  else if name.size < 4 ∨ !name.toList.all isNameByte then
    .error (.badChunk (Text.quotedBytes name.toList))
  else .ok ⟨name, offset + 8, Bytes.highAt data offset 4⟩

namespace Parts

/-- The parts after the first chunk. A kind that makes no sense is left out. -/
def addHead (p : Parts) (body : ByteArray) : Except ImageFault Parts :=
  if body.size < 13 then .error (.shortChunk "IHDR")
  else
    let bits := Bytes.byteAt body 8
    let pixel := (Pixel.ofCode? (Bytes.byteAt body 9) bits).map fun pixel => (pixel, bits)
    if Bytes.byteAt body 11 ≠ 0 then .error .unknownFilter
    else .ok { p with
      width := Bytes.highAt body 0 4
      height := Bytes.highAt body 4 4
      pixel := pixel.orElse fun _ => p.pixel
      interlaced := p.interlaced || Bytes.byteAt body 12 != 0 }

/-- The largest text in a graphic. -/
def textLimit : Nat := 1048576

/-- Whether a deflated text is small enough. It need not be sound. -/
def checkText (data : ByteArray) : Except ImageFault Unit :=
  if textLimit < (Deflate.inflate data).output.size then .error .textTooLong else .ok ()

/-- Where the first zero stands. -/
def zeroAt? (body : ByteArray) : Option Nat := body.toList.idxOf? 0

/-- Whether a colour profile is sound: a name, a zero, the method, and the profile. -/
def checkProfile (body : ByteArray) : Except ImageFault Unit :=
  let start := match zeroAt? body with
    | some i => i + 1
    | none => 0
  match body[start]? with
  | none => .error .missingByte
  | some method =>
    if method ≠ 0 then .error (.unknownMethod method.toNat "iCCP")
    else checkText (body.extract (start + 1) body.size)

/-- Whether a compressed text is sound: a name, a zero, the method, and the text. -/
def checkCompressed (body : ByteArray) : Except ImageFault Unit :=
  match zeroAt? body with
  | none => .ok ()
  | some i =>
    match body[i + 1]? with
    | none => .ok ()
    | some method =>
      if method ≠ 0 then .error (.unknownMethod method.toNat "zTXt")
      else checkText (body.extract (i + 2) body.size)

/-- Whether an international text is sound: a name, a zero, whether it is compressed and how, two
more names that end with zeros, and the text. What is not whole is passed over. -/
def checkInternational (body : ByteArray) : Except ImageFault Unit :=
  match zeroAt? body with
  | none => .ok ()
  | some i =>
    let rest := body.extract (i + 3) body.size
    match zeroAt? rest with
    | none => .ok ()
    | some j =>
      let rest := rest.extract (j + 1) rest.size
      match zeroAt? rest with
      | none => .ok ()
      | some k =>
        if Bytes.byteAt body (i + 1) ≠ 0 ∧ Bytes.byteAt body (i + 2) = 0 then
          checkText (rest.extract (k + 1) rest.size)
        else .ok ()

/-- The parts after the chunk that says how many frames there are. A second one is taken back. -/
def addFrames (p : Parts) (body : ByteArray) : Except ImageFault Parts :=
  let count := Bytes.highAt body 0 4
  if body.size < 8 then .error (.shortFrameChunk "acTL")
  else if p.frames.isSome then .ok { p with frames := none }
  else if count = 0 ∨ 0x80000000 < count then .ok p
  else .ok { p with frames := some count }

/-- Whether a number of a chunk follows the last one. -/
def follows (p : Parts) (n : Nat) : Bool :=
  match p.sequence with
  | none => n == 0
  | some last => n == last + 1

/-- The parts after a chunk that describes a frame. -/
def addFrame (p : Parts) (body : ByteArray) : Except ImageFault Parts :=
  let field (k : Nat) : Nat := Bytes.highAt body (4 * k) 4
  let frame : Part := ⟨field 3, field 4, field 1, field 2⟩
  if body.size < 26 then .error (.shortFrameChunk "fcTL")
  else if !p.follows (field 0) then .error .frameSequence
  else if p.width < frame.left + frame.width ∨ p.height < frame.top + frame.height then
    .error .frameOutside
  else .ok { p with sequence := some (field 0), frame := some frame }

/-- Whether the colour that counts as transparent is whole. -/
def checkTransparent (p : Parts) (body : ByteArray) : Except ImageFault Unit :=
  let size := match p.pixel with
    | some (.grey, _) => 2
    | some (.colour, _) => 6
    | _ => 0
  if body.size < size then .error (.shortChunk "tRNS") else .ok ()

/-- The names of chunks that have at least so many bytes. -/
def leastSizes : List (String × Nat) := [("gAMA", 4), ("cHRM", 32), ("sRGB", 1), ("pHYs", 9)]

/-- The parts after the chunk with the given name, if that says something of them. -/
def addNamed (p : Parts) (name : String) (body : ByteArray) : Except ImageFault Parts :=
  match name with
  | "IHDR" => p.addHead body
  | "PLTE" =>
    match p.pixel with
    | some (.palette, _) => .ok { p with palette := some body }
    | _ => .ok p
  | "tRNS" => (p.checkTransparent body).map fun _ => p
  | "iCCP" => (checkProfile body).map fun _ => p
  | "zTXt" => (checkCompressed body).map fun _ => p
  | "iTXt" => (checkInternational body).map fun _ => p
  | "acTL" => p.addFrames body
  | "fcTL" => p.addFrame body
  | _ =>
    match leastSizes.lookup name with
    | some size => if body.size < size then .error (.shortChunk name) else .ok p
    | none => .ok p

/-- The parts after one more chunk, and what comes of it. Rows count as such only if it is known
what they hold. -/
def add (p : Parts) (data : ByteArray) (c : Chunk) : Except ImageFault (Parts × Outcome) := do
  let body := data.extract c.start (c.start + c.size)
  if Bytes.begins c.name "IEND" then pure (p, .last)
  else if Bytes.begins c.name "IDAT" ∧ p.pixel.isSome then pure (p, .rows c.start c.size)
  else if Bytes.begins c.name "fdAT" then
    if c.size < 4 then throw (.shortFrameChunk "fDAT")
    if body.size < 4 then throw .readTooLittle
    let n := Bytes.highAt body 0 4
    if n = 0 ∨ p.sequence ≠ some (n - 1) then throw .frameSequence
    let p := { p with sequence := some n }
    if p.pixel.isSome then pure (p, .rows (c.start + 4) (c.size - 4))
    else if data.size < c.start + 4 + c.size then throw .readTooLittle
    else pure (p, .read (c.start + 4 + c.size))
  else
    if body.size < c.size then throw .readTooLittle
    pure (← p.addNamed (String.fromUTF8? c.name |>.getD "") body, .read (c.start + c.size))

end Parts

end SceneScript.Png
