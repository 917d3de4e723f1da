import SceneScript.Storage.Rows

/-!
# Layered documents

A head of 26 bytes, three sections that begin with their sizes, and the whole picture: all of one
part in front of those of the next. The rows are held as they are, or in runs behind the table of
their lengths.
-/

namespace SceneScript.Psd

/-- The kinds of pixels. -/
inductive Pixel
  | bit | grey | palette | colour | inks | lightness
  deriving Repr, DecidableEq, Inhabited

namespace Pixel

/-- The kind with the given number, whose values have so many bits. -/
def ofCode? (code bits : Nat) : Option Pixel :=
  match code, bits with
  | 0, 1 => some bit
  | 0, 8 | 1, 8 | 7, 8 | 8, 8 => some grey
  | 2, 8 => some palette
  | 3, 8 => some colour
  | 4, 8 => some inks
  | 9, 8 => some lightness
  | _, _ => none

/-- The number of parts. -/
def parts : Pixel → Nat
  | bit | grey | palette => 1
  | colour | lightness => 3
  | inks => 4

/-- The bits of a part. -/
def bits : Pixel → Nat
  | bit => 1
  | _ => 8

/-- The colour of the values of a pixel. Inks are held as what they leave. -/
def toRgb (p : Pixel) (colours : Palette) (value : Nat → Nat) : Rgb :=
  match p with
  | bit => Rgb.grey (255 * value 0)
  | grey => Rgb.grey (value 0)
  | palette => colours.colour (value 0)
  | colour | lightness => Rgb.ofNats (value 0) (value 1) (value 2)
  | inks => Rgb.ofInks (255 - value 0) (255 - value 1) (255 - value 2) (255 - value 3)

end Pixel

/-- The bytes of one part that runs from an offset on stand for, until there are so many. A run
stays in its row, and the rest of it is dropped. -/
def unpack (data : ByteArray) (row count : Nat) :
    Nat → Nat → ByteArray → Except ImageFault ByteArray
  | 0, _, _ => .error (.cutShort 0)
  | fuel + 1, offset, out =>
    if count ≤ out.size then .ok out
    else
      let rest := data.size - offset
      let mark := Bytes.byteAt data offset
      let room := row - out.size % row
      if rest = 0 then .error (.cutShort 0)
      else if mark = 128 then unpack data row count fuel (offset + 1) out
      else if 128 < mark then
        if rest < 2 then .error (.cutShort rest)
        else
          let value := UInt8.ofNat (Bytes.byteAt data (offset + 1))
          unpack data row count fuel (offset + 2)
            ((min room (257 - mark)).fold (fun _ _ out => out.push value) out)
      else if rest < mark + 2 then .error (.cutShort rest)
      else
        unpack data row count fuel (offset + mark + 2)
          (out ++ data.extract (offset + 1) (offset + 1 + min room (mark + 1)))

/-- The end of the resources from an offset on. Each has a mark, a number, a name and data, and the
last two are filled up to whole words. -/
def resources? (data : ByteArray) (stop : Nat) : Nat → Nat → Option Nat
  | 0, _ => none
  | fuel + 1, offset =>
    if stop ≤ offset then some offset
    else if data.size < offset + 7 then none
    else
      let name := Bytes.byteAt data (offset + 6)
      let start := min data.size (offset + 7 + name + (1 - name % 2))
      if data.size < start + 4 then none
      else
        let size := Bytes.highAt data start 4
        resources? data stop fuel (min data.size (start + 4 + size + size % 2))

/-- The values of all parts in runs, each part from where the table of the lengths of its rows says.
-/
def unpackAll (data : ByteArray) (table row height parts : Nat) : Except ImageFault ByteArray := do
  let length (k : Nat) : Nat := Bytes.highAt data (table + 2 * k) 2
  let (out, _) ← (List.range parts).foldlM (fun (out, offset) part => do
    let found ← unpack data row (row * height) (data.size + 1) offset .empty
    let next := height.fold (fun y _ offset => offset + length (part * height + y)) offset
    pure (out ++ found, next)) (ByteArray.empty, table + 2 * height * parts)
  pure out

/-- The picture in data, if they are a layered document. -/
def decode (data : ByteArray) : Reading := OptionT.run do
  Attempt.require (Bytes.begins data "8BPS" && 26 ≤ data.size && Bytes.highAt data 4 2 == 1)
  let (channels, height, width) := (Bytes.highAt data 12 2, Bytes.highAt data 14 4,
    Bytes.highAt data 18 4)
  let pixel ← Attempt.ofOption (Pixel.ofCode? (Bytes.highAt data 24 2) (Bytes.highAt data 22 2))
  Attempt.insist (pixel.parts ≤ channels) .tooFewChannels
  let parts := if pixel = .colour ∧ channels = 4 then 4 else pixel.parts
  Attempt.require (30 ≤ data.size)
  let size := Bytes.highAt data 26 4
  let entries := data.extract 30 (30 + size)
  let colours : Palette := if size = 768 then
      ⟨(List.range 768).foldl (fun out i =>
        out.push (UInt8.ofNat (Bytes.byteAt entries (i % 3 * 256 + i / 3)))) .empty, 3, false⟩
    else ⟨.empty, 3, false⟩
  let start := min data.size (30 + size)
  Attempt.require (start + 4 ≤ data.size)
  let start ← Attempt.ofOption
    (resources? data (start + 4 + Bytes.highAt data start 4) data.size (start + 4))
  Attempt.require (start + 4 ≤ data.size)
  let size := Bytes.highAt data start 4
  Attempt.require (size == 0 || start + 8 ≤ data.size)
  let start := start + 4 + size
  Attempt.require (start + 2 ≤ data.size)
  let coded := Bytes.highAt data start 2
  let row := (width * pixel.bits + 7) / 8
  if coded = 1 then Attempt.require (start + 2 + 2 * height * parts ≤ data.size)
  Attempt.size width height
  let (values, offset) ← Attempt.lift (do
    if coded = 0 then
      (List.range parts).forM fun part =>
        ({ offset := start + 2 + part * (width * height), width, height } : Rows).check
          pixel.bits data
      pure (data, start + 2)
    else if coded = 1 then
      pure (← unpackAll data (start + 2) row height parts, 0)
    else throw .notReadable)
  let one := if coded = 0 then width * height else row * height
  pure (.tabulate width height fun x y => pixel.toRgb colours fun part =>
    let row := offset + part * one + y * row
    if pixel = .bit then (Bytes.byteAt values (row + x / 8) >>> (7 - x % 8)) % 2
    else Bytes.byteAt values (row + x))

end SceneScript.Psd
