import SceneScript.Storage.Ascii
import SceneScript.Storage.Path
import SceneScript.Storage.Rows

/-!
# Laboratory images

A head of lines of text that fill 512 bytes, and the rows from the bottom, each of them in its
parts. A line is a key and a value. Lines that are too long, or no such lines, are found in files
of all kinds, so a file that has them is taken for something else.
-/

namespace SceneScript.LabImage

open Ascii

/-! ## Writing -/

/-- The name that an image gives itself: that of its file, at most 92 characters long. -/
def givenName (path : String) : List Char :=
  let name := (Path.name path).toList
  let extension := (Path.extension path).toList
  let front := name.take (name.length - extension.length)
  front.take (92 - extension.length) ++ extension

/-- The first line of a head. -/
def firstLine : String := "Image type: RGB image\r\n"

/-- The line with the name. -/
def nameLine (path : String) : List Char := "Name: ".toList ++ givenName path ++ ['\r', '\n']

/-- Whether the name can be written, which must be in ASCII. -/
def check (path : String) : Except Fault Unit :=
  let line := nameLine path
  let front := line.takeWhile (·.toNat < 128)
  match line.drop front.length with
  | [] => .ok ()
  | first :: rest =>
    let run := rest.takeWhile (128 ≤ ·.toNat)
    .error (.unencodable first front.length (front.length + 1 + run.length))

/-- The head. -/
def head (path : String) (p : Picture) : ByteArray :=
  let size := toString p.width ++ "*" ++ toString p.height
  let text := (firstLine ++ String.ofList (nameLine path) ++ "Image size (x*y): " ++ size ++
    "\r\nFile size (no of images): 1\r\n").toUTF8
  text ++ Bytes.zeros (511 - text.size) ++ Bytes.ofList [0x1a]

/-- The rows. -/
def rows (p : Picture) : ByteArray :=
  p.height.fold (fun r _ out => (p.planes (p.height - 1 - r)).foldl (· ++ ·) out) .empty

/-- A picture in bytes, for the file at a path. -/
def encode (path : String) (p : Picture) : ByteArray := head path p ++ rows p

/-! ## Reading the head -/

/-- A number with four bytes, the lowest first or last. -/
def four (byte : Nat → Nat) (highFirst : Bool) : Nat :=
  let part (k : Nat) : Nat := byte (if highFirst then 3 - k else k)
  part 0 + 256 * (part 1 + 256 * (part 2 + 256 * part 3))

/-- Pixels of parts in rows of their own, of which three make a colour. -/
def colours (width count : Nat) : Layout :=
  .planes width count fun byte => Rgb.ofNats (byte 0) (byte 1) (byte 2)

/-- Pixels with a sign. Those below zero are black. -/
def signed (bytes : Nat) (n : Nat) : Rgb :=
  if 128 ≤ n >>> (8 * (bytes - 1)) then .black else Rgb.clippedGrey n

/-- The types of images, and how the pixels of an image of the given width are held. -/
def layouts (width : Nat) : List (List String × Layout) :=
  let word : Layout := .wide 2 fun byte => Rgb.clippedGrey (byte 0 + 256 * byte 1)
  [(["0 1 image", "L 1 image", "B1 image"], .bit),
    (["Greyscale image", "Grayscale image"], .grey 8),
    (["RGB image"], colours width 3),
    (["RLB image", "RYB image"], .parts 3 0 1 2),
    (["B2 image"], .palette 2 ⟨.empty, 3, false⟩),
    (["B4 image"], .palette 4 ⟨.empty, 3, false⟩),
    (["X 24 image"], .parts 3 0 1 2),
    (["L 32 S image", "L 32S image", "L*32S image"],
      .wide 4 fun byte => signed 4 (four byte false)),
    (["L 32 F image", "L 32F image", "L*32F image"],
      .wide 4 fun byte => Rgb.ofSingle (four byte false)),
    (["L 8 image", "L*8 image"], .grey 8),
    (["L 8S image", "L*8S image"], .wide 1 fun byte => signed 1 (byte 0)),
    (["L 16 image", "L*16 image", "L 16L image", "L*16L image"], word),
    (["L 16S image", "L*16S image"], .wide 2 fun byte => signed 2 (byte 0 + 256 * byte 1)),
    (["L 16B image", "L*16B image"],
      .wide 2 fun byte => Rgb.clippedGrey (256 * byte 0 + byte 1)),
    (["L 32 image", "L*32 image"], .wide 4 fun byte => Rgb.clippedGrey (four byte false)),
    (["LA image", "PA image"], .planes width 2 fun byte => Rgb.grey (byte 0)),
    (["RGBA image", "RGBX image"], colours width 4),
    (["CMYK image"], .planes width 4 fun byte => Rgb.ofInks (byte 0) (byte 1) (byte 2) (byte 3)),
    (["YCC image"], .planes width 3 fun byte => Rgb.ofChroma (byte 0) (byte 1) (byte 2))]

/-- What the lines of a head say: the type, the size, whether there is a palette, and how many of
the keys are known. -/
structure Head where
  type : List UInt8 := ofString "Greyscale image"
  size : Option (Int × Int) := some (512, 512)
  hasPalette : Bool := false
  known : Nat := 0

/-- The keys that an image must have at least one of. -/
def keys : List String :=
  ["Comment", "Date", "Digitalization equipment", "File size (no of images)", "Lut", "Name",
    "Scale (x,y)", "Image size (x*y)", "Image type"]

/-- The numbers of a value, between commas or stars. Their fractions do not count. -/
def numbers (value : List UInt8) : Except ImageFault (List Int) :=
  (splitMarks (fun b => b == 0x2c || b == 0x2a) value).mapM fun word =>
    match integer word with
    | .ok n => .ok n
    | .error _ =>
      match fraction word with
      | .ok x => .ok x.toInt64.toInt
      | .error _ => .error (.notFractionText word)

/-- The head with one more line. -/
def Head.add (h : Head) (line : List UInt8) : Attempt Head := do
  let key := line.takeWhile (· != 0x3a)
  Attempt.require ((key.head?.map isLetter).getD false && key.length < line.length)
  let value := (line.drop (key.length + 1)).dropWhile isSpace
  let is (name : String) : Bool := key == ofString name
  let h := { h with known := h.known + if keys.any is then 1 else 0 }
  if is "Image type" then pure { h with type := value }
  else if is "Image size (x*y)" then
    match ← Attempt.lift (numbers value) with
    | [width, height] => pure { h with size := some (width, height) }
    | _ => pure { h with size := none }
  else if is "File size (no of images)" ∨ is "Scale (x,y)" then
    let _ ← Attempt.lift (numbers value)
    pure h
  else if is "Lut" then pure { h with hasPalette := true }
  else pure h

/-- Reads lines to the byte that ends them, and answers with its offset. Breaks of the other kind in
front of a line do not count. -/
def readLines (data : ByteArray) : Nat → Nat → Head → Attempt (Head × Nat)
  | 0, _, _ => Attempt.foreign
  | fuel + 1, offset, h =>
    match data[offset]? with
    | none => Attempt.foreign
    | some 0x0d => readLines data fuel (offset + 1) h
    | some 0 | some 0x1a => pure (h, offset)
    | some _ => do
      let (found, next) := line data offset
      Attempt.require (found.length ≤ 100)
      readLines data fuel next (← h.add (withoutBreak found))

/-! ## Reading the pixels -/

/-- The palette at an offset, whose parts stand apart. The shades of grey make none. -/
def paletteAt? (data : ByteArray) (offset : Nat) : Option Palette :=
  let part (i k : Nat) : Nat := Bytes.byteAt data (offset + 256 * k + i)
  let grey := (List.range 256).all fun i => part i 0 == part i 1 && part i 1 == part i 2
  if grey then none
  else
    some ⟨(List.range 768).foldl (fun out n =>
      out.push (UInt8.ofNat (part (n / 3) (n % 3)))) .empty, 3, false⟩

/-- The picture in data, if they are a laboratory image. -/
def decode (data : ByteArray) : Reading := OptionT.run do
  Attempt.require ((data.extract 0 100).toList.contains 0x0a)
  let (h, offset) ← readLines data (data.size + 1) 0 {}
  Attempt.require (h.known != 0)
  let offset ← Attempt.ofOption
    (((List.range (data.size - offset)).find? fun i => Bytes.byteAt data (offset + i) == 0x1a).map
      (offset + · + 1))
  let (width, height) ← Attempt.ofOption h.size
  Attempt.require (!h.hasPalette || offset + 768 ≤ data.size)
  Attempt.require (0 < width && 0 < height)
  let (width, height) := (width.toNat, height.toNat)
  Attempt.size width height
  let some (_, layout) := (layouts width).find? fun (names, _) =>
      names.any fun name => h.type == ofString name
    | Attempt.fault .unknownMode
  let palette := if h.hasPalette then paletteAt? data offset else none
  let layout := match palette with
    | some p => if layout.bits = 8 then .palette 8 p else layout
    | none => layout
  let offset := if h.hasPalette then offset + 768 else offset
  Attempt.lift (({ offset, width, height, upwards := true } : Rows).read layout data)

end SceneScript.LabImage
