import SceneScript.Storage.Ascii
import SceneScript.Storage.Rows

/-!
# Portable pixmaps

A pixmap has a head in ASCII and then the pixels. It is written in the plainest way, three bytes to
a pixel (`Pixmap.encode`). It is read in all ways (`Pixmap.decode`): bits, greys and colours, each
of them in bytes or in decimal words, and inks, numbers of colours, opacities and fractions in bytes
alone. A value is read against the greatest one, which stands in the head.
-/

namespace SceneScript.Pixmap

open Ascii

/-- The head of a picture. -/
def head (p : Picture) : ByteArray :=
  ("P6\n" ++ toString p.width ++ " " ++ toString p.height ++ "\n255\n").toUTF8

/-- A picture in bytes. -/
def encode (p : Picture) : ByteArray := head p ++ p.bytes

/-! ## Reading the head -/

/-- What a cell of a pixmap is. -/
inductive Sample
  | bit | grey | number | colour | inks | opaqueColour | fraction
  deriving Repr, DecidableEq, Inhabited

/-- The head of a pixmap: what its cells are, whether they are words, its size, its greatest value,
and where the data begin. The highest byte of fractions comes first or last. -/
structure Head where
  sample : Sample
  plain : Bool
  width : Int
  height : Int
  greatest : Nat
  highFirst : Bool
  offset : Nat

/-- Reads a word of the head, at most ten bytes long, and answers with the offset after it and the
byte behind. A number sign begins a comment that lasts to the end of the line. -/
def headWord (data : ByteArray) : Nat → Nat → Bool → List UInt8 →
    Except ImageFault (List UInt8 × Nat)
  | 0, offset, _, word => .ok (word.reverse, offset)
  | fuel + 1, offset, comment, word =>
    match data[offset]? with
    | none => if word.isEmpty then .error .headEnded else .ok (word.reverse, offset)
    | some b =>
      if comment then headWord data fuel (offset + 1) (!isBreak b) word
      else if isBlank b then
        if word.isEmpty then headWord data fuel (offset + 1) false word
        else .ok (word.reverse, offset + 1)
      else if b == 0x23 then headWord data fuel (offset + 1) true word
      else if word.length = 10 then .error (.headWordTooLong (word.reverse ++ [b]))
      else headWord data fuel (offset + 1) false (b :: word)

/-- Reads the next word of the head. -/
def nextWord (data : ByteArray) (offset : Nat) : Except ImageFault (List UInt8 × Nat) :=
  headWord data (data.size + 1 - offset) offset false []

/-- Reads an integer of the head. -/
def headInteger (data : ByteArray) (offset : Nat) : Except ImageFault (Int × Nat) := do
  let (word, offset) ← nextWord data offset
  pure (← integer word, offset)

/-- What the name in front of a pixmap says. -/
def kinds : List (String × Sample × Bool) :=
  [("P1", .bit, true), ("P2", .grey, true), ("P3", .colour, true), ("P4", .bit, false),
    ("P5", .grey, false), ("P6", .colour, false), ("P0CMYK", .inks, false),
    ("Pf", .fraction, false), ("PyP", .number, false), ("PyRGBA", .opaqueColour, false),
    ("PyCMYK", .inks, false)]

/-- Whether the scale of fractions says that their highest byte comes first. -/
def readScale (data : ByteArray) (offset : Nat) : Except ImageFault (Bool × Nat) := do
  let (word, offset) ← nextWord data offset
  let scale ← fraction word
  if scale == 0 || !(Binary64.ofFloat scale).isFinite then throw .badScale
  pure (0 < scale, offset)

/-- The head of a pixmap, if the name in front is that of one. -/
def readHead (data : ByteArray) : Except ImageFault (Option Head) := do
  let name := (data.extract 0 6).toList.takeWhile (!isBlank ·)
  match kinds.find? (·.1.toUTF8.toList == name) with
  | none => pure none
  | some (_, sample, plain) =>
    let (width, offset) ← headInteger data (min 6 (name.length + 1))
    let (height, offset) ← headInteger data offset
    match sample with
    | .bit => pure (some ⟨sample, plain, width, height, 1, true, offset⟩)
    | .fraction =>
      let (highFirst, offset) ← readScale data offset
      pure (some ⟨sample, plain, width, height, 1, highFirst, offset⟩)
    | _ =>
      let (greatest, offset) ← headInteger data offset
      if greatest ≤ 0 ∨ 65536 ≤ greatest then throw .badGreatest
      pure (some ⟨sample, plain, width, height, greatest.toNat, true, offset⟩)

/-! ## Reading the cells -/

/-- The number of values of a cell. -/
def Sample.values : Sample → Nat
  | .bit | .grey | .number | .fraction => 1
  | .colour => 3
  | .inks | .opaqueColour => 4

/-- The colour of the values of a cell. -/
def Sample.toRgb (s : Sample) (value : Nat → Nat) : Rgb :=
  match s with
  | .bit | .grey | .number | .fraction => Rgb.clippedGrey (value 0)
  | .colour | .opaqueColour => Rgb.ofNats (value 0) (value 1) (value 2)
  | .inks => Rgb.ofInks (value 0) (value 1) (value 2) (value 3)

/-- A value against the greatest one, a half rounded to the even neighbour. Greys above a byte are
measured with two. -/
def Head.scaled (h : Head) (value : Nat) : Nat :=
  let full := if h.sample = .grey ∧ 255 < h.greatest then 65535 else 255
  min full (Decimal.roundQuotient (full * value) h.greatest)

/-- The bytes without comments and the breaks at their ends. -/
def withoutComments (comment : Bool) : List UInt8 → List UInt8
  | [] => []
  | b :: rest =>
    if comment then withoutComments (!isBreak b) rest
    else if b == 0x23 then withoutComments true rest
    else b :: withoutComments false rest

/-- Whether a word is short enough. -/
def checkWord (word : List UInt8) : Except ImageFault Unit :=
  if 10 < word.length then .error (.wordTooLong (word.take 11)) else .ok ()

/-- The value of a word. -/
def plainValue (h : Head) (word : List UInt8) : Except ImageFault Nat := do
  checkWord word
  let value ← integer word
  if value < 0 then throw (.negativeValue value)
  if (h.greatest : Int) < value then throw (.valueTooLarge value)
  pure (h.scaled value.toNat)

/-- The value of a bit. One is black. -/
def plainBit (b : UInt8) : Except ImageFault Nat :=
  if b == 0x30 then .ok 255
  else if b == 0x31 then .ok 0
  else .error (.notBit b)

/-- The first values of a plain pixmap. The words after them are not looked at, but for the length
of a last one that no blank follows. -/
def plainValues (h : Head) (count : Nat) (bs : List UInt8) : Except ImageFault (List Nat) := do
  let bs := withoutComments false bs
  let all := words [] bs
  let values ← if h.sample = .bit then (bs.filter (!isBlank ·)).mapM plainBit
    else do
      if !((bs.getLast?.map isBlank).getD true) then checkWord (all.getLast?.getD [])
      (all.take count).mapM (plainValue h)
  if values.length < count then throw .tooLittle
  pure (values.take count)

/-- The picture of the values of cells. -/
def ofValues (h : Head) (width height : Nat) (values : List Nat) : Picture :=
  let values := values.toArray
  let n := h.sample.values
  Picture.tabulate width height fun x y =>
    h.sample.toRgb fun k => (values[n * (y * width + x) + k]?).getD 0

/-- How the cells of a pixmap stand in a row, if they stand there as they are. -/
def Head.layout? (h : Head) : Option Layout :=
  match h.sample with
  | .bit => some .ink
  | .fraction => some (.wide 4 fun byte =>
    let byte (k : Nat) : Nat := byte (if h.highFirst then 3 - k else k)
    Rgb.ofSingle (byte 0 + byte 1 <<< 8 + byte 2 <<< 16 + byte 3 <<< 24))
  | .grey =>
    if h.greatest = 255 then some (.grey 8)
    else if h.greatest = 65535 then
      some (.wide 2 fun byte => Rgb.clippedGrey (256 * byte 0 + byte 1))
    else none
  | s => if h.greatest = 255 then some (.wide s.values s.toRgb) else none

/-- The values of a pixmap in bytes, or in pairs of bytes if the greatest one needs them. -/
def packedValues (h : Head) (data : ByteArray) (count : Nat) : Except ImageFault (List Nat) :=
  let size := if h.greatest < 256 then 1 else 2
  if data.size - h.offset < size * count then .error .tooLittle
  else .ok ((List.range count).map fun i => h.scaled (Bytes.highAt data (h.offset + size * i) size))

/-- The picture of a pixmap, if the data are one. Fractions are held from the bottom. -/
def decode (data : ByteArray) : Reading := do
  match ← readHead data with
  | none => pure none
  | some h =>
    if h.width ≤ 0 ∨ h.height ≤ 0 then pure none
    else
      let (width, height) := (h.width.toNat, h.height.toNat)
      checkPixels width height
      let count := width * height * h.sample.values
      if h.plain then
        let values ← plainValues h count (data.toList.drop h.offset)
        pure (some (ofValues h width height values))
      else
        match h.layout? with
        | some l =>
          let rows : Rows := ⟨h.offset, width, height, 0, h.sample == .fraction⟩
          pure (some (← rows.read l data))
        | none => pure (some (ofValues h width height (← packedValues h data count)))

end SceneScript.Pixmap
