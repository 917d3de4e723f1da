import SceneScript.Storage.Ascii
import SceneScript.Storage.Rows

/-!
# Bitmaps in source text

Definitions of the width and the height, and the bytes of the rows in hexadecimal. Only what stands
behind the letter `x` counts. The first pixel of a byte is in its lowest bit.
-/

namespace SceneScript.Xbm

open Ascii

/-- A definition whose name has an end, with its value and what follows it. There may be anything
in front of the end that is in the line. -/
def define? (ending text : List UInt8) : Option (Nat × List UInt8) := do
  let rest ← after? (ofString "#define") text
  if !(rest.head?.map isSpace).getD false then none
  else
    let line := rest.takeWhile (· != 0x0a)
    let places := (List.range line.length).reverse.filter fun i =>
      1 ≤ i && ending.isPrefixOf (line.drop i)
    places.findSome? fun i =>
      let behind := rest.drop (i + ending.length)
      let digits := (behind.dropWhile isSpace).takeWhile isDigit
      let after := (behind.dropWhile isSpace).drop digits.length
      if !(behind.head?.map isSpace).getD false || digits.isEmpty ||
          !(after.head?.map isBreak).getD false then none
      else
        let value := digits.foldl (fun n b => 10 * n + (b.toNat - 0x30)) 0
        some (value, after.dropWhile isBreak)

/-- The last place of a text in another one. -/
def lastPlace? (text word : List UInt8) : Option Nat :=
  (List.range (text.length + 1)).reverse.find? fun i => word.isPrefixOf (text.drop i)

/-- The value of a hexadecimal digit. Other letters count as zero. -/
def digit (b : UInt8) : Nat :=
  if isDigit b then b.toNat - 0x30
  else if 0x61 ≤ b ∧ b ≤ 0x66 then b.toNat - 0x61 + 10
  else if 0x41 ≤ b ∧ b ≤ 0x46 then b.toNat - 0x41 + 10
  else 0

/-- The bytes that follow, at most so many. -/
def unpack : Nat → List UInt8 → ByteArray → Except ImageFault ByteArray
  | 0, _, out => .ok out
  | count + 1, text, out =>
    match text.dropWhile (· != 0x78) with
    | _ :: a :: b :: rest => unpack count rest (out.push (UInt8.ofNat (16 * digit a + digit b)))
    | short => .error (.cutShort short.length)

/-- Black and white pixels, the first of a byte in its lowest bit. -/
def layout : Layout where
  bits := 1
  colour data row x := Rgb.grey (255 * ((Bytes.byteAt data (row + x / 8) >>> (x % 8)) % 2))

/-- The picture in data, if they are such a bitmap. -/
def decode (data : ByteArray) : Reading := OptionT.run do
  let head := (data.extract 0 512).toList
  let (width, rest) ← Attempt.ofOption (define? (ofString "_width") (head.dropWhile isBlank))
  let (height, rest) ← Attempt.ofOption (define? (ofString "_height") rest)
  let place ← Attempt.ofOption (lastPlace? rest (ofString "_bits[]"))
  Attempt.size width height
  let rows : Rows := { offset := 0, width, height }
  let start := head.length - rest.length + place + 7
  let bytes ← Attempt.lift
    (unpack (rows.size 1 * height) (data.extract start data.size).toList .empty)
  pure (rows.picture layout bytes)

end SceneScript.Xbm
