import SceneScript.Storage.Ascii
import SceneScript.Storage.Rows

/-!
# Thumbnails

A line of text that names the format, comments, a line with the size, and pixels of one byte: three
bits of red, three of green and two of blue.
-/

namespace SceneScript.Thumbnail

open Ascii

/-- Passes over the comments from an offset on, and answers with the line behind them. -/
def sizeLine (data : ByteArray) : Nat → Nat → Attempt (List UInt8 × Nat)
  | 0, _ => Attempt.foreign
  | fuel + 1, offset =>
    let (found, next) := line data offset
    match found with
    | [] => Attempt.foreign
    | 0x23 :: _ => sizeLine data fuel next
    | _ => pure (found, next)

/-- The layout of the pixels. -/
def layout : Layout := .wide 1 fun byte =>
  let n := byte 0
  Rgb.ofNats (n / 32 * 255 / 7) (n / 4 % 8 * 255 / 7) (n % 4 * 255 / 3)

/-- The picture in data, if they are a thumbnail. -/
def decode (data : ByteArray) : Reading := OptionT.run do
  Attempt.require (Bytes.begins data "P7 332")
  let (found, offset) ← sizeLine data (data.size + 1) (line data 6).2
  match words [] found with
  | width :: height :: _ =>
    let width ← Attempt.lift (integer width)
    let height ← Attempt.lift (integer height)
    Attempt.require (0 < width && 0 < height)
    ({ offset, width := width.toNat, height := height.toNat } : Rows).attempt layout data
  | short => Attempt.fault (.missingPair short.length)

end SceneScript.Thumbnail
