import SceneScript.Storage.Ascii
import SceneScript.Storage.Rows

/-!
# Pixmaps in source text

Strings of source text: the size, the number of colours and the letters of a key, the keys of the
colours, and the rows of keys. The lines in front of the first string and those without one do not
count.
-/

namespace SceneScript.SourcePixmap

open Ascii

/-- Four numbers between single spaces behind a quote. They may have no digits. -/
def sizes? (text : List UInt8) : Option (List (List UInt8)) := do
  let rest ← after? [0x22] text
  let ((numbers, rest), _) := (List.range 4).foldl
    (fun ((numbers, rest), ok) k =>
      let rest' := if k = 0 then some rest else after? [0x20] rest
      match rest', ok with
      | some rest, true =>
        let digits := rest.takeWhile isDigit
        ((numbers ++ [digits], rest.drop digits.length), true)
      | _, _ => ((numbers, rest), false)) ((([] : List (List UInt8)), rest), true)
  let _ := rest
  if numbers.length = 4 then some numbers else none

/-- Skips lines to the one with the sizes, and answers with the offset behind it. -/
def findSizes (data : ByteArray) : Nat → Nat → Attempt (List (List UInt8) × Nat)
  | 0, _ => Attempt.foreign
  | fuel + 1, offset =>
    let (found, next) := line data offset
    if found.isEmpty then Attempt.foreign
    else
      match sizes? found with
      | some numbers => pure (numbers, next)
      | none => findSizes data fuel next

/-- The value of the words of a colour behind the key for colours, if there is one. -/
def colourWord? : List (List UInt8) → Option (Option (List UInt8))
  | [] => none
  | word :: rest =>
    if word == [0x63] then some rest.head?
    else
      match rest with
      | [] => none
      | _ :: rest => colourWord? rest

/-- A number in hexadecimal. -/
def hexadecimal (bs : List UInt8) : Option Nat :=
  let digit (b : UInt8) : Option Nat :=
    if isDigit b then some (b.toNat - 0x30)
    else if 0x61 ≤ b ∧ b ≤ 0x66 then some (b.toNat - 0x57)
    else if 0x41 ≤ b ∧ b ≤ 0x46 then some (b.toNat - 0x37)
    else none
  if bs.isEmpty then none else bs.foldlM (fun n b => (digit b).map (16 * n + ·)) 0

/-- The key and the colour of a line. -/
def colour (letters : Nat) (text : List UInt8) : Attempt (List UInt8 × Rgb) := do
  let text := (text.reverse.dropWhile isBlank).reverse
  let key := (text.drop 1).take letters
  let values := (text.take (text.length - 2)).drop (letters + 1)
  let some word := colourWord? (words [] values) | Attempt.fault .badSourcePixmap
  let word ← Attempt.ofOption word
  if word == ofString "None" then pure (key, .black)
  else
    let some digits := after? [0x23] word | Attempt.fault .badSourcePixmap
    let some n := hexadecimal digits | Attempt.fault (.notNumber digits)
    pure (key, Rgb.ofNats (n / 65536) (n / 256) n)

/-- The colours of so many lines from an offset on. -/
def colours (data : ByteArray) (letters : Nat) :
    Nat → Nat → List (List UInt8 × Rgb) → Attempt (List (List UInt8 × Rgb) × Nat)
  | 0, offset, sofar => pure (sofar.reverse, offset)
  | count + 1, offset, sofar => do
    let (found, next) := line data offset
    let entry ← colour letters found
    colours data letters count next (entry :: sofar)

/-- The keys in a text, of so many letters each. -/
def keysOf (letters : Nat) : Nat → List UInt8 → List (List UInt8)
  | 0, _ => []
  | fuel + 1, text =>
    if text.isEmpty then [] else text.take letters :: keysOf letters fuel (text.drop letters)

/-- What stands between the first quote and the last one. -/
def quotedPart (text : List UInt8) : List UInt8 :=
  let behind := (text.dropWhile (· != 0x22)).drop 1
  ((behind.reverse.dropWhile (· != 0x22)).drop 1).reverse

/-- The pixels of the lines from an offset on, until there are so many. -/
def pixels (data : ByteArray) (letters : Nat) (found : List (List UInt8 × Rgb)) (count : Nat) :
    Nat → Nat → Bool → Array Rgb → Except ImageFault (Array Rgb)
  | 0, _, _, _ => .error .tooLittle
  | fuel + 1, offset, marked, out => do
    if count ≤ out.size then pure out
    else
      let (text, next) := line data offset
      if text.isEmpty then throw .tooLittle
      else if !marked && trim text == ofString "/* pixels */" then
        pixels data letters found count fuel next true out
      else
        let inner := quotedPart text
        let row ← (keysOf letters inner.length inner).mapM fun key =>
          match found.lookup key with
          | some c => .ok c
          | none => .error (if 256 < found.length then .noSuchKey key else .noSuchColour)
        pixels data letters found count fuel next marked (out ++ row.toArray)

/-- The picture in data, if they are such a pixmap. -/
def decode (data : ByteArray) : Reading := OptionT.run do
  Attempt.require (Bytes.begins data "/* XPM */")
  let (numbers, offset) ← findSizes data (data.size + 1) 9
  let numbers ← Attempt.lift (numbers.mapM integer)
  let number (k : Nat) : Nat := ((numbers[k]?).getD 0).toNat
  let (found, offset) ← colours data (number 3) (number 2) offset []
  let (width, height) := (number 0, number 1)
  Attempt.size width height
  Attempt.insist (number 3 != 0) .tooLittle
  let all ← Attempt.lift
    (pixels data (number 3) found (width * height) (data.size + 1) offset false #[])
  pure (.tabulate width height fun x y => all.getD (y * width + x) .black)

end SceneScript.SourcePixmap
