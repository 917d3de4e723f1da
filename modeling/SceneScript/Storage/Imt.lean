import SceneScript.Storage.Ascii
import SceneScript.Storage.Rows

/-!
# Greys behind lines of text

Lines of a key and a value, which say the size and how a pixel is held, and a form feed, behind
which the rows begin.
-/

namespace SceneScript.Imt

open Ascii

/-- What the lines so far say. -/
structure Head where
  width : Int := 0
  height : Int := 0
  hasGreys : Bool := false

/-- The key and the value in a line, if there are any. -/
def entry? (text : List UInt8) : Option (List UInt8 × List UInt8) :=
  let key := text.takeWhile fun b => 0x61 ≤ b && b ≤ 0x7a
  match text.drop key.length with
  | 0x20 :: value => some (key, value.takeWhile fun b => b != 0x20 && !isBreak b)
  | _ => none

/-- The head with one more entry. -/
def Head.add (h : Head) (key value : List UInt8) : Except ImageFault Head :=
  if key == ofString "width" then (integer value).map fun n => { h with width := n }
  else if key == ofString "height" then (integer value).map fun n => { h with height := n }
  else if key == ofString "pixel" && value == ofString "n8" then .ok { h with hasGreys := true }
  else .ok h

/-- Reads lines up to the form feed, and answers with the offset behind it. There is none if a line
of one byte or of more than a hundred comes first, or one that has no entry and is no comment. -/
def readLines (data : ByteArray) : Nat → Nat → Head → Except ImageFault (Head × Option Nat)
  | 0, _, h => .ok (h, none)
  | fuel + 1, offset, h => do
    let (found, next) := line data offset
    let text := if found.getLast? = some 0x0a then found.dropLast else found
    match found with
    | [] | 0x0a :: _ => pure (h, none)
    | 0x0c :: _ => pure (h, some (offset + 1))
    | first :: _ =>
      if text.length = 1 ∨ 100 < text.length then pure (h, none)
      else if first = 0x2a then readLines data fuel next h
      else
        match entry? text with
        | none => pure (h, none)
        | some (key, value) => readLines data fuel next (← h.add key value)

/-- The picture in data, if they are such greys. -/
def decode (data : ByteArray) : Reading := OptionT.run do
  Attempt.require ((data.extract 0 100).toList.contains 0x0a)
  let (h, offset) ← Attempt.lift (readLines data (data.size + 1) 0 {})
  Attempt.require (h.hasGreys && 0 < h.width && 0 < h.height)
  let (width, height) := (h.width.toNat, h.height.toNat)
  Attempt.size width height
  match offset with
  | none => Attempt.fault .notReadable
  | some offset =>
    Attempt.lift (({ offset, width, height } : Rows).read (.grey 8) data)

end SceneScript.Imt
