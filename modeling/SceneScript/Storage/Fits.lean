import SceneScript.Storage.Ascii
import SceneScript.Storage.Rows

/-!
# Sky images

A head of cards of 80 bytes, each a keyword and a value, in whole blocks of 2880 bytes, and then
the pixels from the bottom.
-/

namespace SceneScript.Fits

open Ascii

/-- The cards of a head, the last one first. -/
abbrev Cards := List (List UInt8 × List UInt8)

/-- The keyword and the value of a card. A slash begins a comment. -/
def card (bytes : List UInt8) : List UInt8 × List UInt8 :=
  let value := trim ((bytes.drop 8).takeWhile (· != 0x2f))
  (trim (bytes.take 8), match value with
    | 0x3d :: rest => trim rest
    | value => value)

/-- The value of a keyword. -/
def value? (cards : Cards) (keyword : String) : Option (List UInt8) :=
  cards.lookup (ofString keyword)

/-- The integer that a keyword has. -/
def number (cards : Cards) (keyword : String) : Attempt Int := do
  Attempt.lift (integer (← Attempt.ofOption (value? cards keyword)))

/-- How the pixels of so many bits are held. -/
def layout? (bits : Int) : Option Layout :=
  if bits = 8 then some (.grey 8)
  else if bits = 16 then
    some (.wide 2 fun byte => Rgb.clippedGrey (byte 0 + 256 * byte 1))
  else if bits = 32 then
    some (.wide 4 fun byte => if 128 ≤ byte 3 then .black
      else Rgb.clippedGrey (byte 0 + 256 * (byte 1 + 256 * (byte 2 + 256 * byte 3))))
  else if bits = -32 ∨ bits = -64 then
    some (.wide 4 fun byte =>
      Rgb.ofSingle (byte 0 + 256 * (byte 1 + 256 * (byte 2 + 256 * byte 3))))
  else none

/-- The size that a head says and the layout of its pixels, unless it has none. -/
def described (cards : Cards) : Attempt (Option (Nat × Nat × Layout)) := do
  let axes ← number cards "NAXIS"
  if axes = 0 then pure none
  else
    let first ← number cards "NAXIS1"
    let (width, height) ← if axes = 1 then pure (1, first)
      else do pure (first, ← number cards "NAXIS2")
    let layout ← Attempt.ofOption (layout? (← number cards "BITPIX"))
    Attempt.require (0 < width && 0 < height)
    pure (some (width.toNat, height.toNat, layout))

/-- What is known of an image when so many of its cards have been read: the cards, whether a head is
open, and what the pixels are. -/
structure State where
  cards : Cards := []
  isOpen : Bool := false
  found : Option (Nat × Nat × Layout) := none

/-- Reads cards to the first block that is none, and answers with its offset. -/
def readCards (data : ByteArray) : Nat → Nat → State → Attempt (State × Nat)
  | 0, _, _ => Attempt.fault .skyEnded
  | fuel + 1, offset, s => do
    let bytes := (data.extract offset (offset + 80)).toList
    Attempt.insist (!bytes.isEmpty) .skyEnded
    let next := min data.size (offset + 80)
    let (keyword, value) := card bytes
    let begins := keyword == ofString "SIMPLE" || keyword == ofString "XTENSION"
    if !begins && !s.cards.isEmpty && !s.isOpen then pure (s, offset)
    else if !begins && keyword == ofString "END" then
      let found ← if s.found.isSome then pure s.found else described s.cards
      readCards data fuel ((next + 2879) / 2880 * 2880) { s with isOpen := false, found }
    else if s.found.isSome then
      readCards data fuel next { s with isOpen := s.isOpen || begins }
    else
      Attempt.require
        (!s.cards.isEmpty || ((ofString "SIMPLE").isPrefixOf keyword && value == ofString "T"))
      readCards data fuel next
        { s with isOpen := s.isOpen || begins, cards := (keyword, value) :: s.cards }

/-- The picture in data, if they are a sky image. -/
def decode (data : ByteArray) : Reading := OptionT.run do
  Attempt.require (Bytes.begins data "SIMPLE")
  let (s, offset) ← readCards data (data.size / 80 + 2) 0 {}
  match s.found with
  | none => Attempt.fault .skyEmpty
  | some (width, height, layout) =>
    ({ offset, width, height, upwards := true } : Rows).attempt layout data

end SceneScript.Fits
