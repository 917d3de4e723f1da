import SceneScript.Storage.Jpeg2000

/-!
# Stills of films

A file of boxes, one of which names the kind, and others describe the items of the file and where
they are. The property `ispe` says how large the picture is. The pixels are not worked out.
-/

namespace SceneScript.Avif

open Jpeg2000 (findBox)

/-- The largest width and height. -/
def limit : Nat := 65536

/-- Whether a picture can be written. -/
def check (p : Picture) : Except Fault Unit :=
  if p.width = 0 ∨ p.height = 0 then .error .noCanvas
  else if limit < max p.width p.height then .error .encoderRefused
  else .ok ()

/-- The first bytes of a file: the kind, and the box that describes the items. -/
def head : ByteArray :=
  Bytes.ofList [0, 0, 0, 32] ++ "ftypavif".toUTF8 ++ Bytes.zeros 4 ++ "avifmif1miafMA1B".toUTF8 ++
    Bytes.ofList [0, 0, 0, 0xeb] ++ "meta".toUTF8 ++ Bytes.zeros 4

/-- The kinds that are read. -/
def kinds : List String := ["avif", "avis", "mif1", "msf1"]

/-- Where the data of the first item end, if that is said in the usual way. -/
def itemStop? (data : ByteArray) (start stop : Nat) : Option Nat :=
  let sizes := Bytes.byteAt data (start + 4)
  if stop < start + 22 ∨ sizes ≠ 0x44 then none
  else some (Bytes.highAt data (start + 14) 4 + Bytes.highAt data (start + 18) 4)

/-- The picture in data, if they are a still. -/
def decode (data : ByteArray) : Reading := OptionT.run do
  Attempt.require (Bytes.hasAt data 4 "ftyp".toUTF8.toList &&
    kinds.any fun kind => Bytes.hasAt data 8 kind.toUTF8.toList)
  let find (name : String) (stop start : Nat) : Attempt (Nat × Nat) :=
    findBox data name stop (data.size + 1) start
  let (start, stop) ← find "meta" data.size 0
  let (first, behind) ← find "iprp" stop (start + 4)
  let (first, behind) ← find "ipco" behind first
  let (first, behind) ← find "ispe" behind first
  Attempt.require (first + 12 ≤ behind)
  let (width, height) := (Bytes.highAt data (first + 4) 4, Bytes.highAt data (first + 8) 4)
  Attempt.size width height
  let (items, last) ← find "iloc" stop (start + 4)
  Attempt.insist ((itemStop? data items last).all (· ≤ data.size)) .stillEnded
  pure (Picture.standIn data width height)

end SceneScript.Avif
