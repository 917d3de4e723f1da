import SceneScript.Storage.Jpeg.Decode
import SceneScript.Storage.Pixmap

/-!
# Press images

Fields with two numbers each, the record and the place in it. Fields of the third record say what
the picture is, and the first fields of the eighth hold it: shades of grey, or a photograph.
-/

namespace SceneScript.Press

/-- A field: its record and its place, the length of its data, and where they begin. -/
structure Field where
  record : Nat
  place : Nat
  size : Nat
  start : Nat

/-- Whether a field holds a part of the picture. -/
def Field.isPicture (f : Field) : Bool := f.record == 8 && f.place == 10

/-- The bytes of the head of a field. -/
def headSize : Nat := 5

/-- The field at an offset. There is none at the end, or if there are only zeros. -/
def fieldAt (data : ByteArray) (offset : Nat) : Except ImageFault (Option Field) :=
  let head := data.extract offset (offset + headSize)
  let byte (k : Nat) : Nat := Bytes.byteAt head k
  let more := byte 3 - 128
  if head.toList.all (· == 0) then .ok none
  else if head.size < 3 then .error .missingByte
  else if byte 0 ≠ 0x1c ∨ !([1, 2, 3, 4, 5, 6, 7, 8, 9, 240].contains (byte 1)) then
    .error .badField
  else if head.size = 3 then .error .missingByte
  else if 132 < byte 3 then .error .badFieldLength
  else if 128 ≤ byte 3 then
    let start := offset + headSize
    .ok (some ⟨byte 1, byte 2, Bytes.highAt data start more, start + more⟩)
  else if head.size = 4 then .error .fieldCut
  else .ok (some ⟨byte 1, byte 2, Bytes.highAt head 3 2, offset + headSize⟩)

/-- The fields from an offset on up to the picture, and where that begins, if there is one. -/
def fields (data : ByteArray) : Nat → Nat → List Field → Attempt (List Field × Option Nat)
  | 0, _, sofar => pure (sofar, none)
  | fuel + 1, offset, sofar =>
    match fieldAt data offset with
    | .error .badFieldLength => Attempt.fault .badFieldLength
    | .error _ => Attempt.foreign
    | .ok none => pure (sofar, none)
    | .ok (some f) =>
      if f.isPicture then pure (sofar, some offset)
      else fields data fuel (f.start + f.size) (f :: sofar)

/-- The data of the picture in the fields from an offset on. -/
def pictureData (data : ByteArray) : Nat → Nat → ByteArray → Except ImageFault ByteArray
  | 0, _, out => .ok out
  | fuel + 1, offset, out => do
    match ← fieldAt data offset with
    | none => pure out
    | some f =>
      if f.isPicture then
        let stop := f.start + f.size
        pictureData data fuel stop (out ++ data.extract f.start stop)
      else pure out

/-- The fields of the third record with a place. -/
def described (all : List Field) (place : Nat) : List Field :=
  all.filter fun f => f.record == 3 && f.place == place

/-- The data of the field of the third record with a place. It must stand alone, and have some. -/
def value (data : ByteArray) (all : List Field) (place : Nat) : Attempt ByteArray := do
  match described all place with
  | [f] =>
    Attempt.require (f.size != 0)
    pure (data.extract f.start (f.start + f.size))
  | _ => Attempt.foreign

/-- The same as a number, of which the last four bytes count. -/
def number (data : ByteArray) (all : List Field) (place : Nat) : Attempt Nat := do
  let found ← value data all place
  let size := min 4 found.size
  pure (Bytes.highAt found (found.size - size) size)

/-- Whether the picture is one of greys, or one part of several. -/
def isKnown (layers part : Nat) (shown : Option Nat) : Bool :=
  if part = 0 then layers == 1
  else (layers == 3 || layers == 4) && shown.getD 1 ≤ layers

/-- The picture in data, if they are a press image. -/
def decode (data : ByteArray) : Reading := OptionT.run do
  let (all, place) ← fields data (data.size + 1) 0 []
  let kind ← value data all 60
  Attempt.require (2 ≤ kind.size)
  let shown ← if (described all 65).isEmpty then pure none
    else do
      let found ← value data all 65
      Attempt.require (found.size != 0)
      pure (some (Bytes.byteAt found 0))
  let (width, height) := (← number data all 20, ← number data all 30)
  Attempt.insist (!(described all 120).isEmpty) .unknownPress
  let packing ← number data all 120
  Attempt.insist (packing == 1 || packing == 5) .unknownPress
  Attempt.require (isKnown (Bytes.byteAt kind 0) (Bytes.byteAt kind 1) shown)
  Attempt.size width height
  let some place := place | Attempt.fault .notReadable
  let found ← Attempt.lift (pictureData data (data.size + 1) place .empty)
  let head := "P5\n" ++ toString width ++ " " ++ toString height ++ "\n255\n"
  match ← Attempt.lift
    (if packing = 1 then Pixmap.decode (head.toUTF8 ++ found) else Jpeg.decode found) with
  | some p => pure p
  | none => Attempt.fault .noPhotograph

end SceneScript.Press
