import SceneScript.Storage.Rows

/-!
# Workstation images

A head of 512 bytes, and then the rows, all of one part in front of those of the next, from the
bottom. Values have one byte or two. They are held as they are or in runs, and then tables say where
each row begins and how long it is.
-/

namespace SceneScript.Sgi

/-! ## Writing -/

/-- Whether the sides fit their fields. -/
def check (p : Picture) : Except Fault Unit :=
  if 65535 < max p.width p.height then .error .sideNotWord else .ok ()

/-- The head. -/
def head (p : Picture) : ByteArray :=
  Bytes.ofList ([0x01, 0xda, 0, 1] ++ Bytes.high 2 3 ++ Bytes.high 2 p.width ++
    Bytes.high 2 p.height ++ Bytes.high 2 3 ++ Bytes.high 4 0 ++ Bytes.high 4 255) ++
    Bytes.zeros 492

/-- The rows. -/
def rows (p : Picture) : ByteArray :=
  (List.range 3).foldl (fun out part => p.height.fold (fun r _ out =>
    out ++ p.plane part (p.height - 1 - r)) out) .empty

/-- A picture in bytes. -/
def encode (p : Picture) : ByteArray := head p ++ rows p

/-! ## Reading -/

/-- The bytes of the head. -/
def headSize : Nat := 512

/-- The number of parts of a picture, if the bytes of a value, the dimensions and the count of the
parts agree. -/
def parts? (bytes dimensions count : Nat) : Option Nat :=
  if bytes ≠ 1 ∧ bytes ≠ 2 then none
  else if (dimensions = 1 ∨ dimensions = 2) ∧ count = 1 then some 1
  else if dimensions = 3 ∧ (count = 3 ∨ count = 4) then some count
  else none

/-- The highest bytes of the values of a row in at most so many runs, given those so far. A run is a
count with a mark: so many values follow, or one that stands for so many. A count of zero ends the
row, and the last run must have it. The last byte of the data is never one of a value of its own. -/
def expand (data : ByteArray) (bytes width : Nat) :
    Nat → Nat → ByteArray → Except ImageFault ByteArray
  | 0, _, out => .ok out
  | n + 1, offset, out =>
    let start := offset + bytes
    let mark := Bytes.byteAt data (start - 1)
    let count := mark % 128
    let value (i : Nat) : UInt8 := UInt8.ofNat (Bytes.byteAt data (start + bytes * i))
    if data.size < start then .error .overrun
    else if count = 0 ∨ n = 0 then .ok out
    else if width < out.size + count then .error .overrun
    else if 128 ≤ mark then
      if data.size ≤ start + bytes * count then .error .overrun
      else
        expand data bytes width n (start + bytes * count)
          (count.fold (fun i _ out => out.push (value i)) out)
    else if data.size < start + 2 * bytes - 1 then .error .overrun
    else
      expand data bytes width n (start + bytes) (count.fold (fun _ _ out => out.push (value 0)) out)

/-- A row in runs, which has the given number in the tables of so many rows. What is missing of it
is black. -/
def expandRow (data : ByteArray) (bytes width rows n : Nat) : Except ImageFault ByteArray := do
  let start := Bytes.highAt data (headSize + 4 * n) 4
  let length := Bytes.highAt data (headSize + 4 * (rows + n)) 4
  if start < headSize ∨ data.size < start + length then throw .overrun
  let row ← expand data bytes width length start .empty
  pure (row ++ Bytes.zeros (width - row.size))

/-- All rows in runs. -/
def expandAll (data : ByteArray) (bytes width height parts : Nat) :
    Except ImageFault ByteArray := do
  let rows := height * parts
  if data.size < headSize + 8 * rows then throw .overrun
  (List.range rows).foldlM (fun out n => do
    pure (out ++ (← expandRow data bytes width rows n))) .empty

/-- The picture whose values stand at an offset with the given step, all of one part in front of
those of the next. One part makes shades of grey. -/
def assemble (data : ByteArray) (offset step width height parts : Nat) : Picture :=
  .tabulate width height fun x y =>
    let value (part : Nat) : Nat :=
      Bytes.byteAt data (offset + step * ((part * height + (height - 1 - y)) * width + x))
    if parts = 1 then Rgb.grey (value 0) else Rgb.ofNats (value 0) (value 1) (value 2)

/-- The picture in data, if they are a workstation image. -/
def decode (data : ByteArray) : Reading := OptionT.run do
  Attempt.require (Bytes.hasAt data 0 [0x01, 0xda] && 12 ≤ data.size)
  let (packing, bytes) := (Bytes.byteAt data 2, Bytes.byteAt data 3)
  let (width, height) := (Bytes.highAt data 6 2, Bytes.highAt data 8 2)
  let (dimensions, count) := (Bytes.highAt data 4 2, Bytes.highAt data 10 2)
  let some parts := parts? bytes dimensions count | Attempt.fault .unsupportedWorkstation
  Attempt.size width height
  match packing with
  | 0 =>
    if bytes = 2 then
      Attempt.insist (headSize + 2 * width * height * parts ≤ data.size) .tooLittle
    else
      (List.range parts).forM fun part => Attempt.lift
        (({ offset := headSize + part * width * height, width, height } : Rows).check 8 data)
    pure (assemble data headSize bytes width height parts)
  | 1 =>
    let values ← Attempt.lift (expandAll data bytes width height parts)
    pure (assemble values 0 1 width height parts)
  | _ => Attempt.fault .notReadable

end SceneScript.Sgi
