import SceneScript.Storage.Rows

/-!
# Paintings

A head of 32 bytes whose words cancel out, and black and white pixels: rows as they are, or a table
of the lengths of the rows and then their runs.
-/

namespace SceneScript.Msp

/-- The exclusive sum of the words of the head. -/
def checkSum (data : ByteArray) : Nat :=
  (List.range 16).foldl (fun n i => n ^^^ Bytes.lowAt data (2 * i) 2) 0

/-- The bytes that the runs of a row stand for. A run is a zero, a count and a value, or a count and
so many values. -/
def expand (row : ByteArray) : Nat → Nat → ByteArray → Option ByteArray
  | 0, _, out => some out
  | fuel + 1, i, out =>
    match row[i]? with
    | none => some out
    | some 0 =>
      if row.size < i + 3 then none
      else
        let value := UInt8.ofNat (Bytes.byteAt row (i + 2))
        expand row fuel (i + 3)
          ((Bytes.byteAt row (i + 1)).fold (fun _ _ out => out.push value) out)
    | some n => expand row fuel (i + 1 + n.toNat) (out ++ row.extract (i + 1) (i + 1 + n.toNat))

/-- The bytes of all rows, given their lengths. A row without a length is white. -/
def expandAll (data : ByteArray) (size : Nat) :
    List Nat → Nat → Nat → ByteArray → Except ImageFault ByteArray
  | [], _, _, out => .ok out
  | length :: rest, y, offset, out =>
    let row := data.extract offset (offset + length)
    if length = 0 then
      expandAll data size rest (y + 1) offset (size.fold (fun _ _ out => out.push 255) out)
    else if row.size ≠ length then .error (.paintingRowCut length y)
    else
      match expand row (length + 1) 0 out with
      | none => .error (.paintingRowBroken y)
      | some out => expandAll data size rest (y + 1) (offset + length) out

/-- The picture in data, if they are a painting. -/
def decode (data : ByteArray) : Reading := OptionT.run do
  let plain := Bytes.begins data "DanM"
  Attempt.require ((plain || Bytes.begins data "LinS") && 32 ≤ data.size && checkSum data == 0)
  let (width, height) := (Bytes.lowAt data 4 2, Bytes.lowAt data 6 2)
  Attempt.size width height
  if plain then Attempt.lift (({ offset := 32, width, height } : Rows).read .bit data)
  else
    Attempt.insist (32 + 2 * height ≤ data.size) .paintingTableCut
    let lengths := (List.range height).map fun y => Bytes.lowAt data (32 + 2 * y) 2
    let rows : Rows := { offset := 0, width, height }
    let bytes ← Attempt.lift (expandAll data (rows.size 1) lengths 0 (32 + 2 * height) .empty)
    Attempt.lift (rows.unpacked .bit bytes)

end SceneScript.Msp
