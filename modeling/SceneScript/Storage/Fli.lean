import SceneScript.Storage.Rows

/-!
# Films of few colours

A head of 128 bytes, and frames of chunks. A chunk holds the palette, or all pixels, or those that
change. Only the first frame is read, in front of which all is black.
-/

namespace SceneScript.Fli

/-- The entries of a palette chunk from an offset on: how many to pass over, how many follow, and
their parts, which may have six bits. -/
def paletteAt? (data : ByteArray) (scale : Nat) :
    Nat → Nat → Nat → Array Rgb → Option (Array Rgb)
  | 0, _, _, colours => some colours
  | packets + 1, offset, i, colours =>
    if data.size < offset + 2 then none
    else
      let i := i + Bytes.byteAt data offset
      let given := Bytes.byteAt data (offset + 1)
      let count := if given = 0 then 256 else given
      let start := offset + 2
      let part (k : Nat) : Nat := scale * Bytes.byteAt data (start + k)
      if data.size < start + 3 * count ∨ 256 < i + count then none
      else
        paletteAt? data scale packets (start + 3 * count) (i + count)
          (count.fold (fun k _ colours =>
            colours.setIfInBounds (i + k) (Rgb.ofNats (part (3 * k)) (part (3 * k + 1))
              (part (3 * k + 2)))) colours)

/-- The shades of grey. -/
def greys : Array Rgb := (Array.range 256).map Rgb.grey

/-- The palette among so many chunks from an offset on, if it can be read. -/
def findPalette? (data : ByteArray) : Nat → Nat → Option (Array Rgb)
  | 0, _ => some greys
  | chunks + 1, offset =>
    if data.size < offset + 6 then none
    else
      let type := Bytes.lowAt data (offset + 4) 2
      let size := Bytes.lowAt data offset 4
      if type = 4 ∨ type = 11 then
        if data.size < offset + 8 then none
        else
          paletteAt? data (if type = 11 then 4 else 1) (Bytes.lowAt data (offset + 6) 2)
            (offset + 8) 0 greys
      else if size = 0 then some greys
      else findPalette? data chunks (offset + size)

/-- The pixels of one row in runs, given those so far: a count and a value, or how many values
follow. It must end where the row does. -/
def brun (data : ByteArray) (width : Nat) :
    Nat → Nat → ByteArray → Option (ByteArray × Nat)
  | 0, offset, out => if out.size = width then some (out, offset) else none
  | fuel + 1, offset, out =>
    if out.size = width then some (out, offset)
    else
      let n := Bytes.byteAt data offset
      if data.size < offset + 2 then none
      else if 128 ≤ n then
        let size := 256 - n
        if width < out.size + size ∨ data.size < offset + 1 + size then none
        else
          brun data width fuel (offset + 1 + size)
            (out ++ data.extract (offset + 1) (offset + 1 + size))
      else if width < out.size + n then none
      else
        let value := UInt8.ofNat (Bytes.byteAt data (offset + 1))
        brun data width fuel (offset + 2) (n.fold (fun _ _ out => out.push value) out)

/-- All rows in runs. The first byte of a row counts for nothing. -/
def brunRows (data : ByteArray) (width : Nat) : Nat → Nat → ByteArray → Option ByteArray
  | 0, _, out => some out
  | rows + 1, offset, out =>
    match brun data width data.size (offset + 1) .empty with
    | none => none
    | some (row, offset) => brunRows data width rows offset (out ++ row)

/-- The pixels after the changes of so many packets of a row: how many columns to pass over, and a
count and values, or one that stands for so many. -/
def changes (data : ByteArray) (row width : Nat) :
    Nat → Nat → Nat → ByteArray → Option (ByteArray × Nat)
  | 0, offset, _, out => some (out, offset)
  | packets + 1, offset, x, out =>
    if data.size < offset + 2 then none
    else
      let x := x + Bytes.byteAt data offset
      let n := Bytes.byteAt data (offset + 1)
      let start := offset + 2
      let repeats := 128 ≤ n
      let count := if repeats then 256 - n else n
      let size := if repeats then 1 else count
      if width < x + count ∨ data.size < start + size then none
      else
        let value (k : Nat) : UInt8 :=
          UInt8.ofNat (Bytes.byteAt data (start + if repeats then 0 else k))
        changes data row width packets (start + size) (x + count)
          (count.fold (fun k _ out => out.set! (row + x + k) (value k)) out)

/-- The pixels after the changes of rows, so many from one on. -/
def changedRows (data : ByteArray) (width height : Nat) :
    Nat → Nat → Nat → ByteArray → Option ByteArray
  | 0, _, _, out => some out
  | rows + 1, y, offset, out =>
    if height ≤ y then none
    else
      match changes data (y * width) width (Bytes.byteAt data offset) (offset + 1) 0 out with
      | none => none
      | some (out, offset) => changedRows data width height rows (y + 1) offset out

/-- The pixels after a chunk at an offset. -/
def chunk (data : ByteArray) (width height offset : Nat) (out : ByteArray) :
    Except ImageFault ByteArray :=
  let start := offset + 6
  match Bytes.lowAt data (offset + 4) 2 with
  | 4 | 7 | 11 | 18 => .ok out
  | 12 =>
    let found := changedRows data width height (Bytes.lowAt data (start + 2) 2)
      (Bytes.lowAt data start 2) (start + 4) out
    found.elim (.error .overrun) .ok
  | 13 => .ok (Bytes.zeros (width * height))
  | 15 => (brunRows data width height start .empty).elim (.error .overrun) .ok
  | 16 =>
    if data.size < start + width * height then .error .overrun
    else .ok (data.extract start (start + width * height))
  | _ => .error .unrecognised

/-- The pixels after so many chunks from an offset on. -/
def chunks (data : ByteArray) (width height : Nat) :
    Nat → Nat → ByteArray → Except ImageFault ByteArray
  | 0, _, out => .ok out
  | count + 1, offset, out => do
    if data.size < offset + 10 then throw .overrun
    let out ← chunk data width height offset out
    let size := Bytes.lowAt data offset 4
    if size = 0 then throw .broken
    if data.size < offset + size then throw .overrun
    chunks data width height count (offset + size) out

/-- The pixels of the frame at an offset. -/
def frame (data : ByteArray) (offset width height : Nat) : Except ImageFault ByteArray :=
  let rest := data.size - offset
  if rest < 4 ∨ rest + rest % 2 < Bytes.lowAt data offset 4 then .error (.cutShort rest)
  else if rest < 8 then .error .overrun
  else if Bytes.lowAt data (offset + 4) 2 ≠ 0xf1fa then .error .unrecognised
  else
    chunks data width height (Bytes.lowAt data (offset + 6) 2) (offset + 16)
      (Bytes.zeros (width * height))

/-- The picture in data, if they are a film. -/
def decode (data : ByteArray) : Reading := OptionT.run do
  let word (k : Nat) : Nat := Bytes.lowAt data k 2
  let zero (start stop : Nat) : Bool := (data.extract start stop).toList.all (· == 0)
  Attempt.require (128 ≤ data.size && (word 4 == 0xaf11 || word 4 == 0xaf12))
  Attempt.require ((word 14 == 0 || word 14 == 3) && word 20 == 0 && zero 42 80 && zero 88 128)
  let (width, height) := (word 8, word 10)
  let start := if word 132 = 0xf100 then 128 + Bytes.lowAt data 128 4 else 128
  Attempt.require (start + 6 ≤ data.size && word 6 != 0)
  let colours ← if word (start + 4) = 0xf1fa then
      Attempt.ofOption (findPalette? data (word (start + 6)) (start + 16))
    else pure greys
  Attempt.size width height
  let found ← Attempt.lift (frame data 128 width height)
  pure (.tabulate width height fun x y =>
    colours.getD (Bytes.byteAt found (y * width + x)) .black)

end SceneScript.Fli
