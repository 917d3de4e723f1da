import SceneScript.Storage.Rows

/-!
# Rasters

A head of 32 bytes, a palette if there is one, and the rows, each of whole words of two bytes. The
bytes of the rows may be held in runs, and then a row is no longer than its pixels.
-/

namespace SceneScript.Sun

/-- A palette whose entries are split into their three parts. -/
def splitPalette (entries : ByteArray) : Palette :=
  let count := entries.size / 3
  ⟨count.fold (fun i _ out => (List.range 3).foldl (fun out part =>
    out.push (UInt8.ofNat (Bytes.byteAt entries (part * count + i)))) out) .empty, 3, false⟩

/-- The layout of pixels of so many bits. Only some have a palette. -/
def layout? (bits type : Nat) (palette : Option Palette) : Option Layout :=
  match bits, palette with
  | 1, _ => some .ink
  | 4, some p | 8, some p => some (.palette bits p)
  | 4, none | 8, none => some (.grey bits)
  | 24, _ | 32, _ =>
    some (if type = 3 then .parts (bits / 8) 0 1 2 else .parts (bits / 8) 2 1 0)
  | _, _ => none

/-- The bytes that runs from an offset on stand for, until there are so many. A byte of 128 begins a
run: the count less one, which is zero for the byte itself, and the value. -/
def unpack (data : ByteArray) (count : Nat) :
    Nat → Nat → ByteArray → Except ImageFault ByteArray
  | 0, _, _ => .error (.cutShort 0)
  | fuel + 1, offset, out =>
    if count ≤ out.size then .ok out
    else
      let rest := data.size - offset
      let (mark, n) := (Bytes.byteAt data offset, Bytes.byteAt data (offset + 1))
      if rest = 0 then .error (.cutShort 0)
      else if mark ≠ 128 then unpack data count fuel (offset + 1) (out.push (UInt8.ofNat mark))
      else if rest < 2 then .error (.cutShort rest)
      else if n = 0 then unpack data count fuel (offset + 2) (out.push 128)
      else if rest < 3 then .error (.cutShort rest)
      else
        let value := UInt8.ofNat (Bytes.byteAt data (offset + 2))
        unpack data count fuel (offset + 3) ((n + 1).fold (fun _ _ out => out.push value) out)

/-- The picture in data, if they are a raster. -/
def decode (data : ByteArray) : Reading := OptionT.run do
  Attempt.require (Bytes.hasAt data 0 [0x59, 0xa6, 0x6a, 0x95] && 32 ≤ data.size)
  let field (k : Nat) : Nat := Bytes.highAt data (4 * k) 4
  let (width, height, bits, type) := (field 1, field 2, field 3, field 5)
  let (kind, size) := (field 6, field 7)
  Attempt.require (size == 0 || (size ≤ 1024 && kind == 1))
  let palette := splitPalette (data.extract 32 (32 + size))
  let found ← Attempt.ofOption (layout? bits type (if size = 0 then none else some palette))
  Attempt.require (type ≤ 5)
  Attempt.size width height
  let finish (r : Except ImageFault Picture) : Except ImageFault Picture := do
    if size ≠ 0 ∧ bits ≤ 8 ∧ bits ≠ 1 then palette.check
    let p ← r
    if size ≠ 0 ∧ (bits = 1 ∨ 8 < bits) then throw .unknownMode
    pure p
  if type = 2 then
    let rows : Rows := { offset := 0, width, height }
    Attempt.lift (finish do
      let bytes ← unpack data (rows.size bits * height) (data.size + 1) (32 + size) .empty
      pure (rows.picture found bytes))
  else
    let stride := (width * bits + 15) / 16 * 2
    Attempt.lift (finish (({ offset := 32 + size, width, height, stride } : Rows).read found data))

end SceneScript.Sun
