import SceneScript.Storage.Rows

/-!
# Reading animations

Of an animation in the graphics interchange format the first picture is read (`Gif.decode`). In
front of it stand the size of the whole, a palette and extensions, of which the one that controls
the picture may name the colour around it. Its pixels are held in codes, each of which stands for a
string of pixels (`Gif.pixels`). The codes have ever more bits, and are packed into blocks of bytes.
-/

namespace SceneScript.Gif

/-! ## Codes -/

/-- A place in data that are packed into blocks: the next byte, the bytes that are left of its
block, and the bits that have been read and not been used, with their count. -/
structure Source where
  offset : Nat
  block : Nat := 0
  bits : Nat := 0
  count : Nat := 0

/-- The place at which there are so many bits to use, or the last one in front of a block that is
not whole. -/
def Source.fill (data : ByteArray) (size : Nat) : Nat → Source → Source
  | 0, s => s
  | fuel + 1, s =>
    if size ≤ s.count then s
    else if 0 < s.block then
      let bits := s.bits + Bytes.byteAt data s.offset <<< s.count
      Source.fill data size fuel ⟨s.offset + 1, s.block - 1, bits, s.count + 8⟩
    else
      let block := Bytes.byteAt data s.offset
      if data.size < s.offset + 1 + block then s
      else Source.fill data size fuel { s with offset := s.offset + 1, block := block }

/-- What codes stand for. The first codes stand for their values, two more mean that the dictionary
is cleared and that it ends, and each of the rest stands for the string of another one and a last
value. The code before is remembered with the first value of its string. -/
structure Dictionary where
  size : Nat
  entries : Array (Nat × Nat) := #[]
  last : Option (Nat × Nat) := none

/-- The codes that a dictionary may have. -/
def codeLimit : Nat := 4096

/-- The values of a code, given those behind them, or nothing if there is none. -/
def Dictionary.string? (d : Dictionary) (first : Nat) :
    Nat → Nat → List Nat → Option (List Nat)
  | 0, _, _ => none
  | fuel + 1, code, rest =>
    if code < first then some (code % 256 :: rest)
    else if codeLimit ≤ code then none
    else
      match d.entries[code - (first + 2)]? with
      | some (link, value) => d.string? first fuel link (value :: rest)
      | none => none

/-- The dictionary after a code whose string begins with the given value. Codes get one more bit
when the last one of their size has been taken. -/
def Dictionary.add (d : Dictionary) (first code value : Nat) : Dictionary :=
  match d.last with
  | none => { d with last := some (code, value) }
  | some (before, _) =>
    let next := first + 2 + d.entries.size
    if next < codeLimit then
      let size := if next + 1 = 1 <<< d.size ∧ d.size < 12 then d.size + 1 else d.size
      ⟨size, d.entries.push (before, value), some (code, value)⟩
    else { d with last := some (code, value) }

/-- The string of a code, if it may come next. A new one may only be the next one to be taken, and
stands for the string before and its first value. -/
def Dictionary.next? (d : Dictionary) (first code : Nat) : Option (List Nat) :=
  match d.last with
  | none => if code < first then some [code % 256] else none
  | some (before, value) =>
    if code = first + 2 + d.entries.size then d.string? first (codeLimit + 1) before [value]
    else d.string? first (codeLimit + 1) code []

/-- Reads codes until there are so many pixels. -/
def pixels (data : ByteArray) (bits count : Nat) :
    Nat → Source → Dictionary → ByteArray → Except ImageFault ByteArray
  | 0, s, _, _ => .error (.cutShort (data.size - s.offset))
  | fuel + 1, s, d, out =>
    let first := 1 <<< bits
    if count ≤ out.size then .ok out
    else
      let s := s.fill data d.size (data.size + 1)
      if s.count < d.size then .error (.cutShort (data.size - s.offset))
      else
        let code := s.bits % (1 <<< d.size)
        let s := { s with bits := s.bits >>> d.size, count := s.count - d.size }
        if code = first then pixels data bits count fuel s ⟨bits + 1, #[], none⟩ out
        else if code = first + 1 then .error (.cutShort (data.size - s.offset))
        else
          match d.next? first code with
          | none => .error .broken
          | some string =>
            pixels data bits count fuel s (d.add first code (string.headD 0))
              (string.foldl (fun out n => out.push (UInt8.ofNat n)) out)

/-! ## Pictures -/

/-- The offset after a block, if it is not empty. -/
def afterBlock? (data : ByteArray) (offset : Nat) : Option Nat :=
  let size := Bytes.byteAt data offset
  if size = 0 ∨ data.size ≤ offset + 1 then none else some (min data.size (offset + 1 + size))

/-- The offset after the blocks at an offset and the empty one behind them. -/
def afterBlocks (data : ByteArray) : Nat → Nat → Nat
  | 0, offset => offset
  | fuel + 1, offset =>
    match afterBlock? data offset with
    | some next => afterBlocks data fuel next
    | none => offset + 1

/-- What stands in front of a picture: its offset and the number of the colour around it. -/
structure Start where
  offset : Nat
  around : Nat := 0

/-- The colour that an extension which controls a picture gives, if it is whole. -/
def around? (data : ByteArray) (offset : Nat) : Option (Option Nat) :=
  let size := Bytes.byteAt data offset
  let found := data.extract (offset + 1) (offset + 1 + size)
  if size = 0 then some none
  else if found.size < 3 then none
  else if (Bytes.byteAt found 0).testBit 0 then
    if found.size < 4 then none else some (some (Bytes.byteAt found 3))
  else some none

/-- Finds the first picture, past all extensions. Only those whose first block is empty do not end
there, unless they are comments. -/
def firstPicture? (data : ByteArray) : Nat → Start → Option Start
  | 0, _ => none
  | fuel + 1, s =>
    match data[s.offset]? with
    | none | some 0x3b => none
    | some 0x2c => some { s with offset := s.offset + 1 }
    | some 0x21 =>
      let start := s.offset + 2
      let after := if Bytes.byteAt data (s.offset + 1) = 254 then afterBlocks data data.size start
        else afterBlocks data data.size ((afterBlock? data start).getD (start + 1))
      if Bytes.byteAt data (s.offset + 1) = 249 then
        match around? data start with
        | none => none
        | some found => firstPicture? data fuel ⟨after, found.getD s.around⟩
      else firstPicture? data fuel { s with offset := after }
    | some _ => firstPicture? data fuel { s with offset := s.offset + 1 }

/-- The order in which rows are held that are not held from top to bottom. -/
def interlaced (height : Nat) : List Nat :=
  [(0, 8), (4, 8), (2, 4), (1, 2)].flatMap fun (start, step) =>
    (List.range height).filter fun y => start ≤ y ∧ (y - start) % step = 0

/-- The palette at an offset and the offset after it, if flags say that there is one. A palette of
shades of grey in their order counts for none. -/
def paletteAt (data : ByteArray) (flags offset : Nat) : Palette × Nat :=
  if !flags.testBit 7 then (⟨.empty, 3, false⟩, offset)
  else
    let stop := offset + 6 <<< (flags % 8)
    let entries := data.extract offset stop
    let plain := (List.range entries.size).all fun i => Bytes.byteAt entries i = i / 3
    (⟨if plain then .empty else entries, 3, false⟩, stop)

/-- The first picture of an animation, if the data are one. -/
def decode (data : ByteArray) : Reading := OptionT.run do
  Attempt.require ((Bytes.begins data "GIF87a" || Bytes.begins data "GIF89a") && 13 ≤ data.size)
  let (whole, offset) := paletteAt data (Bytes.byteAt data 10) 13
  let ⟨at0, around⟩ ← Attempt.ofOption (firstPicture? data data.size ⟨offset, 0⟩)
  Attempt.require (at0 + 8 ≤ data.size)
  let field (k : Nat) : Nat := Bytes.lowAt data (at0 + 2 * k) 2
  let (right, below) := (field 0 + field 2, field 1 + field 3)
  let (width, height) := (max (Bytes.lowAt data 6 2) right, max (Bytes.lowAt data 8 2) below)
  if Bytes.lowAt data 6 2 < right ∨ Bytes.lowAt data 8 2 < below then
    Attempt.lift (checkPixels width height)
  let flags := Bytes.byteAt data (at0 + 8)
  let (own, start) := paletteAt data flags (at0 + 9)
  let palette := if own.entries.isEmpty then whole else own
  Attempt.require (start < data.size)
  Attempt.size width height
  let ⟨x0, y0, across, down⟩ ← Attempt.lift
    ((⟨field 0, field 1, field 2, field 3⟩ : Part).within width height)
  let bits := Bytes.byteAt data start
  let start := start + 1
  Attempt.insist (start < data.size) (.cutShort 0)
  Attempt.insist (bits ≤ 12) .misconfigured
  let found ← Attempt.lift (pixels data bits (across * down) (8 * data.size + 1)
    ⟨start, 0, 0, 0⟩ ⟨bits + 1, #[], none⟩ .empty)
  let order := if flags.testBit 6 then (interlaced down).toArray else Array.range down
  let places := (Array.range down).map fun y => (order.idxOf? y).getD y
  pure (Picture.tabulate width height fun x y =>
    if x0 ≤ x ∧ x < x0 + across ∧ y0 ≤ y ∧ y < y0 + down then
      palette.colour (Bytes.byteAt found ((places[y - y0]?).getD 0 * across + (x - x0)))
    else palette.colour around)

end SceneScript.Gif
