import SceneScript.Storage.Png.Chunks
import SceneScript.Storage.Png.Filter

/-!
# Reading graphics

The chunks in front of the rows are read first (`Png.openChunks`), then those with rows are inflated
piece by piece until all rows are there (`Png.collect`), and then the chunks behind are looked at
(`Png.finish`). Rows lose their filters (`Png.unfilter`), in one pass or in the seven of an
interlaced graphic.
-/

namespace SceneScript.Png

/-! ## The chunks in front -/

/-- Reads the chunks in front of the rows, and answers with the place of the rows, if there are any.
Every chunk must be sound, and its check sum right. -/
def openChunks (data : ByteArray) :
    Nat → Nat → Parts → Attempt (Parts × Option (Nat × Nat))
  | 0, _, _ => Attempt.foreign
  | fuel + 1, offset, p =>
    let step : Except ImageFault (Parts × Outcome × Chunk) := do
      let c ← chunkAt data offset
      let (p, outcome) ← p.add data c
      pure (p, outcome, c)
    match step with
    | .error why =>
      if why = .ended ∨ [.illFormed, .index].contains (Fault.Kind.ofImage why) then Attempt.foreign
      else Attempt.fault why
    | .ok (p, .last, _) => pure (p, none)
    | .ok (p, .rows start size, _) => pure (p, some (start, size))
    | .ok (p, .read stop, c) => do
      let body := c.name ++ data.extract (stop - c.size) stop
      Attempt.require
        (stop + 4 ≤ data.size && (Crc32.ofBytes body).toNat == Bytes.highAt data stop 4)
      openChunks data fuel (stop + 4) p

/-! ## The chunks with rows -/

/-- A place within the chunks with rows: its offset, the bytes that are left of its chunk, and what
the chunks in front say. -/
structure Feed where
  offset : Nat
  left : Nat
  parts : Parts

/-- The bytes of a chunk that are read at once. -/
def pieceSize : Nat := 65536

/-- The next piece of the rows, and the place behind it. Another chunk than one with rows ends them.
-/
def Feed.next (data : ByteArray) : Nat → Feed → Except ImageFault (ByteArray × Feed)
  | 0, _ => .error .ended
  | fuel + 1, f => do
    if f.left = 0 then
      let c ← chunkAt data (f.offset + 4)
      if Bytes.begins c.name "IDAT" || Bytes.begins c.name "DDAT" then
        Feed.next data fuel { f with offset := c.start, left := c.size }
      else if Bytes.begins c.name "fdAT" then
        let (p, _) ← f.parts.add data c
        Feed.next data fuel ⟨c.start + 4, c.size - 4, p⟩
      else throw (.cutShort 0)
    else
      let size := min pieceSize f.left
      let piece := data.extract f.offset (f.offset + size)
      if piece.isEmpty then throw (.cutShort 0)
      pure (piece, { f with offset := f.offset + piece.size, left := f.left - size })

/-! ## Passes -/

/-- What the pixels of a graphic are, the part that they fill, and whether they are interlaced. -/
structure Frame where
  pixel : Pixel
  bits : Nat
  part : Part
  interlaced : Bool

/-- A pass: its first column and row, and the steps between columns and between rows. -/
structure Pass where
  left : Nat
  top : Nat
  across : Nat
  down : Nat

/-- The passes of an interlaced graphic. -/
def passes : List Pass :=
  [⟨0, 0, 8, 8⟩, ⟨4, 0, 8, 8⟩, ⟨0, 4, 4, 8⟩, ⟨2, 0, 4, 4⟩, ⟨0, 2, 2, 4⟩, ⟨1, 0, 2, 2⟩, ⟨0, 1, 1, 2⟩]

namespace Frame

/-- The columns and the rows of a pass. -/
def passSize (f : Frame) (p : Pass) : Nat × Nat :=
  ((f.part.width + p.across - 1 - p.left) / p.across,
    (f.part.height + p.down - 1 - p.top) / p.down)

/-- The passes that have pixels. -/
def passes (f : Frame) : List Pass :=
  let all := if f.interlaced then Png.passes else [⟨0, 0, 1, 1⟩]
  all.filter fun p => 0 < (f.passSize p).1 ∧ 0 < (f.passSize p).2

/-- The bits of a pixel. -/
def pixelBits (f : Frame) : Nat := f.pixel.values * f.bits

/-- The bytes of a row of a pass, without the number of its filter. -/
def rowSize (f : Frame) (p : Pass) : Nat := ((f.passSize p).1 * f.pixelBits + 7) / 8

/-- The ends of all rows in the stream. -/
def rowEnds (f : Frame) : Array (Nat × Nat) :=
  f.passes.foldl (fun ends p =>
    (f.passSize p).2.fold (fun _ _ (ends : Array (Nat × Nat)) =>
      let start := (ends.back?.map (·.2)).getD 0
      ends.push (start, start + 1 + f.rowSize p)) ends) #[]

/-- How the pixels stand in a row. Of sixteen bits the highest eight count, but for greys, which are
white above a byte. -/
def layout (f : Frame) (palette : Palette) : Layout :=
  match f.pixel, f.bits with
  | .palette, bits => .palette bits palette
  | .grey, 16 => .wide 2 fun byte => Rgb.clippedGrey (256 * byte 0 + byte 1)
  | .grey, bits => .grey bits
  | .greyAlpha, bits => .wide (bits / 4) fun byte => Rgb.grey (byte 0)
  | .colour, 16 => .parts 6 0 2 4
  | .colour, _ => .parts 3 0 1 2
  | .colourAlpha, 16 => .parts 8 0 2 4
  | .colourAlpha, _ => .parts 4 0 1 2

end Frame

/-! ## Collecting rows -/

/-- Whether the rows are settled with the data that a stream has given, of which so many were there
before, and how. A row is looked at when it is whole, and a stream that contradicts itself is found
out right behind the byte in front. The rows may end with the stream, if it ends with a row. -/
def settled? (ends : Array (Nat × Nat)) (before : Nat) (found : Deflate.Partial ByteArray) :
    Option (Option ImageFault) :=
  let out := found.output
  let (size, stopped, ended) := match found with
    | .ok _ => (out.size, false, true)
    | .error (.ended, _) => (out.size, false, false)
    | .error (.broken, _) => (out.size - 1, true, false)
  let unknown := ends.any fun (start, stop) =>
    before < stop && stop ≤ size && 4 < Bytes.byteAt out start
  if unknown then some (some .unrecognised)
  else if (ends.back?.map (·.2)).getD 0 ≤ size then some none
  else if stopped then some (some .broken)
  else if ended && before < size && ends.any fun (_, stop) => stop == size then some none
  else none

/-- Inflates the rows piece by piece until they are settled, and answers with the data, the fault
that was found in them, and the place behind. -/
def collect (data : ByteArray) (ends : Array (Nat × Nat)) :
    Nat → Nat → ByteArray → Feed → Except ImageFault (ByteArray × Option ImageFault × Feed)
  | 0, _, _, _ => .error .ended
  | fuel + 1, before, stream, f => do
    let (piece, f) ← f.next data (data.size + 1)
    let stream := stream ++ piece
    let found := Deflate.inflate stream
    match settled? ends before found with
    | some fault => pure (found.output, fault, f)
    | none => collect data ends fuel found.output.size stream f

/-! ## The chunks behind -/

/-- Looks at the chunks behind the rows, up to the last one, to the next frame of an animated
graphic, or to something that is no chunk. More rows are not passed over, but looked into. -/
def finish (data : ByteArray) (animated : Bool) : Nat → Nat → Parts → Except ImageFault Unit
  | 0, _, _ => .ok ()
  | fuel + 1, offset, p =>
    match chunkAt data (offset + 4) with
    | .error _ => .ok ()
    | .ok c =>
      if animated && Bytes.begins c.name "fcTL" then .ok ()
      else do
        let (p, outcome) ← p.add data c
        match outcome with
        | .last => pure ()
        | .read stop => finish data animated fuel stop p
        | .rows start size =>
          if Bytes.begins c.name "IDAT" then finish data animated fuel c.start p
          else if data.size < start + size then throw .readTooLittle
          else finish data animated fuel (start + size) p

/-! ## Rows -/

/-- The rows of a pass, from an offset on, as far as they are there, and the offset after them. -/
def rowsAt (data : ByteArray) (step size : Nat) : Nat → Nat → ByteArray → List ByteArray × Nat
  | 0, offset, _ => ([], offset)
  | count + 1, offset, above =>
    if data.size < offset + 1 + size then ([], offset)
    else
      let row := unfilter (Bytes.byteAt data offset) step above
        (data.extract (offset + 1) (offset + 1 + size))
      let (more, offset) := rowsAt data step size count (offset + 1 + size) row
      (row :: more, offset)

/-- The pixels of a picture with those of the rows of a pass. -/
def addPass (width : Nat) (f : Frame) (l : Layout) (p : Pass) (found : List ByteArray)
    (out : ByteArray) : ByteArray :=
  found.zipIdx.foldl (fun out (row, r) =>
    (f.passSize p).1.fold (fun c _ out =>
      let k := l.colour row 0 c
      let y := f.part.top + p.top + r * p.down
      let i := 3 * (y * width + f.part.left + p.left + c * p.across)
      ((out.set! i k.red).set! (i + 1) k.green).set! (i + 2) k.blue) out) out

/-- The picture of the given size that has the rows of a frame. What they do not fill is black. -/
def Frame.picture (f : Frame) (width height : Nat) (l : Layout) (data : ByteArray) : Picture :=
  let step := max 1 (f.pixelBits / 8)
  let (bytes, _) := f.passes.foldl (fun ((bytes, offset) : ByteArray × Nat) p =>
    let (found, offset) := rowsAt data step (f.rowSize p) (f.passSize p).2 offset .empty
    (addPass width f l p found bytes, offset)) (Bytes.zeros (3 * width * height), 0)
  ⟨width, height, bytes⟩

/-! ## Graphics -/

/-- Reads the rows of a graphic at a place, of pixels of the given kind. -/
def readRows (data : ByteArray) (p : Parts) (pixel : Pixel) (bits start size : Nat) :
    Except ImageFault Picture := do
  let palette : Palette := ⟨p.palette.getD .empty, 3, false⟩
  palette.check
  let whole : Part := ⟨0, 0, p.width, p.height⟩
  let part ← (p.frame.getD whole).within p.width p.height
  let frame : Frame := ⟨pixel, bits, part, p.interlaced⟩
  let animated := match p.frames with
    | some count => 1 < count ∨ p.frame.isNone
    | none => False
  let (stream, fault, f) ← collect data frame.rowEnds (data.size + 1) 0 .empty ⟨start, size, p⟩
  finish data animated data.size (min data.size (f.offset + f.left)) f.parts
  match fault with
  | some why => throw why
  | none => pure (frame.picture p.width p.height (frame.layout palette) stream)

/-- The picture of a graphic that begins at an offset, if there is one. -/
def decodeAt (data : ByteArray) (offset : Nat) : Attempt Picture := do
  Attempt.require (Bytes.hasAt data offset signature)
  let (p, place) ← openChunks data data.size (offset + 8) {}
  let (pixel, bits) ← Attempt.ofOption p.pixel
  Attempt.size p.width p.height
  match place with
  | none => Attempt.fault .notReadable
  | some (start, size) => Attempt.lift (readRows data p pixel bits start size)

/-- The picture of a graphic, if the data are one. -/
def decode (data : ByteArray) : Reading := (decodeAt data 0).run

end SceneScript.Png
