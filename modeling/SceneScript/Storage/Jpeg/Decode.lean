import SceneScript.Storage.Jpeg.Encode
import SceneScript.Storage.Jpeg.Scan

/-!
# Reading photographs

The segments in front of the first scan are looked at twice: `Jpeg.describe` finds out whether there
is a photograph and how large it is, and `Jpeg.segments` reads the tables and how the planes are
held. Then follow the scans. A photograph with all planes in one scan ends with it, any other where
its end is marked.
-/

namespace SceneScript.Jpeg

/-! ## What a photograph is -/

/-- The size of the photograph that a segment describes, and the number of its planes. -/
def sizeIn (body : ByteArray) : Attempt (Nat × Nat × Nat) := do
  let count := Bytes.byteAt body 5
  Attempt.require (6 ≤ body.size && (body.size - 6) % 3 == 0)
  Attempt.require (Bytes.byteAt body 0 == 8 && [1, 3, 4].contains count)
  pure (Bytes.highAt body 3 2, Bytes.highAt body 1 2, count)

/-- Whether the tables of steps in a segment are whole. -/
def areWhole (body : ByteArray) : Nat → Nat → Bool
  | 0, _ => false
  | fuel + 1, offset =>
    let next := offset + if Bytes.byteAt body offset < 16 then 65 else 129
    body.size ≤ offset || next ≤ body.size && areWhole body fuel next

/-- The marks of segments that describe a photograph. -/
def describing : List Nat :=
  [0xc0, 0xc1, 0xc2, 0xc3, 0xc5, 0xc6, 0xc7, 0xc9, 0xca, 0xcb, 0xcd, 0xce, 0xcf, 0xde]

/-- Whether a mark stands alone. -/
def isAlone (mark : Nat) : Bool :=
  mark == 0xc8 || (0xd0 ≤ mark && mark ≤ 0xd9) || (0xf0 ≤ mark && mark ≤ 0xfd)

/-- Whether the segment with a mark, which holds what a program wants, is sound. -/
def isSound (mark : Nat) (body : ByteArray) : Bool :=
  let named (name : String) : Bool := Bytes.begins body name
  !((mark == 0xe0 && named "JFIF" || mark == 0xee && named "Adobe") && body.size < 7)

/-- Looks at the segments from an offset on up to the first scan, given the size that has been
found, and answers with the last one. Every segment must be whole. -/
def describe (data : ByteArray) :
    Nat → Nat → Option (Nat × Nat × Nat) → Attempt (Nat × Nat × Nat)
  | 0, _, _ => Attempt.foreign
  | fuel + 1, offset, found => do
    Attempt.require (offset < data.size)
    if Bytes.byteAt data offset ≠ 255 then describe data fuel (offset + 1) found
    else
      Attempt.require (offset + 1 < data.size)
      let mark := Bytes.byteAt data (offset + 1)
      if mark = 255 then describe data fuel (offset + 1) found
      else if mark = 0 ∨ isAlone mark then describe data fuel (offset + 2) found
      else
        Attempt.require (0xc0 ≤ mark && offset + 4 ≤ data.size)
        let next := offset + 4 + (Bytes.highAt data (offset + 2) 2 - 2)
        Attempt.insist (next ≤ data.size) .readTooLittle
        let body := data.extract (offset + 4) next
        Attempt.require (isSound mark body)
        if mark = 0xda then Attempt.ofOption found
        else if describing.contains mark then
          let size ← sizeIn body
          describe data fuel next (some size)
        else
          Attempt.require (mark != 0xdb || areWhole body (body.size + 1) 0)
          describe data fuel next found

/-! ## Segments -/

/-- The tables that the segments have given so far, and the photograph that they describe. -/
structure Tables where
  steps : Array (Option (Array Nat)) := .replicate 4 none
  first : Array (Option CodeSet) := .replicate 4 none
  other : Array (Option CodeSet) := .replicate 4 none
  /-- The units of a part of a scan, or zero if scans have no parts. -/
  interval : Nat := 0
  /-- Whether the segment is there that says that there are a brightness and differences. -/
  isPlain : Bool := false
  /-- What the planes are, by the segment that says it. -/
  kind : Option Nat := none
  frame : Option Frame := none

/-- The head of a scan: the places of its planes and the numbers of their codes, the first and the
last coefficient, and the bits before and after. -/
structure ScanHead where
  parts : List (Nat × Nat × Nat)
  first : Nat
  last : Nat
  high : Nat
  low : Nat

namespace Tables

/-- Takes a photograph from its segment. -/
def addFrame (t : Tables) (progressive : Bool) (body : ByteArray) : Except ImageFault Tables := do
  let byte (k : Nat) : Nat := Bytes.byteAt body k
  let count := byte 5
  let components := (Array.range count).map fun i =>
    let sides := byte (7 + 3 * i)
    ({ name := byte (6 + 3 * i)
       across := sides / 16
       down := sides % 16
       table := byte (8 + 3 * i) } : Component)
  if t.frame.isSome ∨ body.size ≠ 6 + 3 * count then throw .broken
  let (width, height) := (Bytes.highAt body 3 2, Bytes.highAt body 1 2)
  if width = 0 ∨ height = 0 ∨ count = 0 then throw .broken
  pure { t with frame := some { progressive, width, height, components } }

/-- Takes tables of steps. -/
def addSteps (body : ByteArray) : Nat → Nat → Tables → Except ImageFault Tables
  | 0, _, t => .ok t
  | fuel + 1, offset, t =>
    if offset = body.size then .ok t
    else
      let head := Bytes.byteAt body offset
      let wide := if head < 16 then 1 else 2
      let next := offset + 1 + 64 * wide
      if 4 ≤ head % 16 ∨ body.size < next then .error .broken
      else
        let steps := (List.range 64).foldl (fun (out : Array Nat) k =>
          out.setIfInBounds (zigzag.getD k 0) (Bytes.highAt body (offset + 1 + wide * k) wide))
          (.replicate 64 0)
        addSteps body fuel next { t with steps := t.steps.setIfInBounds (head % 16) (some steps) }

/-- Takes sets of codes. -/
def addCodes (body : ByteArray) : Nat → Nat → Tables → Except ImageFault Tables
  | 0, _, t => .ok t
  | fuel + 1, offset, t =>
    if offset = body.size then .ok t
    else
      let head := Bytes.byteAt body offset
      let counts := (List.range 16).map fun k => Bytes.byteAt body (offset + 1 + k)
      let count := counts.foldl (· + ·) 0
      let next := offset + 17 + count
      if 4 ≤ head % 16 ∨ 32 ≤ head ∨ 256 < count ∨ body.size < next then .error .broken
      else
        let set : CodeSet :=
          ⟨counts, (List.range count).map fun k => Bytes.byteAt body (offset + 17 + k)⟩
        addCodes body fuel next
          (if head < 16 then { t with first := t.first.setIfInBounds head (some set) }
          else { t with other := t.other.setIfInBounds (head - 16) (some set) })

/-- Takes the segment with a mark. -/
def add (t : Tables) (mark : Nat) (body : ByteArray) : Except ImageFault Tables :=
  match mark with
  | 0xc0 | 0xc1 => t.addFrame false body
  | 0xc2 => t.addFrame true body
  | 0xc4 => addCodes body (body.size + 1) 0 t
  | 0xdb => addSteps body (body.size + 1) 0 t
  | 0xdd =>
    if body.size = 2 then .ok { t with interval := Bytes.highAt body 0 2 } else .error .broken
  | 0xe0 =>
    let isPlain := 14 ≤ body.size && Bytes.hasAt body 0 ("JFIF".toUTF8.toList ++ [0])
    .ok { t with isPlain := t.isPlain || isPlain }
  | 0xee =>
    if 12 ≤ body.size && Bytes.begins body "Adobe" then
      .ok { t with kind := some (Bytes.byteAt body 11) }
    else .ok t
  | _ =>
    if mark = 0xdc ∨ mark = 0xfe ∨ (0xe0 ≤ mark ∧ mark ≤ 0xef) then .ok t else .error .broken

/-- The head of a scan. Each plane may be in it once. -/
def scanHead (t : Tables) (body : ByteArray) : Except ImageFault ScanHead := do
  let byte (k : Nat) : Nat := Bytes.byteAt body k
  let count := byte 0
  let some f := t.frame | throw .broken
  if count = 0 ∨ 4 < count ∨ body.size ≠ 4 + 2 * count then throw .broken
  let parts ← (List.range count).mapM fun i => do
    let some index := f.components.findIdx? fun c => c.name = byte (1 + 2 * i)
      | throw ImageFault.broken
    pure (index, byte (2 + 2 * i) / 16, byte (2 + 2 * i) % 16)
  if !(parts.map (·.1)).Nodup then throw .broken
  let bits := byte (3 + 2 * count)
  pure ⟨parts, byte (1 + 2 * count), byte (2 + 2 * count), bits / 16, bits % 16⟩

end Tables

/-- Reads segments from an offset on up to the next scan, or to the end. The mark of the first one
may be known already. Answers with the tables, the head of the scan, and the offset behind. -/
def segments (data : ByteArray) :
    Nat → Option UInt8 → Nat → Tables → Except ImageFault (Tables × Option ScanHead × Nat)
  | 0, _, _, _ => .error .broken
  | fuel + 1, known, offset, t => do
    let cut {α : Type} (offset : Nat) : Except ImageFault α :=
      .error (.cutShort (data.size - offset))
    let (mark, offset) ← match known with
      | some mark => pure (mark.toNat, offset)
      | none =>
        match Progress.markFrom data (data.size + 1) offset with
        | .ok (mark, offset) => pure (mark.toNat, offset)
        | .error offset => cut offset
    if mark = 0xd9 then pure (t, none, offset)
    else if mark = 1 ∨ (0xd0 ≤ mark ∧ mark ≤ 0xd7) then segments data fuel none offset t
    else
      let length := Bytes.highAt data offset 2
      let next := offset + 2 + (length - 2)
      let isPassed := mark = 0xdc ∨ mark = 0xfe ∨ (0xe0 ≤ mark ∧ mark ≤ 0xef)
      if data.size < offset + 2 then cut offset
      else if data.size < next then cut (if isPassed then data.size else offset)
      else if length < 2 ∧ !isPassed then throw .broken
      else
        let body := data.extract (offset + 2) next
        if mark = 0xda then
          let head ← t.scanHead body
          pure (t, some head, next)
        else
          let t ← t.add mark body
          segments data fuel none next t

/-! ## Scans -/

/-- The codes with a number, or those that photographs are written with if there are none. -/
def codesOf (sets : Array (Option CodeSet)) (usual : List CodeSet) (n : Nat) :
    Except ImageFault Codes :=
  match ((sets[n]?).join <|> usual[n]?).bind CodeSet.codes? with
  | some codes => .ok codes
  | none => .error .broken

/-- The codes of first coefficients, which are no longer than 15 bits. -/
def firstCodesOf (sets : Array (Option CodeSet)) (usual : List CodeSet) (n : Nat) :
    Except ImageFault Codes := do
  let codes ← codesOf sets usual n
  if codes.symbols.any (15 < ·) then throw .broken
  pure codes

/-- A scan with the codes of its planes, if its coefficients make sense. -/
def ScanHead.scan (h : ScanHead) (t : Tables) (f : Frame) : Except ImageFault Scan := do
  let components ← h.parts.mapM fun (index, first, other) =>
    match f.components[index]? with
    | some c => .ok (index, c, first, other)
    | none => .error ImageFault.broken
  let blocks := (components.map fun (_, c, _, _) => c.across * c.down).foldl (· + ·) 0
  if components.length ≠ 1 ∧ 10 < blocks then throw .broken
  if f.progressive then
    let isSound := (if h.first = 0 then h.last = 0
      else h.first ≤ h.last ∧ h.last < 64 ∧ components.length = 1) ∧
      (h.high = 0 ∨ h.low + 1 = h.high) ∧ h.low ≤ 13
    if !isSound then throw .broken
  let parts ← components.mapM fun (index, c, first, other) => do
    let hasFirst := !f.progressive || h.first = 0 && h.high = 0
    let hasOther := !f.progressive || h.first ≠ 0
    let (usualFirst, usualOther) := if f.progressive then ([], [])
      else ([brightnessFirst, differenceFirst], [brightnessOther, differenceOther])
    let first ← if hasFirst then firstCodesOf t.first usualFirst first else pure default
    let other ← if hasOther then codesOf t.other usualOther other else pure default
    pure (index, c, first, other)
  pure ⟨parts, h.first, h.last, h.high, h.low⟩

/-- The steps of planes, of which those that are in a scan and have none yet take theirs. -/
def latched (f : Frame) (t : Tables) (h : ScanHead) (steps : Array (Option (Array Nat))) :
    Except ImageFault (Array (Option (Array Nat))) :=
  h.parts.foldlM (fun steps (index, _, _) =>
    if ((steps[index]?).join).isSome then .ok steps
    else
      match (t.steps[(f.components.getD index default).table]?).join with
      | some found => .ok (steps.setIfInBounds index (some found))
      | none => .error ImageFault.broken) steps

/-- What has been read of the planes: their steps and all coefficients. -/
structure Found where
  steps : Array (Option (Array Nat))
  all : Array Int

/-- Reads the scans from one on. -/
def scans (data : ByteArray) (f : Frame) (single : Bool) :
    Nat → Tables → ScanHead → Nat → Found → Except ImageFault Found
  | 0, _, _, _, _ => .error .broken
  | fuel + 1, t, h, offset, found => do
    let steps ← latched f t h found.steps
    let scan ← h.scan t f
    let start : Progress := { bits := { offset }, restart := t.interval, all := found.all }
    match Progress.units data f scan t.interval (Progress.unitsOf f scan) 0 start with
    | .error offset => .error (.cutShort (data.size - offset))
    | .ok p =>
      let found : Found := ⟨steps, p.all⟩
      let (t, next, offset) ← segments data (data.size + 1) p.bits.mark p.bits.offset t
      match next with
      | none => .ok found
      | some h => if single then .error .broken else scans data f single fuel t h offset found

/-! ## Pictures -/

/-- The colour of the samples of a pixel. A plane alone is a brightness. Three are a brightness and
two differences, unless they are said or named to be red, green and blue. Four are inks, which are
held as what is left of the paper, and the first three of them may be held as a brightness and two
differences. -/
def colourOf (f : Frame) (t : Tables) (part : Nat → Nat) : Rgb :=
  let names := f.components.toList.map (·.name)
  let mixed := Rgb.ofChroma (part 0) (part 1) (part 2)
  match names.length with
  | 1 => .grey (part 0)
  | 3 =>
    let isPlain := t.isPlain || (if t.kind.isSome then t.kind != some 0 else names != [82, 71, 66])
    if isPlain then mixed else .ofNats (part 0) (part 1) (part 2)
  | _ =>
    let black := 255 - part 3
    if t.kind = none ∨ t.kind = some 0 then
      .ofInks (255 - part 0) (255 - part 1) (255 - part 2) black
    else .ofInks mixed.red.toNat mixed.green.toNat mixed.blue.toNat black

/-- The picture of a photograph, whose coefficients are known. -/
def Found.picture (found : Found) (f : Frame) (t : Tables) : Picture :=
  let planes := f.components.toList.mapIdx fun i c =>
    let (width, height) := f.size c
    let steps := ((found.steps[i]?).join).getD #[]
    let blocks := found.all.extract (64 * c.start)
      (64 * (c.start + c.stride * ((height + 7) / 8)))
    (Plane.ofBlocks width height c.stride steps blocks)
  let factors := f.components.toList.map fun c => (f.across / c.across, f.down / c.down)
  mixture f.width f.height planes factors (colourOf f t)

/-- Reads the tables, the scans and the picture. -/
def read (data : ByteArray) : Except ImageFault Picture := do
  let (t, head, offset) ← segments data (data.size + 1) none 2 {}
  let (some f, some head) := (t.frame, head) | throw .broken
  let sides := f.components.toList.flatMap fun c => [c.across, c.down]
  if limit < max f.width f.height ∨ !(sides.all fun n => 1 ≤ n ∧ n ≤ 4) then throw .broken
  if f.components.any fun c => f.across % c.across ≠ 0 ∨ f.down % c.down ≠ 0 then throw .broken
  let single := !f.progressive && head.parts.length = f.components.size
  let (f, count) := f.placed
  let found ← scans data f single (data.size + 1) t head offset
    ⟨.replicate f.components.size none, .replicate (64 * count) 0⟩
  pure (found.picture f t)

/-- The picture in data, if they are a photograph. -/
def decode (data : ByteArray) : Reading := OptionT.run do
  Attempt.require (Bytes.hasAt data 0 [255, 0xd8, 255])
  let (width, height, _) ← describe data (data.size + 1) 2 none
  Attempt.size width height
  Attempt.lift (read data)

end SceneScript.Jpeg
