import SceneScript.Storage.Jpeg.Bits

/-!
# The scans of photographs

A scan holds coefficients of some planes, block by block. In a photograph that is sent at once there
is one scan for all coefficients. In one that gets better and better, a scan has the first
coefficients of the blocks or some of the others, and either their upper bits or one bit more of
each. There a scan may end many blocks at once.
-/

namespace SceneScript.Jpeg

/-- A plane of a photograph: its name, its columns and rows against the others, its table of steps,
and its blocks. -/
structure Component where
  name : Nat
  across : Nat
  down : Nat
  table : Nat
  /-- The number of blocks in a row and the place of the first one. -/
  stride : Nat := 0
  start : Nat := 0
  deriving Inhabited

/-- What all planes of a photograph share. -/
structure Frame where
  progressive : Bool
  width : Nat
  height : Nat
  components : Array Component
  deriving Inhabited

namespace Frame

/-- The columns of the widest plane against the others. -/
def across (f : Frame) : Nat := f.components.foldl (fun n c => max n c.across) 1

/-- The rows of the highest plane against the others. -/
def down (f : Frame) : Nat := f.components.foldl (fun n c => max n c.down) 1

/-- The columns and rows of a plane. -/
def size (f : Frame) (c : Component) : Nat × Nat :=
  ((f.width * c.across + f.across - 1) / f.across, (f.height * c.down + f.down - 1) / f.down)

/-- The units of all planes side by side and one below the other. -/
def units (f : Frame) : Nat × Nat :=
  ((f.width + 8 * f.across - 1) / (8 * f.across), (f.height + 8 * f.down - 1) / (8 * f.down))

/-- The photograph with the places of its blocks, and how many there are. -/
def placed (f : Frame) : Frame × Nat :=
  let (columns, rows) := f.units
  let (components, total) := f.components.foldl
    (fun ((out, total) : Array Component × Nat) c =>
      (out.push { c with stride := columns * c.across, start := total },
        total + columns * c.across * (rows * c.down))) (#[], 0)
  ({ f with components }, total)

end Frame

/-- A scan: its planes with the codes of their first and other coefficients, the coefficients that
it has, and their bits: those that were sent before, and those that are still to come. -/
structure Scan where
  parts : List (Nat × Component × Codes × Codes)
  first : Nat
  last : Nat
  high : Nat
  low : Nat

/-- Where a scan stands: its bits, the blocks that are ended already, the last first coefficient of
each plane, the blocks up to the next mark, the number of that mark, and the coefficients. -/
structure Progress where
  bits : BitState
  ended : Nat := 0
  before : Array Int := #[0, 0, 0, 0]
  restart : Nat := 0
  next : Nat := 0
  all : Array Int

namespace Progress

/-! ## Blocks -/

/-- The place of a coefficient in its block. -/
@[inline] def place (k : Nat) : Nat := zigzag.getD k 63

/-- The other coefficients of a block that is sent at once. -/
def others (data : ByteArray) (codes : Codes) (base low : Nat) :
    Nat → Nat → BitState → Array Int → Option (BitState × Array Int)
  | 0, _, s, all => some (s, all)
  | fuel + 1, k, s, all =>
    if 64 ≤ k then some (s, all)
    else
      match s.symbol data codes with
      | none => none
      | some (symbol, s) =>
        let (zeros, size) := (symbol / 16, symbol % 16)
        if size ≠ 0 then
          match s.number data size with
          | none => none
          | some (n, s) =>
            others data codes base low fuel (k + zeros + 1) s
              (all.setIfInBounds (base + place (k + zeros)) (n * (1 <<< low : Nat)))
        else if zeros = 15 then others data codes base low fuel (k + 16) s all
        else some (s, all)

/-- The first coefficient of a block, and what it was before its bits were cut. -/
def firstOf (data : ByteArray) (codes : Codes) (before : Int) (s : BitState) :
    Option (Int × BitState) :=
  match s.symbol data codes with
  | none => none
  | some (size, s) => (s.number data (min size 16)).map fun (n, s) => (before + n, s)

/-- Some of the other coefficients of a block, and how many blocks are ended with it. -/
def someOthers (data : ByteArray) (codes : Codes) (base last low : Nat) :
    Nat → Nat → BitState → Array Int → Option (BitState × Nat × Array Int)
  | 0, _, s, all => some (s, 0, all)
  | fuel + 1, k, s, all =>
    if last < k then some (s, 0, all)
    else
      match s.symbol data codes with
      | none => none
      | some (symbol, s) =>
        let (zeros, size) := (symbol / 16, symbol % 16)
        if size ≠ 0 then
          match s.number data size with
          | none => none
          | some (n, s) =>
            someOthers data codes base last low fuel (k + zeros + 1) s
              (all.setIfInBounds (base + place (k + zeros)) (n * (1 <<< low : Nat)))
        else if zeros = 15 then someOthers data codes base last low fuel (k + 16) s all
        else (s.bits data zeros).map fun (n, s) => (s, 1 <<< zeros + n - 1, all)

/-- A coefficient with one bit more, if the next bit says so. -/
def corrected (data : ByteArray) (n : Int) (low : Nat) (s : BitState) : Option (Int × BitState) :=
  let step : Int := (1 <<< low : Nat)
  (s.bits data 1).map fun (b, s) =>
    (if b = 0 ∨ (n.natAbs >>> low) % 2 = 1 then n else if 0 ≤ n then n + step else n - step, s)

/-- Passes over coefficients from one on, given how many that are zero are passed over before the
next one, and corrects the others. -/
def correct (data : ByteArray) (base last low : Nat) :
    Nat → Nat → Option Nat → BitState → Array Int → Option (Nat × BitState × Array Int)
  | 0, k, _, s, all => some (k, s, all)
  | fuel + 1, k, zeros, s, all =>
    if last < k then some (k, s, all)
    else
      let n := all.getD (base + place k) 0
      if n ≠ 0 then
        match corrected data n low s with
        | none => none
        | some (n, s) =>
          correct data base last low fuel (k + 1) zeros s (all.setIfInBounds (base + place k) n)
      else
        match zeros with
        | some 0 => some (k, s, all)
        | some (zeros + 1) => correct data base last low fuel (k + 1) (some zeros) s all
        | none => correct data base last low fuel (k + 1) none s all

/-- One bit more of some of the other coefficients of a block, and how many blocks are ended. -/
def refine (data : ByteArray) (codes : Codes) (base last low : Nat) :
    Nat → Nat → BitState → Array Int → Option (BitState × Nat × Array Int)
  | 0, _, s, all => some (s, 0, all)
  | fuel + 1, k, s, all =>
    if last < k then some (s, 0, all)
    else
      match s.symbol data codes with
      | none => none
      | some (symbol, s) =>
        let (zeros, size) := (symbol / 16, symbol % 16)
        if size = 0 ∧ zeros ≠ 15 then
          match s.bits data zeros with
          | none => none
          | some (n, s) =>
            (correct data base last low 64 k none s all).map fun (_, s, all) =>
              (s, 1 <<< zeros + n - 1, all)
        else
          match if size = 0 then some (0, s) else s.bits data 1 with
          | none => none
          | some (b, s) =>
            match correct data base last low 64 k (some zeros) s all with
            | none => none
            | some (k, s, all) =>
              let step : Int := (1 <<< low : Nat)
              let all := if size = 0 then all
                else all.setIfInBounds (base + place k) (if b = 1 then step else -step)
              refine data codes base last low fuel (k + 1) s all

/-- What a scan has of a block with the given place, of a plane with the given number. -/
def block (data : ByteArray) (progressive : Bool) (scan : Scan) (index base : Nat)
    (first other : Codes) (p : Progress) : Option Progress :=
  let before := p.before.getD index 0
  if !progressive then
    match firstOf data first before p.bits with
    | none => none
    | some (n, s) =>
      (others data other base 0 64 1 s (p.all.setIfInBounds base n)).map fun (bits, all) =>
        { p with bits, all, before := p.before.setIfInBounds index n }
  else if scan.first = 0 then
    if scan.high = 0 then
      (firstOf data first before p.bits).map fun (n, bits) =>
        { p with
          bits
          before := p.before.setIfInBounds index n
          all := p.all.setIfInBounds base (n * (1 <<< scan.low : Nat)) }
    else
      (p.bits.bits data 1).map fun (b, bits) =>
        let n := p.all.getD base 0
        let step : Int := (1 <<< scan.low : Nat)
        { p with
          bits
          all := if b = 1 ∧ n / step % 2 = 0 then p.all.setIfInBounds base (n + step) else p.all }
  else if scan.high = 0 then
    if 0 < p.ended then some { p with ended := p.ended - 1 }
    else
      (someOthers data other base scan.last scan.low 64 scan.first p.bits p.all).map
        fun (bits, ended, all) => { p with bits, ended, all }
  else if 0 < p.ended then
    (correct data base scan.last scan.low 64 scan.first none p.bits p.all).map
      fun (_, bits, all) => { p with bits, all, ended := p.ended - 1 }
  else
    (refine data other base scan.last scan.low 64 scan.first p.bits p.all).map
      fun (bits, ended, all) => { p with bits, ended, all }

/-! ## Units -/

/-- The mark at an offset or after it: its number and the offset behind. Other bytes are passed
over. If there is none, the offset up to which nothing can be. -/
def markFrom (data : ByteArray) : Nat → Nat → Except Nat (UInt8 × Nat)
  | 0, offset => .error offset
  | fuel + 1, offset =>
    match data[offset]? with
    | none => .error offset
    | some 255 =>
      match BitState.afterFill data (data.size + 1) offset with
      | none => .error offset
      | some (0, next) => markFrom data fuel next
      | some (mark, next) => .ok (mark, next)
    | some _ => markFrom data fuel (offset + 1)

/-- Finds the mark that begins the next part of a scan, whose number is expected. One that is far
from it is taken for it, one that comes before it is passed over, and one that comes after it, or is
of another kind, leaves the part empty. -/
def restartMark (data : ByteArray) (expected : Nat) :
    Nat → Option UInt8 → Nat → Option (Option UInt8 × Nat)
  | 0, mark, offset => some (mark, offset)
  | fuel + 1, mark, offset =>
    match mark with
    | none =>
      match markFrom data (data.size + 1) offset with
      | .error _ => none
      | .ok (mark, offset) => restartMark data expected fuel (some mark) offset
    | some m =>
      let n := m.toNat
      if n < 0xc0 then restartMark data expected fuel none offset
      else if n < 0xd0 ∨ 0xd7 < n then some (some m, offset)
      else
        let distance := (n + 8 - 0xd0 - expected) % 8
        if distance = 1 ∨ distance = 2 then some (some m, offset)
        else if distance = 6 ∨ distance = 7 then restartMark data expected fuel none offset
        else some (none, offset)

/-- Begins the next part of a scan, if so many units have been read. -/
def restarted (data : ByteArray) (interval : Nat) (p : Progress) : Option Progress :=
  if interval = 0 ∨ 0 < p.restart then some p
  else
    (restartMark data p.next (data.size + 1) p.bits.mark p.bits.offset).map fun (mark, offset) =>
      { p with
        bits := { offset, mark, isShort := mark.isSome && p.bits.isShort }
        ended := 0
        before := #[0, 0, 0, 0]
        restart := interval
        next := (p.next + 1) % 8 }

/-- The blocks of the unit with the given number: their plane, with its codes, and their places. -/
def placesOf (f : Frame) (scan : Scan) (n : Nat) : List (Nat × Codes × Codes × Nat) :=
  match scan.parts with
  | [(index, c, first, other)] =>
    let columns := ((f.size c).1 + 7) / 8
    [(index, first, other, 64 * (c.start + n / columns * c.stride + n % columns))]
  | parts =>
    let columns := f.units.1
    parts.flatMap fun (index, c, first, other) =>
      (List.range (c.across * c.down)).map fun i =>
        let (column, row) := (n % columns * c.across + i % c.across,
          n / columns * c.down + i / c.across)
        (index, first, other, 64 * (c.start + row * c.stride + column))

/-- The number of units of a scan. -/
def unitsOf (f : Frame) (scan : Scan) : Nat :=
  match scan.parts with
  | [(_, c, _, _)] => (((f.size c).1 + 7) / 8) * (((f.size c).2 + 7) / 8)
  | _ => f.units.1 * f.units.2

/-- Reads the units of a scan from one on. If the data end, there is the offset behind the bytes
that have been used. -/
def units (data : ByteArray) (f : Frame) (scan : Scan) (interval : Nat) :
    Nat → Nat → Progress → Except Nat Progress
  | 0, _, p => .ok p
  | count + 1, n, p =>
    let offset := p.bits.offset
    match p.restarted data interval with
    | none => .error offset
    | some p =>
      let offset := p.bits.offset
      let isRefined := f.progressive && scan.first = 0 && scan.high ≠ 0
      let found := if p.bits.isShort && !isRefined then some p
        else
          (placesOf f scan n).foldlM (fun p (index, first, other, base) =>
            p.block data f.progressive scan index base first other) p
      match found with
      | none => .error offset
      | some p => units data f scan interval count (n + 1) { p with restart := p.restart - 1 }

end Progress

end SceneScript.Jpeg
