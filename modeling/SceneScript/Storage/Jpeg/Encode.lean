import SceneScript.Storage.Jpeg.Bits
import SceneScript.Storage.Jpeg.Planes

/-!
# Writing photographs

A photograph is written with its brightness in full and the differences from it halved in both
directions. What is lost is the same at each writing: `Jpeg.coefficientsOf` gives the blocks of a
plane in the steps of the tables, and `Jpeg.faded` puts them together again.
-/

namespace SceneScript.Jpeg

/-- The largest width and height of a photograph. -/
def limit : Nat := 65500

/-- Whether a picture can be written. -/
def check (p : Picture) : Except Fault Unit :=
  if p.width = 0 ∨ p.height = 0 then .error .emptyPicture
  else if limit < max p.width p.height then .error .brokenStream
  else .ok ()

/-! ## Coefficients -/

/-- The steps of the planes. -/
def steps : List (Array Nat) := [brightnessSteps, differenceSteps, differenceSteps]

/-- The coefficients of a block of a plane in steps. -/
def blockOf (p : Plane) (steps : Array Nat) (column row : Nat) : Array Int :=
  (coefficients (p.block column row)).mapIdx fun i n => quantized n (steps.getD i 1)

/-- The coefficients of so many blocks side by side and one below the other. -/
def coefficientsOf (p : Plane) (steps : Array Nat) (across down : Nat) : Array Int :=
  (across * down).fold (fun n _ out => out ++ blockOf p steps (n % across) (n / across)) #[]

/-- The picture of planes that are stretched by the given factors. The colour of a pixel is made up
of its samples. -/
def mixture (width height : Nat) (planes : List Plane) (factors : List (Nat × Nat))
    (colour : (Nat → Nat) → Rgb) : Picture :=
  let sample := (planes.zip factors).toArray.map fun (p, across, down) => p.stretched across down
  .tabulate width height fun x y => colour fun k => (sample.getD k fun _ _ => 128) x y

/-- What is read of a picture that has been written as a photograph. -/
def faded (p : Picture) : Picture :=
  let factors := [(1, 1), (2, 2), (2, 2)]
  let read := ((planes p).zip (steps.zip factors)).map fun (plane, steps, across, down) =>
    let (width, height) := ((p.width + across - 1) / across, (p.height + down - 1) / down)
    let columns := (width + 7) / 8
    Plane.ofBlocks width height columns steps
      (coefficientsOf plane steps columns ((height + 7) / 8))
  mixture p.width p.height read factors fun part => Rgb.ofChroma (part 0) (part 1) (part 2)

/-! ## Writing -/

/-- The codes of a set: for each symbol its length and its bits. -/
def CodeSet.table (s : CodeSet) : Array (Nat × Nat) :=
  let lengths := s.counts.zipIdx.flatMap fun (count, i) => List.replicate count (i + 1)
  let found := (lengths.zip s.symbols).foldl
    (fun ((code, last, out) : Nat × Nat × Array (Nat × Nat)) (length, symbol) =>
      let code := code <<< (length - last)
      (code + 1, length, out.setIfInBounds symbol (length, code)))
    (0, 0, .replicate 256 (0, 0))
  found.2.2

/-- The number of bits of the absolute value of a number. -/
def bitCount (n : Int) : Nat := if n = 0 then 0 else n.natAbs.log2 + 1

/-- Writes a symbol and the bits of a number, of which negative ones are one less. -/
def putNumber (w : BitWriter) (table : Array (Nat × Nat)) (symbol : Nat) (n : Int) : BitWriter :=
  let (length, code) := table.getD symbol (0, 0)
  let size := bitCount n
  let bits := if n < 0 then (n + (1 <<< size : Nat) - 1).toNat else n.toNat
  (w.push length code).push size bits

/-- Writes a block: the difference of its first coefficient from the one before, and the others,
with the zeros in front of each. -/
def putBlock (w : BitWriter) (first other : Array (Nat × Nat)) (before : Int)
    (block : Array Int) : BitWriter :=
  let start := block.getD 0 0 - before
  let w := putNumber w first (bitCount start) start
  let (w, zeros) := (zigzag.extract 1 64).foldl (fun ((w, zeros) : BitWriter × Nat) place =>
    let n := block.getD place 0
    if n = 0 then (w, zeros + 1)
    else
      let w := (zeros / 16).fold (fun _ _ w => putNumber w other 0xf0 0) w
      (putNumber w other (zeros % 16 * 16 + bitCount n) n, 0)) (w, 0)
  if zeros = 0 then w else putNumber w other 0 0

/-- The coded blocks of a picture: four of the brightness and one of each difference in turn. -/
def scan (p : Picture) : ByteArray :=
  let (first, other) := (brightnessFirst.table, brightnessOther.table)
  let (first', other') := (differenceFirst.table, differenceOther.table)
  let (across, down) := ((p.width + 15) / 16, (p.height + 15) / 16)
  match planes p with
  | [y, b, r] =>
    let put (w : BitWriter × Int) (block : Array Int) : BitWriter × Int :=
      (putBlock w.1 first other w.2 block, block.getD 0 0)
    let put' (w : BitWriter) (last : Int) (block : Array Int) : BitWriter × Int :=
      (putBlock w first' other' last block, block.getD 0 0)
    let (w, _) := (across * down).fold
      (fun n _ ((w, i, j, k) : BitWriter × Int × Int × Int) =>
        let (column, row) := (n % across, n / across)
        let (w, i) := [(0, 0), (1, 0), (0, 1), (1, 1)].foldl (fun w (x, z) =>
          put w (blockOf y brightnessSteps (2 * column + x) (2 * row + z))) (w, i)
        let (w, j) := put' w j (blockOf b differenceSteps column row)
        let (w, k) := put' w k (blockOf r differenceSteps column row)
        (w, i, j, k)) (({} : BitWriter), 0, 0, 0)
    w.finish
  | _ => .empty

/-- A segment with a mark. -/
def segment (mark : UInt8) (body : List UInt8) : List UInt8 :=
  [255, mark] ++ Bytes.high 2 (body.length + 2) ++ body

/-- The segment of a table of steps. -/
def stepsSegment (n : UInt8) (steps : Array Nat) : List UInt8 :=
  segment 0xdb (n :: zigzag.toList.map fun place => UInt8.ofNat (steps.getD place 1))

/-- The segment of a set of codes. -/
def codesSegment (n : UInt8) (s : CodeSet) : List UInt8 :=
  segment 0xc4 (n :: (s.counts ++ s.symbols).map UInt8.ofNat)

/-- A picture in bytes. -/
def encode (p : Picture) : ByteArray :=
  let name := "JFIF".toUTF8.toList
  Bytes.ofList ([255, 0xd8] ++ segment 0xe0 (name ++ [0, 1, 1, 0, 0, 1, 0, 1, 0, 0]) ++
    stepsSegment 0 brightnessSteps ++ stepsSegment 1 differenceSteps ++
    segment 0xc0 ([8] ++ Bytes.high 2 p.height ++ Bytes.high 2 p.width ++
      [3, 1, 0x22, 0, 2, 0x11, 1, 3, 0x11, 1]) ++
    codesSegment 0 brightnessFirst ++ codesSegment 16 brightnessOther ++
    codesSegment 1 differenceFirst ++ codesSegment 17 differenceOther ++
    segment 0xda [3, 1, 0, 2, 0x11, 3, 0x11, 0, 63, 0]) ++ scan p ++ Bytes.ofList [255, 0xd9]

end SceneScript.Jpeg
