import SceneScript.Storage.Deflate
import SceneScript.Storage.Deflate.Lengths
import SceneScript.Storage.Deflate.Tokens

/-!
# Deflating data

The pieces of data are written in blocks. Of the three ways to write a block the shortest one is
taken: with codes that are made for it and are given in front, with the codes that need not be
given, or as it is.
-/

namespace SceneScript.Deflate

/-! ## Bits -/

/-- The bytes written, and the bits that do not fill a byte yet. The first bit is the lowest one. -/
structure BitSink where
  out : ByteArray := .empty
  held : Nat := 0
  count : Nat := 0

namespace BitSink

/-- Writes whole bytes. -/
def flush : Nat → BitSink → BitSink
  | 0, w => w
  | fuel + 1, w =>
    if w.count < 8 then w
    else flush fuel ⟨w.out.push (UInt8.ofNat w.held), w.held / 256, w.count - 8⟩

/-- Writes a number of so many bits, the lowest first. -/
def push (w : BitSink) (n value : Nat) : BitSink :=
  flush 4 { w with held := w.held + value <<< w.count, count := w.count + n }

/-- Fills the last byte with zeros. -/
def align (w : BitSink) : BitSink := if w.count = 0 then w else w.push (8 - w.count) 0

/-- Writes bytes. -/
def append (w : BitSink) (data : ByteArray) : BitSink := { w with out := w.out ++ data }

end BitSink

/-- So many bits of a number, turned around. -/
def reversed (n value : Nat) : Nat :=
  (List.range n).foldl (fun out i => 2 * out + (value >>> i) % 2) 0

/-- The codes of symbols whose lengths are given: their lengths and their bits. -/
def codesOf (lengths : Array Nat) : Array (Nat × Nat) :=
  let count (n : Nat) : Nat := if n = 0 then 0 else lengths.count n
  let starts := (List.range 16).foldl (fun (starts : Array Nat) n =>
    starts.push (2 * (starts.getD n 0 + count n))) #[0]
  (lengths.foldl (fun ((out, next) : Array (Nat × Nat) × Array Nat) n =>
    (out.push (n, reversed n (next.getD n 0)), next.modify n (· + 1))) (#[], starts)).1

/-! ## Symbols -/

/-- A number as the symbol of the base below it, and the bits and the value of the rest. -/
def symbolOf (bases : List (Nat × Nat)) (n : Nat) : Nat × Nat × Nat :=
  let index := (bases.takeWhile fun (base, _) => base ≤ n).length - 1
  let (base, bits) := bases[index]?.getD (0, 0)
  (index, bits, n - base)

/-- The symbols of lengths, by the length. -/
def lengthSymbols : Array (Nat × Nat × Nat) := (Array.range 259).map (symbolOf lengthBases)

/-- The symbols of a piece: a byte or a length, the bits and the value of its rest, and the same of
its distance. -/
@[inline] def Token.symbols : Token → (Nat × Nat × Nat) × Option (Nat × Nat × Nat)
  | byte b => ((b.toNat, 0, 0), none)
  | again length distance =>
    let (index, rest) := lengthSymbols.getD length default
    ((257 + index, rest), some (symbolOf distanceBases distance))

/-- The symbol of the end of a block. -/
def stop : Nat := 256

/-- How often each byte or length, and each distance, occurs. -/
def weightsOf (tokens : Array Token) : Array Nat × Array Nat :=
  tokens.foldl (fun (first, second) t =>
    let (symbol, distance) := t.symbols
    (first.modify symbol.1 (· + 1),
      match distance with
      | some found => second.modify found.1 (· + 1)
      | none => second))
    ((Array.replicate 286 0).setIfInBounds stop 1, .replicate 30 0)

/-! ## The lengths of codes -/

/-- Lengths in runs: each is a symbol with the bits and the value of its rest. Sixteen repeats the
last length, seventeen and eighteen are zeros. -/
def runOf (length count : Nat) (isNew : Bool) : List (Nat × Nat × Nat) :=
  if count < 3 ∨ (count = 3 ∧ isNew ∧ length ≠ 0) then List.replicate count (length, 0, 0)
  else if length ≠ 0 then
    if isNew then [(length, 0, 0), (16, 2, count - 4)] else [(16, 2, count - 3)]
  else if count ≤ 10 then [(17, 3, count - 3)]
  else [(18, 7, count - 11)]

/-- The most lengths in a run. -/
def runLimit (length : Nat) (isNew : Bool) : Nat :=
  if length = 0 then 138 else if isNew then 7 else 6

/-- The runs of lengths, given the last length and the run so far. -/
def runs (last : Option Nat) (length count : Nat) : List Nat → List (Nat × Nat × Nat)
  | [] => runOf length count (last != some length)
  | next :: rest =>
    let isNew := last != some length
    if next = length ∧ count < runLimit length isNew then runs last length (count + 1) rest
    else runOf length count isNew ++ runs (some length) next 1 rest

/-- The runs of lengths, up to the last that is not zero. -/
def runsOf (lengths : List Nat) : List (Nat × Nat × Nat) :=
  match lengths with
  | [] => []
  | first :: rest => runs none first 1 rest

/-- Lengths without the zeros at the end. -/
def trimmed (lengths : Array Nat) : List Nat :=
  (lengths.toList.reverse.dropWhile (· == 0)).reverse

/-! ## Blocks -/

/-- What a block is written with: its two codes. -/
structure BlockCodes where
  first : Array Nat
  second : Array Nat

namespace BlockCodes

/-- The codes that need not be given. -/
def fixed : BlockCodes := ⟨fixedLengths.toArray, .replicate 30 5⟩

/-- The bits of the pieces of a block. -/
def cost (c : BlockCodes) (weights : Array Nat × Array Nat) : Nat :=
  let first := (Array.range 286).foldl (fun n s =>
    let rest := if 257 ≤ s then ((lengthBases[s - 257]?).getD default).2 else 0
    n + weights.1.getD s 0 * (c.first.getD s 0 + rest)) 0
  (Array.range 30).foldl (fun n s =>
    n + weights.2.getD s 0 * (c.second.getD s 0 + ((distanceBases[s]?).getD default).2)) first

/-- Writes pieces and the end of the block. -/
def write (c : BlockCodes) (tokens : Array Token) (w : BitSink) : BitSink :=
  let (first, second) := (codesOf c.first, codesOf c.second)
  let put (codes : Array (Nat × Nat)) (symbol : Nat × Nat × Nat) (w : BitSink) : BitSink :=
    let (length, code) := codes.getD symbol.1 (0, 0)
    (w.push length code).push symbol.2.1 symbol.2.2
  put first (stop, 0, 0) (tokens.foldl (fun w t =>
    let (symbol, distance) := t.symbols
    let w := put first symbol w
    match distance with
    | some found => put second found w
    | none => w) w)

end BlockCodes

/-- How codes are given: the numbers of lengths, the runs of them, and the code of the runs. -/
structure CodeTable where
  first : Nat
  second : Nat
  runs : List (Nat × Nat × Nat)
  lengths : Array Nat
  /-- The number of lengths of the code of the runs, in their order. -/
  given : Nat

namespace CodeTable

/-- How the codes of a block are given. -/
def ofCodes (c : BlockCodes) : CodeTable :=
  let (first, second) := (trimmed c.first, trimmed c.second)
  let runs := runsOf first ++ runsOf second
  let weights := runs.foldl (fun (out : Array Nat) run => out.modify run.1 (· + 1))
    (.replicate 19 0)
  let lengths := Lengths.ofWeights weights 7
  let given := ((lengthOrder.reverse.dropWhile fun s => lengths.getD s 0 == 0)).length
  ⟨first.length, second.length, runs, lengths, max 4 given⟩

/-- The bits of a table. -/
def cost (t : CodeTable) : Nat :=
  t.runs.foldl (fun n (s, bits, _) => n + t.lengths.getD s 0 + bits) (14 + 3 * t.given)

/-- Writes a table. -/
def write (t : CodeTable) (w : BitSink) : BitSink :=
  let w := ((w.push 5 (t.first - 257)).push 5 (t.second - 1)).push 4 (t.given - 4)
  let w := (lengthOrder.take t.given).foldl (fun w s => w.push 3 (t.lengths.getD s 0)) w
  let codes := codesOf t.lengths
  t.runs.foldl (fun w (s, bits, value) =>
    let (length, code) := codes.getD s (0, 0)
    (w.push length code).push bits value) w

end CodeTable

/-- The bytes from one place to another, if they are at hand when the last one has been seen. Data
are seen through a window, which moves on by this step. -/
def atHand? (data : ByteArray) (start stop : Nat) : Option ByteArray :=
  let step := 32768
  if (stop - Token.farthest) / step * step ≤ start then some (data.extract start stop) else none

/-- Writes a block with the given pieces, which may be written as the given bytes. -/
def writeBlock (isLast : Bool) (raw : Option ByteArray) (tokens : Array Token) (w : BitSink) :
    BitSink :=
  let weights := weightsOf tokens
  let made : BlockCodes := ⟨Lengths.ofWeights weights.1 15, Lengths.ofWeights weights.2 15⟩
  let table := CodeTable.ofCodes made
  let bytes (bits : Nat) : Nat := (bits + 10) / 8
  let fixed := bytes (BlockCodes.fixed.cost weights)
  let best := min fixed (bytes (made.cost weights + table.cost))
  let start (kind : Nat) : BitSink := w.push 3 (2 * kind + if isLast then 1 else 0)
  match raw.filter (·.size + 4 ≤ best) with
  | some raw =>
    let head := Bytes.low 2 raw.size ++ Bytes.low 2 (65535 - raw.size)
    (start 0).align.append (Bytes.ofList head ++ raw)
  | none =>
    if fixed = best then BlockCodes.fixed.write tokens (start 1)
    else made.write tokens (table.write (start 2))

/-- The most pieces in a block. -/
def blockSize : Nat := 32767

/-- Writes blocks from a piece on. A repetition that fills a block is never in the last one. -/
def writeBlocks (data : ByteArray) (tokens : Array Token) :
    Nat → Nat → Nat → BitSink → BitSink
  | 0, _, _, w => w
  | fuel + 1, n, offset, w =>
    let these := tokens.extract n (n + blockSize)
    let size := these.foldl (fun size t => size + t.size) 0
    let closed := these.size = blockSize && match these.back? with
      | some (.again ..) => true
      | _ => false
    let isLast := tokens.size ≤ n + blockSize && !closed
    let w := writeBlock isLast (atHand? data offset (offset + size)) these w
    if isLast then w else writeBlocks data tokens fuel (n + blockSize) (offset + size) w

/-- Data in a stream. -/
def deflate (data : ByteArray) : ByteArray :=
  let tokens := Token.ofBytes data
  let w := writeBlocks data tokens (tokens.size / blockSize + 2) 0 0
    { out := Bytes.ofList [0x78, 0x9c] }
  w.align.out ++ Bytes.ofList (Bytes.high 4 (adler data))

end SceneScript.Deflate
