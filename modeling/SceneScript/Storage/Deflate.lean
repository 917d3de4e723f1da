import SceneScript.Storage.Bytes

/-!
# Deflated data

A deflated stream is a sequence of blocks of bits. A block is stored as it is or coded: each symbol
has a code of bits, and is a byte, the end of the block, or a length, which a distance follows, of
bytes to repeat. `inflate` reads a stream, and answers with the data in front of a fault as well.

A code is a tree of bits (`CodeTree`). It is given by the lengths of the codes of its symbols alone:
shorter codes come before longer ones, and codes of one length are in the order of their symbols.
-/

namespace SceneScript.Deflate

/-- The Adler-32 check sum. -/
def adler (data : ByteArray) : Nat :=
  let (a, b) := data.foldl (fun (a, b) d =>
    let a := (a + d.toNat) % 65521
    (a, (b + a) % 65521)) (1, 0)
  b * 65536 + a

/-! ## Reading -/

/-- Why a stream cannot be read. -/
inductive Failure
  /-- It ends too early. -/
  | ended
  /-- It contradicts itself. -/
  | broken
  deriving Repr, DecidableEq, Inhabited

/-- A result, or a failure and the data in front of it. -/
abbrev Partial (β : Type) := Except (Failure × ByteArray) β

/-- A result whose failure has the given data in front. -/
def after {β : Type} (out : ByteArray) (r : Except Failure β) : Partial β :=
  r.mapError fun why => (why, out)

/-- The bit with the given number. The lowest bit of a byte comes first. -/
def bitAt? (data : ByteArray) (i : Nat) : Except Failure Bool :=
  match data[i / 8]? with
  | some b => .ok (b.toNat.testBit (i % 8))
  | none => .error .ended

/-- The number in so many bits from one on, the lowest first, and the number of the next bit. -/
def bitsAt (data : ByteArray) (i count : Nat) : Except Failure (Nat × Nat) :=
  if data.size * 8 < i + count then .error .ended
  else
    let n := (List.range count).foldr (fun k n =>
      2 * n + if (Bytes.byteAt data ((i + k) / 8)).testBit ((i + k) % 8) then 1 else 0) 0
    .ok (n, i + count)

/-- A code: the symbols at the ends of paths of bits. -/
inductive CodeTree
  | none
  | symbol (s : Nat)
  | node (zero one : CodeTree)
  deriving Repr, Inhabited

namespace CodeTree

/-- The code with one more symbol. -/
def insert (t : CodeTree) (path : List Bool) (s : Nat) : CodeTree :=
  match path with
  | [] => symbol s
  | bit :: rest =>
    let (zero, one) := match t with
      | node zero one => (zero, one)
      | _ => (none, none)
    if bit then node zero (one.insert rest s) else node (zero.insert rest s) one

/-- The lowest bits of a number, the highest of them first. -/
def path (length code : Nat) : List Bool :=
  (List.range length).map fun i => code.testBit (length - 1 - i)

/-- Whether there is a code with the given lengths, and no path is without a symbol. A single code
of one bit leaves a path, and where `lone` says so, it is allowed. So is no code at all. -/
def isComplete (lone : Bool) (lengths : List Nat) : Bool :=
  let used := lengths.filter (· != 0)
  let filled := used.foldl (fun n length => n + 1 <<< (15 - length)) 0
  filled == 1 <<< 15 || (lone && used.all (· == 1) && used.length ≤ 1)

/-- The code of the symbols whose codes have the given lengths. A length of zero means that a symbol
has none. Even if no symbol has a code, a bit must be read to find that out. -/
def ofLengths (lengths : List Nat) : CodeTree :=
  let symbols := lengths.zipIdx.filter fun (length, _) => length != 0
  let ordered := symbols.mergeSort fun a b => a.1 < b.1 || (a.1 == b.1 && a.2 ≤ b.2)
  (ordered.foldl (fun ((t, code, last) : CodeTree × Nat × Nat) (length, s) =>
    let code := code <<< (length - last)
    (t.insert (path length code) s, code + 1, length)) (node none none, 0, 0)).1

/-- Reads a symbol. -/
def read (data : ByteArray) : CodeTree → Nat → Except Failure (Nat × Nat)
  | none, _ => .error .broken
  | symbol s, i => .ok (s, i)
  | node zero one, i =>
    match bitAt? data i with
    | .error why => .error why
    | .ok bit => if bit then one.read data (i + 1) else zero.read data (i + 1)

end CodeTree

/-- The bases of the lengths, each with its count of further bits. -/
def lengthBases : List (Nat × Nat) :=
  [(3, 0), (4, 0), (5, 0), (6, 0), (7, 0), (8, 0), (9, 0), (10, 0), (11, 1), (13, 1), (15, 1),
    (17, 1), (19, 2), (23, 2), (27, 2), (31, 2), (35, 3), (43, 3), (51, 3), (59, 3), (67, 4),
    (83, 4), (99, 4), (115, 4), (131, 5), (163, 5), (195, 5), (227, 5), (258, 0)]

/-- The bases of the distances, each with its count of further bits. -/
def distanceBases : List (Nat × Nat) :=
  [(1, 0), (2, 0), (3, 0), (4, 0), (5, 1), (7, 1), (9, 2), (13, 2), (17, 3), (25, 3), (33, 4),
    (49, 4), (65, 5), (97, 5), (129, 6), (193, 6), (257, 7), (385, 7), (513, 8), (769, 8),
    (1025, 9), (1537, 9), (2049, 10), (3073, 10), (4097, 11), (6145, 11), (8193, 12), (12289, 12),
    (16385, 13), (24577, 13)]

/-- Reads the further bits of a length or a distance. -/
def extended (data : ByteArray) (bases : List (Nat × Nat)) (n i : Nat) :
    Except Failure (Nat × Nat) := do
  match bases[n]? with
  | none => throw .broken
  | some (base, count) =>
    let (more, i) ← bitsAt data i count
    pure (base + more, i)

/-- Bytes with so many more, each the one that lies the given distance behind. -/
def repeated (out : ByteArray) (distance : Nat) : Nat → ByteArray
  | 0 => out
  | n + 1 => repeated (out.push ((out[out.size - distance]?).getD 0)) distance n

/-- Reads the symbols of a block to its end, at most so many. -/
def symbols (data : ByteArray) (literals distances : CodeTree) :
    Nat → Nat → ByteArray → Partial (ByteArray × Nat)
  | 0, _, out => .error (.ended, out)
  | fuel + 1, i, out => do
    let (s, i) ← after out (literals.read data i)
    if s < 256 then symbols data literals distances fuel i (out.push (UInt8.ofNat s))
    else if s = 256 then pure (out, i)
    else
      let (length, i) ← after out (extended data lengthBases (s - 257) i)
      let (d, i) ← after out (distances.read data i)
      let (distance, i) ← after out (extended data distanceBases d i)
      if out.size < distance then throw (.broken, out)
      symbols data literals distances fuel i (repeated out distance length)

/-- The lengths of the codes of a block that does not give them. -/
def fixedLengths : List Nat :=
  List.replicate 144 8 ++ List.replicate 112 9 ++ List.replicate 24 7 ++ List.replicate 8 8

/-- The order in which the lengths of the code for lengths are given. -/
def lengthOrder : List Nat :=
  [16, 17, 18, 0, 8, 7, 9, 6, 10, 5, 11, 4, 12, 3, 13, 2, 14, 1, 15]

/-- Reads lengths of codes until there are so many, given those so far, the last one first. -/
def lengths (data : ByteArray) (code : CodeTree) (count : Nat) :
    Nat → Nat → List Nat → Except Failure (List Nat × Nat)
  | 0, i, sofar => .ok (sofar.reverse, i)
  | fuel + 1, i, sofar => do
    if count ≤ sofar.length then pure (sofar.reverse, i)
    else
      let (s, i) ← code.read data i
      if s < 16 then lengths data code count fuel i (s :: sofar)
      else
        let (bits, least, value) :=
          if s = 16 then (2, 3, sofar.headD 0) else if s = 17 then (3, 3, 0) else (7, 11, 0)
        let (more, i) ← bitsAt data i bits
        if (s = 16 ∧ sofar.isEmpty) ∨ count < sofar.length + least + more then throw .broken
        lengths data code count fuel i (List.replicate (least + more) value ++ sofar)

/-- Reads the codes of a block that gives them. There must be a code for the end of the block. -/
def givenCodes (data : ByteArray) (i : Nat) : Except Failure (CodeTree × CodeTree × Nat) := do
  let (literals, i) ← bitsAt data i 5
  let (distances, i) ← bitsAt data i 5
  let (given, i) ← bitsAt data i 4
  if 286 < literals + 257 ∨ 30 < distances + 1 then throw .broken
  let (found, i) ← (List.range (given + 4)).foldlM (fun (found, i) _ => do
    let (length, i) ← bitsAt data i 3
    pure (found ++ [length], i)) (([] : List Nat), i)
  let order := lengthOrder.zip found
  let ofLengths := (List.range 19).map fun s => (order.lookup s).getD 0
  if !CodeTree.isComplete false ofLengths && ofLengths.any (· != 0) then throw .broken
  let count := literals + 257 + distances + 1
  let (all, i) ← lengths data (.ofLengths ofLengths) count count i []
  let (first, second) := (all.take (literals + 257), all.drop (literals + 257))
  if first[256]?.getD 0 = 0 ∨ !CodeTree.isComplete true first ∨
      !CodeTree.isComplete true second then throw .broken
  pure (.ofLengths first, .ofLengths second, i)

/-- Reads a stored block, which begins with a byte: its size, the same with all bits turned, and its
bytes. -/
def storedBlock (data : ByteArray) (offset : Nat) (out : ByteArray) :
    Partial (ByteArray × Nat) := do
  let size := Bytes.lowAt data offset 2
  let start := offset + 4
  if data.size < start then throw (.ended, out)
  if size + Bytes.lowAt data (offset + 2) 2 ≠ 65535 then throw (.broken, out)
  let out := out ++ data.extract start (start + size)
  if data.size < start + size then throw (.ended, out)
  pure (out, 8 * (start + size))

/-- Reads a block, and says whether it is the last one. -/
def block (data : ByteArray) (i : Nat) (out : ByteArray) :
    Partial (Bool × ByteArray × Nat) := do
  let (last, i) ← after out (bitsAt data i 1)
  let (kind, i) ← after out (bitsAt data i 2)
  let (more, i) ← match kind with
    | 0 => storedBlock data ((i + 7) / 8) out
    | 1 =>
      symbols data (.ofLengths fixedLengths) (.ofLengths (List.replicate 30 5)) (8 * data.size) i
        out
    | 2 => do
      let (literals, distances, i) ← after out (givenCodes data i)
      symbols data literals distances (8 * data.size) i out
    | _ => throw (.broken, out)
  pure (last == 1, more, i)

/-- Reads blocks to the last one, at most so many. The check sum after them must be right. -/
def blocks (data : ByteArray) : Nat → Nat → ByteArray → Partial ByteArray
  | 0, _, out => .error (.ended, out)
  | fuel + 1, i, out => do
    let (last, out, i) ← block data i out
    let stop := (i + 7) / 8
    if !last then blocks data fuel i out
    else if data.size < stop + 4 then throw (.ended, out)
    else if Bytes.highAt data stop 4 ≠ adler out then throw (.broken, out)
    else pure out

/-- Whether the two bytes in front of a stream are right: the method, the size of its window, and
the multiple of 31 that they make up. -/
def isHead (data : ByteArray) : Bool :=
  let n := Bytes.highAt data 0 2
  n % 31 == 0 && n / 256 % 16 == 8 && n / 4096 ≤ 7

/-- Whether a stream refers to data that are known beforehand. It then never gets anywhere. -/
def needsMore (data : ByteArray) : Bool := (Bytes.byteAt data 1).testBit 5

/-- The data in a stream. -/
def inflate (data : ByteArray) : Partial ByteArray :=
  if data.size < 2 then .error (.ended, .empty)
  else if !isHead data then .error (.broken, .empty)
  else if needsMore data then .error (.ended, .empty)
  else blocks data (8 * data.size) 16 .empty

/-- What a stream gives, whether it is whole or not. -/
def Partial.output (r : Partial ByteArray) : ByteArray :=
  match r with
  | .ok out => out
  | .error (_, out) => out

end SceneScript.Deflate
