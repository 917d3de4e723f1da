import SceneScript.Storage.Bytes

/-!
# Repetitions in data

Data are taken apart into bytes and repetitions of bytes in front (`Token`). The places of all
sequences of three bytes are kept in chains by a hash of theirs, the last place first. A repetition
is looked for at each place, and is not taken if there is a longer one at the next place. Short
ones are never taken.
-/

namespace SceneScript.Deflate

/-- A piece of data: a byte, or a length of bytes that stand a distance in front. -/
inductive Token
  | byte (b : UInt8)
  | again (length distance : Nat)
  deriving Repr, DecidableEq, Inhabited

namespace Token

/-- The number of bytes that a piece stands for. -/
def size : Token → Nat
  | byte _ => 1
  | again length _ => length

/-- The longest repetition. -/
def longest : Nat := 258

/-- The largest distance of a repetition. -/
def farthest : Nat := 32506

/-- The shortest repetition that is taken. -/
def shortest : Nat := 6

/-- A repetition of that length is taken at once. -/
def enough : Nat := 128

/-- If there is a repetition of that length, none is looked for at the next place. -/
def plenty : Nat := 16

/-- How many places are looked at, given the length of the repetition at the place before. -/
def patience (length : Nat) : Nat := if 8 ≤ length then 32 else 128

/-- The hash of the three bytes at a place. -/
@[inline] def hash (data : ByteArray) (i : Nat) : Nat :=
  let byte (k : Nat) : Nat := Bytes.byteAt data (i + k)
  ((byte 0 <<< 12) ^^^ (byte 1 <<< 6) ^^^ byte 2) % 65536

/-- The chains of places: the last place with each hash, and for each place the one before with the
same hash. The first place of all is in no chain. -/
structure Chains where
  last : Array Nat
  before : Array Nat

/-- Adds a place to its chain if it has three bytes, and gives the one before it. -/
@[inline] def Chains.add (data : ByteArray) (i : Nat) (c : Chains) : Nat × Chains :=
  if data.size < i + 3 then (0, c)
  else
    let h := hash data i
    let found := c.last.getD h 0
    (found, ⟨c.last.setIfInBounds h i, c.before.setIfInBounds i found⟩)

/-- Adds so many places from one on. -/
def Chains.addAll (data : ByteArray) : Nat → Nat → Chains → Chains
  | 0, _, c => c
  | count + 1, i, c => addAll data count (i + 1) (c.add data i).2

/-- How many bytes are alike at two places, at most so many, given how many are known to be. -/
def alike (data : ByteArray) (a b : Nat) : Nat → Nat → Nat
  | 0, n => n
  | left + 1, n =>
    if data[a + n]? == data[b + n]? then alike data a b left (n + 1) else n

/-- The longest repetition at a place, as its length and where it stands, among so many places of a
chain from one on, given the best so far. -/
def best (data : ByteArray) (before : Array Nat) (i enough : Nat) :
    Nat → Nat → Nat × Nat → Nat × Nat
  | 0, _, found => found
  | patience + 1, place, found =>
    let most := min longest (data.size - i)
    let length :=
      if data[place + found.1]? == data[i + found.1]? then alike data place i most 0 else 0
    let found := if found.1 < length then (length, place) else found
    let next := before.getD place 0
    if enough ≤ length ∨ next ≤ i - farthest then found
    else best data before i enough patience next found

/-- The repetition at a place, if one is longer than the one at the place before. -/
def lookup (data : ByteArray) (c : Chains) (i head : Nat) (last : Nat × Nat) : Nat × Nat :=
  if head = 0 ∨ plenty ≤ last.1 ∨ farthest < i - head then (2, last.2)
  else
    let left := data.size - i
    let found := best data c.before i (min enough left) (patience last.1) head last
    if min left found.1 < shortest then (2, found.2) else (min left found.1, found.2)

/-- Takes data apart from a place on, given the repetition at the place before, and whether the byte
there is not taken yet. -/
def split (data : ByteArray) :
    Nat → Nat → Nat × Nat → Bool → Chains → Array Token → Array Token
  | 0, _, _, _, _, out => out
  | fuel + 1, i, last, waits, c, out =>
    let waiting := Token.byte (UInt8.ofNat (Bytes.byteAt data (i - 1)))
    if data.size ≤ i then if waits then out.push waiting else out
    else
      let (head, c) := c.add data i
      let found := lookup data c i head last
      if 3 ≤ last.1 ∧ found.1 ≤ last.1 then
        split data fuel (i + last.1 - 1) (2, found.2) false
          (c.addAll data (last.1 - 2) (i + 1)) (out.push (again last.1 (i - 1 - last.2)))
      else split data fuel (i + 1) found true c (if waits then out.push waiting else out)

/-- Data in pieces. -/
def ofBytes (data : ByteArray) : Array Token :=
  split data (data.size + 1) 0 (2, 0) false
    ⟨.replicate 65536 0, .replicate data.size 0⟩ #[]

end Token

end SceneScript.Deflate
