import SceneScript.Storage.Bytes
import SceneScript.Storage.Jpeg.Tables

/-!
# The bits of photographs

Codes are read from bits, the highest bit of a byte first. A byte of 255 is followed by a zero, or
by the mark of the next segment. Bytes are taken many at a time, so when the data end, there may be
bits left that are enough for the next code: data that end in front of a mark are never enough.
-/

namespace SceneScript.Jpeg

/-! ## Codes -/

/-- A set of codes as it is read: for each length the last code, the place of the symbol of the code
zero of that length, and the symbols. -/
structure Codes where
  last : Array Int
  place : Array Int
  symbols : Array Nat
  deriving Inhabited

/-- The codes of a set, if there are enough codes of each length. -/
def CodeSet.codes? (s : CodeSet) : Option Codes :=
  let step := fun ((code, index, last, place) : Nat × Nat × Array Int × Array Int) count =>
    let next := code + count
    (2 * next, index + count,
      last.push (if count = 0 then -1 else (next : Int) - 1), place.push ((index : Int) - code))
  let fits := ((List.range 16).zip s.counts).foldl (fun ((code, ok) : Nat × Bool) (i, count) =>
    (2 * (code + count), ok && (count == 0 || code + count < 1 <<< (i + 1)))) (0, true)
  let (_, _, last, place) := s.counts.foldl step (0, 0, #[-1], #[0])
  if fits.2 then some ⟨last, place, s.symbols.toArray⟩ else none

/-! ## Reading bits -/

/-- Where the bits are read: the offset of the next byte, the bits that have been taken and are not
used, and whether a mark has been met. -/
structure BitState where
  offset : Nat
  held : UInt64 := 0
  count : Nat := 0
  mark : Option UInt8 := none
  /-- Whether zeros have been put in place of bits behind a mark. -/
  isShort : Bool := false
  deriving Inhabited

namespace BitState

/-- The number of bits that there are after bytes have been taken. -/
def enough : Nat := 57

/-- The byte behind bytes of 255, and the offset after it. -/
def afterFill (data : ByteArray) : Nat → Nat → Option (UInt8 × Nat)
  | 0, _ => none
  | fuel + 1, offset =>
    match data[offset]? with
    | none => none
    | some 255 => afterFill data fuel (offset + 1)
    | some b => some (b, offset + 1)

/-- Puts zeros behind the bits if so many are needed. -/
def pad (s : BitState) (needed : Nat) : BitState :=
  if needed ≤ s.count then s
  else { s with
    held := s.held <<< UInt64.ofNat (enough - s.count)
    count := enough
    isShort := true }

/-- Takes bytes until there are enough bits, given the count of those that are needed now. There is
nothing if the data end. -/
def fill (data : ByteArray) (needed : Nat) : Nat → BitState → Option BitState
  | 0, s => some s
  | fuel + 1, s =>
    if enough ≤ s.count then some s
    else if s.mark.isSome then some (s.pad needed)
    else
      match data[s.offset]? with
      | none => none
      | some 255 =>
        match afterFill data (data.size + 1) (s.offset + 1) with
        | none => none
        | some (0, offset) =>
          fill data needed fuel
            { s with offset := offset, held := s.held <<< 8 ||| 255, count := s.count + 8 }
        | some (mark, offset) => some ({ s with offset := offset, mark := some mark }.pad needed)
      | some b =>
        fill data needed fuel
          { s with
            offset := s.offset + 1
            held := s.held <<< 8 ||| b.toUInt64
            count := s.count + 8 }

/-- Sees to so many bits. -/
@[inline] def need (data : ByteArray) (n : Nat) (s : BitState) : Option BitState :=
  if n ≤ s.count then some s else s.fill data n 9

/-- The next bits, as a number. -/
@[inline] def peek (s : BitState) (n : Nat) : Nat :=
  (s.held >>> UInt64.ofNat (s.count - n)).toNat % (1 <<< n)

/-- Takes the next bits. -/
def bits (data : ByteArray) (n : Nat) (s : BitState) : Option (Nat × BitState) :=
  (s.need data n).map fun s => (s.peek n, { s with count := s.count - n })

/-- Takes a bit after the other until they are a code, which has at most sixteen of them. -/
def longCode (data : ByteArray) (codes : Codes) :
    Nat → Nat → Nat → BitState → Option (Nat × BitState)
  | 0, _, _, s => some (0, s)
  | fuel + 1, length, code, s =>
    if (code : Int) ≤ codes.last.getD length (-1) then
      some (codes.symbols.getD ((code : Int) + codes.place.getD length 0).toNat 0, s)
    else if 16 ≤ length then (s.bits data 1).map fun (_, s) => (0, s)
    else
      match s.bits data 1 with
      | none => none
      | some (b, s) => longCode data codes fuel (length + 1) (2 * code + b) s

/-- The length of the code that the next eight bits begin with, if it is no longer. -/
def shortLength? (codes : Codes) (ahead : Nat) : Nat → Nat → Option Nat
  | 0, _ => none
  | fuel + 1, length =>
    if ((ahead >>> (8 - length) : Nat) : Int) ≤ codes.last.getD length (-1) then some length
    else shortLength? codes ahead fuel (length + 1)

/-- Takes the next code, and gives its symbol. -/
def symbol (data : ByteArray) (codes : Codes) (s : BitState) : Option (Nat × BitState) :=
  match if s.count < 8 then s.fill data 0 9 else some s with
  | none => none
  | some s =>
    let long (n : Nat) : Option (Nat × BitState) :=
      match s.bits data n with
      | none => none
      | some (code, s) => longCode data codes 17 n code s
    if s.count < 8 then long 1
    else
      let ahead := s.peek 8
      match shortLength? codes ahead 8 1 with
      | some length =>
        let code := ahead >>> (8 - length)
        some (codes.symbols.getD ((code : Int) + codes.place.getD length 0).toNat 0,
          { s with count := s.count - length })
      | none => long 9

/-- Takes a number of so many bits. The lower half of them stands for negative numbers. -/
def number (data : ByteArray) (n : Nat) (s : BitState) : Option (Int × BitState) :=
  if n = 0 then some (0, s)
  else
    (s.bits data n).map fun (value, s) =>
      (if value < 1 <<< (n - 1) then (value : Int) + 1 - (1 <<< n : Nat) else value, s)

end BitState

/-! ## Writing bits -/

/-- The bytes written, and the bits that do not fill a byte yet. -/
structure BitWriter where
  out : ByteArray := .empty
  held : Nat := 0
  count : Nat := 0

namespace BitWriter

/-- Writes whole bytes. A byte of 255 is followed by a zero. -/
def flush : Nat → BitWriter → BitWriter
  | 0, w => w
  | fuel + 1, w =>
    if w.count < 8 then w
    else
      let b := UInt8.ofNat (w.held >>> (w.count - 8))
      let out := w.out.push b
      flush fuel ⟨if b = 255 then out.push 0 else out, w.held % (1 <<< (w.count - 8)), w.count - 8⟩

/-- Writes a number of so many bits. -/
def push (w : BitWriter) (n value : Nat) : BitWriter :=
  flush 4 { w with held := w.held <<< n + value, count := w.count + n }

/-- The bytes with the last one filled with ones. -/
def finish (w : BitWriter) : ByteArray :=
  (if w.count = 0 then w else w.push (8 - w.count) ((1 <<< (8 - w.count)) - 1)).out

end BitWriter

end SceneScript.Jpeg
