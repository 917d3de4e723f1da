import SceneScript.Storage.Rows

/-!
# Micrographs

A head of numbers with fractions, each of 32 bits, and pixels of the same kind. There is no mark in
front, so the head has to make sense: some of its numbers are integers, and its length is the
product of two of them.
-/

namespace SceneScript.Spider

/-- The integer that a fraction of 32 bits is, if it is one. -/
def integer? (bits : Nat) : Option Int :=
  let (scale, fraction) := ((bits >>> 23) % 256, bits % (1 <<< 23))
  let significand := if scale = 0 then fraction else 1 <<< 23 + fraction
  let shift := 150 - max 1 scale
  if scale = 255 ∨ significand % (1 <<< shift) ≠ 0 then none
  else
    let n := (significand >>> shift) <<< (scale - 150)
    some (if 1 <<< 31 ≤ bits then -(n : Int) else n)

/-- The number of the head with the given place, which begins at one. -/
def field? (data : ByteArray) (highFirst : Bool) (k : Nat) : Option Int :=
  integer? ((if highFirst then Bytes.highAt else Bytes.lowAt) data (4 * (k - 1)) 4)

/-- The kinds of data. -/
def kinds : List Int := [1, 3, -11, -12, -21, -22]

/-- The length of the head, if it makes sense. -/
def headSize? (data : ByteArray) (highFirst : Bool) : Option Int := do
  let field (k : Nat) : Option Int := field? data highFirst k
  let all ← [1, 2, 5, 12, 13, 22, 23].mapM field
  let kind ← field 5
  let (records, size, length) := (← field 13, ← field 22, ← field 23)
  if all.isEmpty || !kinds.contains kind || size ≠ records * length || size = 0 then none
  else some size

/-- The picture in data, if they are a micrograph. -/
def decode (data : ByteArray) : Reading := OptionT.run do
  Attempt.require (108 ≤ data.size)
  let (highFirst, size) ← Attempt.ofOption
    (((headSize? data true).map (true, ·)).orElse fun _ => (headSize? data false).map (false, ·))
  let field (k : Nat) : Int := (field? data highFirst k).getD 0
  let (stack, number) := (field 24, field 27)
  Attempt.require (field 5 == 1 && 0 < field 12 && 0 < field 2 && 0 < size)
  Attempt.require (number == 0 && 0 ≤ stack)
  let size := size.toNat
  let layout : Layout := .wide 4 fun byte =>
    let part (k : Nat) : Nat := byte (if highFirst then 3 - k else k)
    Rgb.ofSingle (part 0 + 256 * (part 1 + 256 * (part 2 + 256 * part 3)))
  ({ offset := if stack = 0 then size else 2 * size, width := (field 12).toNat,
      height := (field 2).toNat } : Rows).attempt layout data

end SceneScript.Spider
