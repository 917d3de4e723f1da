import SceneScript.Fault
import SceneScript.Word

/-!
# Room

What is too large to be held. The cells of a canvas and the samples of a curve stand in blocks of
rows and columns; `Block.check` says whether there is room for one. Its sizes must be words, its
bytes must be countable in a word, and the machine must have room for them (`Machine.room`).

Evenly spaced values are counted by a double (`spacedCount`). A count that rounds to the first
double that is no word leaves none of them.
-/

namespace SceneScript

/-- Items in rows and columns. -/
structure Block where
  shape : List Int
  itemSize : Nat
  /-- What the items are called. -/
  item : String

namespace Block

/-- So many bytes times the sizes that are not zero. No size may be negative, and no product may be
more than a word. -/
def countBytes (bytes : Int) : List Int → Except Fault Int
  | [] => .ok bytes
  | n :: rest =>
    if n = 0 then countBytes bytes rest
    else if n < 0 then .error .negativeSize
    else if greatestWord < bytes * n then .error .sizeTooLarge
    else countBytes (bytes * n) rest

/-- Whether there is room for a block. -/
def check [Machine] (b : Block) : Except Fault Unit := do
  if b.shape.any (!isWord ·) then throw .sizeNotWord
  let bytes ← countBytes b.itemSize b.shape
  if (Machine.room : Int) < bytes ∧ !b.shape.contains 0 then
    throw (.noRoom (b.shape.map Int.toNat) b.itemSize b.item)

end Block

/-- The count of evenly spaced values, of which there are none if it is negative. -/
def spacedCount [Machine] (n : Int) (item : String) : Except Fault Nat := do
  if greatestWord + 1025 < n ∨ n < leastWord - 1024 then throw .countTooLarge
  else if greatestWord - 512 < n then pure 0
  else
    Block.check ⟨[max n 0], 8, item⟩
    pure n.toNat

end SceneScript
