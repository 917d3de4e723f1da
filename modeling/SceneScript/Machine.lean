/-!
# Machines

What scenes are computed on has bounds of its own: there is room for so many bytes, and integers of
more than so many digits are not written in decimal. A machine may be set up without the second
bound. Definitions that come to a bound take the machine as an instance.
-/

namespace SceneScript

/-- The bounds of what scenes are computed on. -/
class Machine where
  /-- The bytes that there is room for. -/
  room : Nat
  /-- There is room for a double. -/
  le_room : 8 ≤ room
  /-- A double counts the bytes. -/
  room_le : room ≤ 1 <<< 53
  /-- The digits of the longest integer that is written, if there is a bound. -/
  digits? : Option Nat
  /-- No machine has a lower bound than this. -/
  le_digits : ∀ most, digits? = some most → 640 ≤ most

namespace Machine

/-- The machine that pictures are made on. -/
instance : Machine where
  room := 1 <<< 36
  le_room := by decide
  room_le := by decide
  digits? := some 4300
  le_digits := by decide

/-- Whether an integer can be written in decimal. Its sign does not count. -/
def writes [Machine] (n : Int) : Bool :=
  match digits? with
  | some most => (Nat.toDigits 10 n.natAbs).length ≤ most
  | none => true

end Machine

end SceneScript
