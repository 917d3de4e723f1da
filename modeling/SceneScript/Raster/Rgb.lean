import SceneScript.Fault
import SceneScript.Word

/-!
# Colours

A colour is three bytes. The settings of a scene give it as three integers. Those of a background
must be bytes (`Rgb.Parts.fill`); those of a line must be words, and count modulo 256
(`Rgb.Parts.ink`).
-/

namespace SceneScript

/-- A colour of the screen. -/
structure Rgb where
  red : UInt8
  green : UInt8
  blue : UInt8
  deriving Repr, DecidableEq, Inhabited

/-- The parts of a colour as integers. -/
structure Rgb.Parts where
  red : Int
  green : Int
  blue : Int
  deriving Repr, DecidableEq, Inhabited

namespace Rgb

/-- White. -/
def white : Rgb := ⟨255, 255, 255⟩

/-- Black. -/
def black : Rgb := ⟨0, 0, 0⟩

namespace Parts

/-- The parts of a colour. -/
def ofRgb (c : Rgb) : Parts := ⟨c.red.toNat, c.green.toNat, c.blue.toNat⟩

/-- The byte that an integer is. -/
def byte (n : Int) : Except Fault UInt8 :=
  if !isWord n then .error .partNotWord
  else if n < 0 ∨ 255 < n then .error (.partNotByte n)
  else .ok (UInt8.ofNat n.toNat)

/-- The colour of a background. Its first part that is no byte is its fault. -/
def fill (p : Parts) : Except Fault Rgb := do
  pure ⟨← byte p.red, ← byte p.green, ← byte p.blue⟩

/-- The lowest byte of a word. -/
def lowByte (n : Int) : Except Fault UInt8 :=
  if isWord n then .ok (UInt8.ofNat (n % 256).toNat) else .error .fieldTooLarge

/-- The colour of a line. -/
def ink (p : Parts) : Except Fault Rgb := do
  pure ⟨← lowByte p.red, ← lowByte p.green, ← lowByte p.blue⟩

end Parts

end Rgb

end SceneScript
