import SceneScript.Decimal.Fixed

/-!
# Amounts of memory

An amount of memory is written in the largest binary unit of which it has at least one, with three
digits: `7.45 GiB`, `74.5 GiB`, `745. GiB`. Amounts between a thousand units and the next unit keep
all their digits.
-/

namespace SceneScript.Decimal

/-- The binary units, each 1024 times the one before it. -/
def memoryUnits : List String := ["bytes", "KiB", "MiB", "GiB", "TiB", "PiB", "EiB"]

/-- A quotient of at least one with three digits, and with a point in any case. -/
def threeDigits (num den : Nat) : String :=
  let places := [2, 1].find? fun k => roundQuotient (num * tenTo k) den < 1000
  match places with
  | some k => withPoint k (roundQuotient (num * tenTo k) den)
  | none => withPoint 0 (roundQuotient num den) ++ "."

/-- An amount of bytes in the unit with the given number, or in the next one if it rounds to it. -/
def memoryIn (unit bytes : Nat) : String :=
  let size : Nat := 1 <<< (10 * unit)
  let unit' := if roundQuotient bytes size = 1024 then unit + 1 else unit
  threeDigits bytes (1 <<< (10 * unit')) ++ " " ++ (memoryUnits[unit']?).getD ""

/-- An amount of at least 1024 bytes. -/
def memory (bytes : Nat) : String := memoryIn (Nat.log2 bytes / 10) bytes

end SceneScript.Decimal
