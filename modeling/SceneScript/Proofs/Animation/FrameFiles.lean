import Mathlib.Data.List.Nodup
import SceneScript.Proofs.Machine
import SceneScript.Render.Run

/-!
# The files of frames

The index in the name of a frame's file has as many digits as that of the last frame, at least. So
the names of all frames are equally long and differ in their indices, and wherever the frames go
they have paths that are pairwise different (`Directives.nodup_framePaths`). A frame has a name if
the machine writes its index and the last one (`Directives.NamesFrame`), so all frames have one if
the machine writes how many they are (`Directives.namesFrame_of_lt`).
-/

namespace SceneScript

namespace Decimal

/-- Zeros in front do not change the number. -/
theorem ofDigitChars_digits (width n : Nat) :
    Nat.ofDigitChars 10 (digits width n).toList 0 = n := by
  simp [digits, Nat.ofDigitChars_append, Nat.ofDigitChars_replicate_zero]

/-- A number that is not too long is padded to the width. -/
theorem length_digits {width n : Nat} (h : (Nat.toDigits 10 n).length ≤ width) :
    (digits width n).toList.length = width := by
  simp only [digits, String.toList_ofList, List.length_append, List.length_replicate]
  omega

end Decimal

/-- A path ends with its last part, wherever that is put. -/
theorem Path.toList_suffix_join (first second : String) :
    second.toList <:+ (join first second).toList := by
  unfold join
  split
  · exact List.suffix_rfl
  · split <;> simp only [String.toList_append] <;> exact List.suffix_append _ _

namespace Directives

variable {d : Directives} {i j : Nat}

/-- The columns of the index in the name of a frame's file. -/
def columns (d : Directives) : Nat :=
  max 3 (Nat.toDigits 10 (max (d.frames - 1) 0).toNat).length

/-- The file of a frame is named by its padded index. -/
theorem toList_frameFile (d : Directives) (i : Nat) :
    (frameFile d.basename i d.frames).toList =
      d.basename.toList ++ (Decimal.digits d.columns i).toList ++ ['.', 'p', 'n', 'g'] := by
  have hi : ¬ (i : Int) < 0 := by omega
  simp [frameFile, paddedIndex, columns, hi]

/-- The index of a frame fits into its columns. -/
theorem length_index_le (hi : i < d.frames) : (Nat.toDigits 10 i).length ≤ d.columns :=
  Nat.le_trans (Decimal.length_toDigits_mono (by omega)) (Nat.le_max_right _ _)

section
variable [Machine]

/-- Whether the machine writes what is in the name of a frame's file. -/
def NamesFrame (d : Directives) (frame : Nat) : Prop :=
  Machine.writes (max (d.frames - 1) 0) = true ∧ Machine.writes frame = true

/-- A frame that can be named has the name of its file. -/
theorem NamesFrame.frameFilename_eq (h : d.NamesFrame i) :
    frameFilename d.basename i d.frames = .ok (frameFile d.basename i d.frames) := by
  rw [frameFilename, h.1, h.2]
  rfl

/-- A frame that cannot be named has none. -/
theorem frameFilename_of_not_namesFrame (h : ¬ d.NamesFrame i) :
    frameFilename d.basename i d.frames = .error .tooLong := by
  refine if_neg fun hwrites => h ?_
  rwa [Bool.and_eq_true] at hwrites

/-- The frames can be named if the machine writes the last index. -/
theorem namesFrame_iff_of_lt (hi : i < d.frames) :
    d.NamesFrame i ↔ Machine.writes (d.frames - 1) = true := by
  have hlast : max (d.frames - 1) 0 = d.frames - 1 := by omega
  rw [NamesFrame, hlast, and_iff_left_of_imp]
  exact Machine.writes_mono (by omega)

/-- The frames can be named if the machine writes how many they are. -/
theorem namesFrame_of_lt (h : Machine.writes d.frames = true) (hi : i < d.frames) :
    d.NamesFrame i := (namesFrame_iff_of_lt hi).2 (Machine.writes_mono (by omega) h)

end

/-- Frames have different paths. -/
theorem framePath_inj {directory : String} (hi : i < d.frames) (hj : j < d.frames)
    (h : d.framePath directory i = d.framePath directory j) : i = j := by
  -- both names end the same path and are equally long
  have hsuffix := Path.toList_suffix_join directory (frameFile d.basename i d.frames)
  have hsuffix' := Path.toList_suffix_join directory (frameFile d.basename j d.frames)
  rw [show Path.join directory (frameFile d.basename i d.frames) =
    Path.join directory (frameFile d.basename j d.frames) from h] at hsuffix
  have hlen : (frameFile d.basename i d.frames).toList.length =
      (frameFile d.basename j d.frames).toList.length := by
    simp only [toList_frameFile, List.length_append,
      Decimal.length_digits (length_index_le hi), Decimal.length_digits (length_index_le hj)]
  have hends := List.suffix_of_suffix_length_le hsuffix hsuffix' (Nat.le_of_eq hlen)
  have hname := hends.eq_of_length hlen
  simp only [toList_frameFile, List.append_cancel_right_eq, List.append_cancel_left_eq] at hname
  rw [← Decimal.ofDigitChars_digits _ i, hname, Decimal.ofDigitChars_digits]

/-- The paths of the frames are pairwise different. -/
theorem nodup_framePaths (d : Directives) (directory : String) :
    ((List.range d.frames.toNat).map fun f => d.framePath directory f).Nodup := by
  refine List.Nodup.map_on ?_ List.nodup_range
  intro i hi j hj h
  rw [List.mem_range] at hi hj
  exact framePath_inj (by omega) (by omega) h

end Directives

end SceneScript
