import Mathlib.Data.List.Basic
import Mathlib.Tactic.SplitIfs
import SceneScript.Storage.FileSystem

/-!
# The characters of a path

Taking a path apart at its slashes and putting it together again keeps all characters but slashes
and dots (`Path.mem_tidy`). So a path that holds the character that no path may hold does so when it
has been tidied (`FileSystem.hasNul_tidy`), and behind another path (`FileSystem.hasNul_join`).
-/

namespace SceneScript

namespace Path

variable {c : Char} {cs : List Char} {path : String}

/-- A character other than a slash is in one of the components between slashes. -/
theorem mem_splitSlashes (hc : c ≠ '/') : (∃ part ∈ splitSlashes cs, c ∈ part) ↔ c ∈ cs := by
  induction cs with
  | nil => simp [splitSlashes]
  | cons d cs ih =>
    rw [splitSlashes, List.mem_cons, ← ih]
    split
    · next hd => simp [hd, hc]
    · split
      · next h => simp [h]
      · next part more h => simp [h, or_assoc]

/-- A character other than a slash is in one of the components of the path. -/
theorem mem_components (hc : c ≠ '/') :
    (∃ part ∈ components path, c ∈ part.toList) ↔ c ∈ path.toList := by
  rw [components, ← mem_splitSlashes hc]
  simp

/-- A character that is not in the separator is in one of the parts that are put together. -/
theorem mem_intercalate {sep : List Char} {parts : List (List Char)} (hc : c ∉ sep) :
    c ∈ sep.intercalate parts ↔ ∃ part ∈ parts, c ∈ part := by
  induction parts with
  | nil => simp [List.intercalate]
  | cons part parts ih =>
    cases parts with
    | nil => simp [List.intercalate]
    | cons part' parts =>
      rw [List.exists_mem_cons_iff, ← ih]
      simp [List.intercalate, hc]

/-- A path that is tidied keeps its characters but for slashes and dots. -/
theorem mem_tidy (hslash : c ≠ '/') (hdot : c ≠ '.') :
    c ∈ (tidy path).toList ↔ c ∈ path.toList := by
  have hkept : c ∈ ("/".intercalate ((components path).filter fun part =>
      part != "" && part != ".")).toList ↔ c ∈ path.toList := by
    rw [String.toList_intercalate, mem_intercalate (by simpa using hslash), ← mem_components hslash]
    constructor
    · rintro ⟨_, hpart, hc⟩
      obtain ⟨part, hkeep, rfl⟩ := List.mem_map.1 hpart
      exact ⟨part, (List.mem_filter.1 hkeep).1, hc⟩
    · rintro ⟨part, hpart, hc⟩
      refine ⟨_, List.mem_map.2 ⟨part, List.mem_filter.2 ⟨hpart, ?_⟩, rfl⟩, hc⟩
      have hempty : part ≠ "" := by rintro rfl; simp at hc
      have hhere : part ≠ "." := by rintro rfl; simp [hdot] at hc
      simp [hempty, hhere]
  rw [← hkept, tidy]
  generalize "/".intercalate _ = text
  split
  · simp [hslash]
  · simp [hslash]
  · simp [hslash]
  · split
    · next htext =>
      rw [String.isEmpty_iff.1 htext]
      simp [hdot]
    · rfl

end Path

namespace FileSystem

/-- A path holds the character that no path may hold exactly if it does so when it is tidied. -/
theorem hasNul_tidy {path : String} : hasNul (Path.tidy path) = hasNul path := by
  simp only [hasNul, List.contains_eq_mem, Path.mem_tidy (by decide : '\x00' ≠ '/') (by decide)]

/-- A path behind another holds what it holds by itself. -/
theorem hasNul_join {first second : String} (h : hasNul second = true) :
    hasNul (Path.join first second) = true := by
  simp only [hasNul, List.contains_eq_mem, decide_eq_true_eq] at h ⊢
  unfold Path.join
  split_ifs <;> simp [h]

end FileSystem

end SceneScript
