import Mathlib.Algebra.Order.Field.Rat
import Mathlib.Tactic
import SceneScript.Scalar

/-!
# Cells along a stretch of numbers

A stretch from one number to another is walked in equal parts, and each number on the way is rounded
to its nearest cell (`cellAlong`). The parts are counted by the rounded ends, while the walk runs
between the ends themselves. It is still exact: a number on the way is where a walk between the
rounded ends would be, up to half a cell (`exists_offset`). So with as many parts as the rounded
ends are apart each part ends in the next cell (`cellAlong_part`), with more no part passes over a
cell (`cellAlong_sub_le_one`), and two stretches that are walked together come near all that they
pass (`exists_part_near`).
-/

namespace SceneScript

open Scalar (nearest)

section
variable {u v : ℚ} {n : ℤ}

/-- The nearest cell is the whole part of what is half a cell further. -/
theorem nearest_eq_floor (v : ℚ) : nearest v = ⌊v + 1 / 2⌋ := by
  show Rat.floor (((v + 1 / (1 + 1)).floor : ℤ) : ℚ) = _
  rw [Rat.floor_intCast]
  norm_num
  rfl

/-- A number is nearest to the cells that are at most half a cell below it. -/
theorem le_nearest_iff : n ≤ nearest v ↔ (n : ℚ) - 1 / 2 ≤ v := by
  rw [nearest_eq_floor, Int.le_floor, sub_le_iff_le_add]

/-- A number is nearest to the cells that are less than half a cell above it. -/
theorem nearest_le_iff : nearest v ≤ n ↔ v < (n : ℚ) + 1 / 2 := by
  rw [nearest_eq_floor, Int.floor_le_iff]
  constructor <;> intro h <;> linarith

/-- The numbers that are nearest to a cell. -/
theorem nearest_eq_iff : nearest v = n ↔ (n : ℚ) - 1 / 2 ≤ v ∧ v < n + 1 / 2 := by
  rw [← le_nearest_iff, ← nearest_le_iff]
  omega

/-- How far a number is from its nearest cell. -/
theorem nearest_bounds (v : ℚ) : -(1 / 2) ≤ v - nearest v ∧ v - nearest v < 1 / 2 := by
  obtain ⟨h₀, h₁⟩ := nearest_eq_iff.1 (rfl : nearest v = nearest v)
  constructor <;> linarith

/-- The nearest cells are in the order of the numbers. -/
theorem nearest_mono (h : u ≤ v) : nearest u ≤ nearest v :=
  le_nearest_iff.2 ((le_nearest_iff.1 le_rfl).trans h)

/-- Numbers that are at most one apart are nearest to the same cell or to neighbours. -/
theorem nearest_sub_le_one (h : |u - v| ≤ 1) : |nearest u - nearest v| ≤ 1 := by
  obtain ⟨hl, hr⟩ := abs_le.1 h
  have hv := nearest_bounds v
  rw [abs_le]
  constructor
  · have : nearest v - 1 ≤ nearest u := le_nearest_iff.2 (by push_cast; linarith)
    omega
  · have : nearest u ≤ nearest v + 1 := nearest_le_iff.2 (by push_cast; linarith)
    omega

end

/-- The cell of the number that divides a stretch in the ratio of `t` to `1 - t`. -/
def cellAlong (a b t : ℚ) : Int := nearest (a + t * (b - a))

section
variable {a b s t : ℚ} {N i : ℕ} {k σ : ℤ}

theorem cellAlong_zero : cellAlong a b 0 = nearest a := by
  rw [cellAlong, zero_mul, add_zero]

theorem cellAlong_one : cellAlong a b 1 = nearest b := by
  rw [cellAlong, one_mul, add_sub_cancel]

/-- The cells of an upward stretch go upwards. -/
theorem monotone_cellAlong (h : a ≤ b) : Monotone (cellAlong a b) := fun s t hst =>
  nearest_mono (by nlinarith [mul_le_mul_of_nonneg_right hst (sub_nonneg.2 h)])

/-- The cells of a downward stretch go downwards. -/
theorem antitone_cellAlong (h : b ≤ a) : Antitone (cellAlong a b) := fun s t hst =>
  nearest_mono (by nlinarith [mul_le_mul_of_nonpos_right hst (sub_nonpos.2 h)])

/-- A number on the way is where a walk between the rounded ends would be, up to half a cell. -/
theorem exists_offset (h₀ : 0 ≤ t) (h₁ : t ≤ 1) : ∃ g : ℚ, -(1 / 2) ≤ g ∧ g < 1 / 2 ∧
    a + t * (b - a) = nearest a + t * (nearest b - nearest a : ℤ) + g := by
  obtain ⟨ha₀, ha₁⟩ := nearest_bounds a
  obtain ⟨hb₀, hb₁⟩ := nearest_bounds b
  have h₂ : 0 ≤ 1 - t := by linarith
  -- the offset is between those of the two ends
  refine ⟨(1 - t) * (a - nearest a) + t * (b - nearest b), ?_, ?_, by push_cast; ring⟩
  · calc -(1 / 2) = (1 - t) * -(1 / 2) + t * -(1 / 2) := by ring
      _ ≤ (1 - t) * (a - nearest a) + t * (b - nearest b) := by gcongr
  · have hmax : max (a - nearest a) (b - nearest b) < 1 / 2 := max_lt ha₁ hb₁
    calc (1 - t) * (a - nearest a) + t * (b - nearest b)
        ≤ (1 - t) * max (a - nearest a) (b - nearest b) +
            t * max (a - nearest a) (b - nearest b) := by
          gcongr
          · exact le_max_left _ _
          · exact le_max_right _ _
      _ = max (a - nearest a) (b - nearest b) := by ring
      _ < 1 / 2 := hmax

/-- Where a walk between the rounded ends would be in a cell, the walk between the ends is in that
cell. -/
theorem cellAlong_of_whole (h₀ : 0 ≤ t) (h₁ : t ≤ 1)
    (h : t * (nearest b - nearest a : ℤ) = k) : cellAlong a b t = nearest a + k := by
  obtain ⟨g, hg₀, hg₁, heq⟩ := exists_offset (a := a) (b := b) h₀ h₁
  rw [cellAlong, heq, h, nearest_eq_iff]
  push_cast
  constructor <;> linarith

/-- Between two numbers that are nearest to one cell every number is nearest to it. -/
theorem cellAlong_of_nearest_eq (h₀ : 0 ≤ t) (h₁ : t ≤ 1) (h : nearest a = nearest b) :
    cellAlong a b t = nearest a := by
  rw [cellAlong_of_whole h₀ h₁ (k := 0) (by rw [h]; simp), add_zero]

/-- A whole number is its magnitude in one of two directions. -/
theorem exists_direction (h : |k| = N) : ∃ σ : ℤ, (σ = 1 ∨ σ = -1) ∧ k = σ * N := by
  rcases abs_eq (Int.natCast_nonneg N) |>.1 h with rfl | rfl
  · exact ⟨1, .inl rfl, (one_mul _).symm⟩
  · exact ⟨-1, .inr rfl, (neg_one_mul _).symm⟩

/-- A part of a walk is part of the walk. -/
theorem part_mem_unit (hi : i ≤ N) : 0 ≤ (i : ℚ) / N ∧ (i : ℚ) / N ≤ 1 :=
  ⟨by positivity, div_le_one_of_le₀ (by exact_mod_cast hi) (by positivity)⟩

/-- With as many parts as the rounded ends are apart each part ends in the next cell. -/
theorem cellAlong_part (hN : 0 < N) (hgap : nearest b - nearest a = σ * N) (hi : i ≤ N) :
    cellAlong a b (i / N) = nearest a + σ * i := by
  obtain ⟨h₀, h₁⟩ := part_mem_unit hi
  refine cellAlong_of_whole h₀ h₁ ?_
  rw [hgap]
  push_cast
  field_simp

/-- A stretch is longer or shorter than its rounded ends are apart by less than one. -/
theorem abs_sub_lt : |b - a| < |nearest b - nearest a| + 1 := by
  obtain ⟨ha₀, ha₁⟩ := nearest_bounds a
  obtain ⟨hb₀, hb₁⟩ := nearest_bounds b
  have hoff : |b - nearest b - (a - nearest a)| < 1 := abs_lt.2 ⟨by linarith, by linarith⟩
  calc |b - a| = |((nearest b - nearest a : ℤ) : ℚ) + (b - nearest b - (a - nearest a))| := by
        congr 1
        push_cast
        ring
    _ ≤ |((nearest b - nearest a : ℤ) : ℚ)| + |b - nearest b - (a - nearest a)| := abs_add_le _ _
    _ < |nearest b - nearest a| + 1 := by
        push_cast at hoff ⊢
        linarith

/-- In a walk between rounded ends that are `N` cells apart, where a part of the way leads, up to
half a cell. -/
theorem exists_cellAlong_eq_nearest (hgap : nearest b - nearest a = σ * N) (h₀ : 0 ≤ t)
    (h₁ : t ≤ 1) : ∃ g : ℚ, -(1 / 2) ≤ g ∧ g < 1 / 2 ∧
      cellAlong a b t = nearest (nearest a + σ * (t * N) + g) := by
  obtain ⟨g, hg₀, hg₁, hpos⟩ := exists_offset (a := a) (b := b) h₀ h₁
  refine ⟨g, hg₀, hg₁, ?_⟩
  rw [cellAlong, hpos, hgap]
  congr 1
  push_cast
  ring

/-- With at least as many parts as the rounded ends are apart no number within one part of the end
of a part is further from its cell than a neighbour. -/
theorem cellAlong_sub_le_one (hN : 0 < N) (hgap : |nearest b - nearest a| ≤ N) (hi : i ≤ N)
    (h₀ : 0 ≤ t) (h₁ : t ≤ 1) (hnear : |t - i / N| ≤ 1 / N) :
    |cellAlong a b t - cellAlong a b (i / N)| ≤ 1 := by
  have hN' : (0 : ℚ) < N := by exact_mod_cast hN
  rcases hgap.eq_or_lt with heq | hlt
  · -- the end of the part is in a cell of the walk between the rounded ends
    obtain ⟨σ, hσ, hgap⟩ := exists_direction heq
    obtain ⟨g, hg₀, hg₁, hcell⟩ := exists_cellAlong_eq_nearest hgap h₀ h₁
    have hpart : |t * N - i| ≤ 1 := by
      have h : t * N - i = (t - i / N) * N := by field_simp
      rw [h, abs_mul, abs_of_pos hN']
      exact (le_div_iff₀ hN').1 hnear
    obtain ⟨hl, hr⟩ := abs_le.1 hpart
    have hlow : nearest a + σ * i - 1 ≤ cellAlong a b t := by
      rw [hcell, le_nearest_iff]
      rcases hσ with rfl | rfl <;> push_cast <;> linarith
    have hhigh : cellAlong a b t ≤ nearest a + σ * i + 1 := by
      rw [hcell, nearest_le_iff]
      rcases hσ with rfl | rfl <;> push_cast <;> linarith
    rw [cellAlong_part hN hgap hi, abs_le]
    constructor <;> linarith
  · -- a part is no longer than a cell
    have hlen : |b - a| ≤ N := by
      have h : |nearest b - nearest a| + 1 ≤ (N : ℤ) := hlt
      exact abs_sub_lt.le.trans (by exact_mod_cast h)
    refine nearest_sub_le_one ?_
    calc |a + t * (b - a) - (a + i / N * (b - a))| = |t - i / N| * |b - a| := by
          rw [← abs_mul]
          congr 1
          ring
      _ ≤ 1 / N * N := by gcongr
      _ = 1 := by field_simp

/-- With as many parts as the rounded ends are apart every number on the way shares its cell with
the end of a part that is at most one part away. -/
theorem exists_cellAlong_eq (hN : 0 < N) (hgap : |nearest b - nearest a| = N) (h₀ : 0 ≤ t)
    (h₁ : t ≤ 1) :
    ∃ i ≤ N, cellAlong a b (i / N) = cellAlong a b t ∧ |t - i / N| ≤ 1 / (N : ℚ) := by
  have hN' : (0 : ℚ) < N := by exact_mod_cast hN
  obtain ⟨σ, hσ, hgap⟩ := exists_direction hgap
  obtain ⟨g, hg₀, hg₁, hcell⟩ := exists_cellAlong_eq_nearest hgap h₀ h₁
  have ht₀ : 0 ≤ t * N := by positivity
  have ht₁ : t * N ≤ N := mul_le_of_le_one_left hN'.le h₁
  -- how many cells the number has gone
  obtain ⟨i, hi, hcells⟩ : ∃ i ≤ N, cellAlong a b t = nearest a + σ * i := by
    rcases hσ with rfl | rfl
    · have hl : nearest a ≤ cellAlong a b t := by
        rw [hcell, le_nearest_iff]
        push_cast
        linarith
      have hr : cellAlong a b t ≤ nearest a + N := by
        rw [hcell, nearest_le_iff]
        push_cast
        linarith
      exact ⟨(cellAlong a b t - nearest a).toNat, by omega, by omega⟩
    · have hl : nearest a - N ≤ cellAlong a b t := by
        rw [hcell, le_nearest_iff]
        push_cast
        linarith
      have hr : cellAlong a b t ≤ nearest a := by
        rw [hcell, nearest_le_iff]
        push_cast
        linarith
      exact ⟨(nearest a - cellAlong a b t).toNat, by omega, by omega⟩
  refine ⟨i, hi, (cellAlong_part hN hgap hi).trans hcells.symm, ?_⟩
  rw [hcell, nearest_eq_iff] at hcells
  have hpart : |t * N - i| ≤ 1 := by
    rw [abs_le]
    rcases hσ with rfl | rfl <;> push_cast at hcells <;> constructor <;>
      linarith [hcells.1, hcells.2]
  have h : t - i / N = (t * N - i) / N := by field_simp
  rw [h, abs_div, abs_of_pos hN']
  gcongr

/-- Where two stretches are walked together, with as many parts as the rounded ends of the one are
apart and no fewer than those of the other are, there is for every moment the end of a part that is
in the same cell of the one and not beyond a neighbour in the other. -/
theorem exists_part_near {c d : ℚ} (hN : 0 < N) (hgap : |nearest b - nearest a| = N)
    (hother : |nearest d - nearest c| ≤ N) (h₀ : 0 ≤ t) (h₁ : t ≤ 1) : ∃ i ≤ N,
      cellAlong a b (i / N) = cellAlong a b t ∧
        |cellAlong c d (i / N) - cellAlong c d t| ≤ 1 := by
  obtain ⟨i, hi, hcell, hnear⟩ := exists_cellAlong_eq hN hgap h₀ h₁
  refine ⟨i, hi, hcell, ?_⟩
  rw [abs_sub_comm]
  exact cellAlong_sub_le_one hN hother hi h₀ h₁ hnear

end

end SceneScript
