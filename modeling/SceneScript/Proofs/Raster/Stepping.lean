import SceneScript.Proofs.Raster.Coverage
import SceneScript.Proofs.Raster.Rounding
import SceneScript.Raster.Segment

/-!
# Stepping along a segment

A segment that is not cut is stepped along in as many parts as its rounded ends are apart on the
axis on which they are further apart (`Segment.steps_eq`, `Segment.stepped_eq`). On that axis the
cells count up or down by one (`countsFrom_parts`), on the other they go one way and pass over none
(`drifts_parts`). So the fragments come near every point of the segment: its cell has a fragment in
its own column or row, in the same cell or in a neighbour (`Segment.exists_stepped_near`).
-/

namespace SceneScript

open Scalar (nearest)

/-! ## Rows and columns on the way -/

/-- Whether coordinates of cells count up, or down, by one from the given one. -/
def CountsFrom (start : Int) (cells : List Int) : Prop :=
  ∃ σ : Int, (σ = 1 ∨ σ = -1) ∧ ∀ i (h : i < cells.length), cells[i] = start + σ * i

/-- Whether coordinates of cells go one way, and no further than to the next with each step. -/
def Drifts (cells : List Int) : Prop :=
  ∃ σ : Int, (σ = 1 ∨ σ = -1) ∧
    ∀ i (h : i + 1 < cells.length), cells[i + 1] = cells[i] ∨ cells[i + 1] = cells[i] + σ

/-- The cells at the ends of the parts of a stretch, its start included. -/
def partCells (a b : ℚ) (N : ℕ) : List Int :=
  (List.range (N + 1)).map fun (i : ℕ) => cellAlong a b (i / N)

section
variable {a b : ℚ} {N i : ℕ}

theorem length_partCells : (partCells a b N).length = N + 1 := by
  simp [partCells]

theorem getElem_partCells (h : i < (partCells a b N).length) :
    (partCells a b N)[i] = cellAlong a b (i / N) := by
  simp [partCells]

/-- With as many parts as the rounded ends are apart each part leads to the next cell. -/
theorem countsFrom_parts (hN : 0 < N) (hgap : |nearest b - nearest a| = N) :
    CountsFrom (nearest a) (partCells a b N) := by
  obtain ⟨σ, hσ, hgap⟩ := exists_direction hgap
  refine ⟨σ, hσ, fun i hi => ?_⟩
  rw [length_partCells] at hi
  rw [getElem_partCells, cellAlong_part hN hgap (by omega)]

/-- With no fewer parts than the rounded ends are apart each part stays or leads to the next cell,
always the same way. -/
theorem drifts_parts (hN : 0 < N) (hgap : |nearest b - nearest a| ≤ N) :
    Drifts (partCells a b N) := by
  have hN' : (0 : ℚ) < N := by exact_mod_cast hN
  have hle : ∀ i : ℕ, (i : ℚ) / N ≤ (i + 1 : ℕ) / N := fun i => by
    gcongr
    omega
  have hstep : ∀ i, i + 1 < (partCells a b N).length →
      |cellAlong a b ((i + 1 : ℕ) / N) - cellAlong a b (i / N)| ≤ 1 := by
    intro i hi
    rw [length_partCells] at hi
    obtain ⟨h₀, h₁⟩ := part_mem_unit (N := N) (i := i + 1) (by omega)
    refine cellAlong_sub_le_one hN hgap (by omega) h₀ h₁ ?_
    rw [div_sub_div_same, Nat.cast_succ, add_sub_cancel_left, abs_of_pos (by positivity)]
  rcases le_total a b with hab | hab
  · refine ⟨1, .inl rfl, fun i hi => ?_⟩
    have hmono := monotone_cellAlong hab (hle i)
    have hi := abs_le.1 (hstep i hi)
    rw [getElem_partCells, getElem_partCells]
    omega
  · refine ⟨-1, .inr rfl, fun i hi => ?_⟩
    have hanti := antitone_cellAlong hab (hle i)
    have hi := abs_le.1 (hstep i hi)
    rw [getElem_partCells, getElem_partCells]
    omega

end

namespace Segment

section
variable {colour : Rgb} {p q : Vec3 ℚ} {N : ℕ} {t : ℚ}

/-- The distance of two cells is that of their coordinates. -/
theorem distance_eq (a b : Int) : distance a b = |b - a| := by
  show (if b - a < 0 then -(b - a) else b - a) = _
  split
  · next h => rw [abs_of_neg h]
  · next h => rw [abs_of_nonneg (not_lt.1 h)]

/-- The number of steps is the distance of the rounded ends on the axis on which it is greater. -/
theorem steps_eq (p q : Vec3 ℚ) :
    steps p q = max |nearest q.x - nearest p.x| |nearest q.y - nearest p.y| := by
  rw [steps, distance_eq, distance_eq]

/-- A fragment falls on the cell of its point and has the depth of it. -/
theorem fragmentAt_eq (colour : Rgb) (p q : Vec3 ℚ) (t : ℚ) :
    fragmentAt colour p q t =
      ⟨cellAlong p.x q.x t, cellAlong p.y q.y t, (p.toward q t).z, colour⟩ := rfl

/-- Without a step the rounded ends are in one cell. -/
theorem nearest_eq_of_steps_zero (h : steps p q = 0) :
    nearest p.x = nearest q.x ∧ nearest p.y = nearest q.y := by
  rw [steps_eq] at h
  have hx := abs_nonpos_iff.1 ((le_max_left _ _).trans_eq h)
  have hy := abs_nonpos_iff.1 ((le_max_right _ _).trans_eq h)
  omega

/-- A segment whose rounded ends are in one cell has one fragment, in that cell. -/
theorem stepped_of_steps_zero (h : steps p q = 0) :
    stepped colour p q = [⟨nearest p.x, nearest p.y, Scalar.larger p.z q.z, colour⟩] := by
  rw [stepped_eq_map, if_pos h]

/-- A segment has a fragment at each end of its parts. -/
theorem stepped_eq (hN : 0 < N) (h : steps p q = N) :
    stepped colour p q = (List.range (N + 1)).map fun (i : ℕ) => fragmentAt colour p q (i / N) := by
  rw [stepped_eq_map, h, if_neg (by exact_mod_cast hN.ne')]
  show (List.range ((N : ℤ) + 1).toNat).map
    (fun (i : ℕ) => fragmentAt colour p q (((i : ℤ) : ℚ) / ((N : ℤ) : ℚ))) = _
  simp only [Int.cast_natCast]
  norm_cast

/-- The columns of a segment's fragments. -/
theorem map_x_stepped (hN : 0 < N) (h : steps p q = N) :
    (stepped colour p q).map Fragment.x = partCells p.x q.x N := by
  rw [stepped_eq hN h, List.map_map]
  rfl

/-- The rows of a segment's fragments. -/
theorem map_y_stepped (hN : 0 < N) (h : steps p q = N) :
    (stepped colour p q).map Fragment.y = partCells p.y q.y N := by
  rw [stepped_eq hN h, List.map_map]
  rfl

/-- There is one fragment more than steps. -/
theorem length_stepped (h : steps p q = N) : (stepped colour p q).length = N + 1 := by
  rcases Nat.eq_zero_or_pos N with rfl | hN
  · rw [stepped_of_steps_zero h, List.length_singleton]
  · rw [stepped_eq hN h, List.length_map, List.length_range]

/-- The number of steps is a natural number. -/
theorem exists_steps_eq (p q : Vec3 ℚ) : ∃ N : ℕ, steps p q = N := by
  have h : 0 ≤ steps p q := by
    rw [steps_eq]
    exact (abs_nonneg _).trans (le_max_left _ _)
  exact ⟨(steps p q).toNat, (Int.toNat_of_nonneg h).symm⟩

/-- Every fragment is that of a point of the segment. -/
theorem exists_of_mem_stepped {f : Fragment ℚ} (hf : f ∈ stepped colour p q) :
    ∃ t, 0 ≤ t ∧ t ≤ 1 ∧ f.x = cellAlong p.x q.x t ∧ f.y = cellAlong p.y q.y t ∧
      f.z = (p.toward q t).z := by
  obtain ⟨N, hsteps⟩ := exists_steps_eq p q
  rcases Nat.eq_zero_or_pos N with rfl | hN
  · rw [stepped_of_steps_zero hsteps, List.mem_singleton] at hf
    subst hf
    obtain ⟨hx, hy⟩ := nearest_eq_of_steps_zero hsteps
    -- the nearer end
    by_cases hz : p.z < q.z
    · refine ⟨1, zero_le_one, le_rfl, ?_, ?_, ?_⟩
      · rw [cellAlong_one, hx]
      · rw [cellAlong_one, hy]
      · simp [Scalar.larger, Vec3.toward, hz]
    · refine ⟨0, le_rfl, zero_le_one, ?_, ?_, ?_⟩
      · rw [cellAlong_zero]
      · rw [cellAlong_zero]
      · simp [Scalar.larger, Vec3.toward, hz]
  · rw [stepped_eq hN hsteps, List.mem_map] at hf
    obtain ⟨i, hi, rfl⟩ := hf
    obtain ⟨h₀, h₁⟩ := part_mem_unit (N := N) (i := i) (by simpa [Nat.lt_succ_iff] using hi)
    exact ⟨i / N, h₀, h₁, rfl, rfl, rfl⟩

/-- The fragments come near every point of the segment. On the axis on which its rounded ends are
further apart the cell of the point has a fragment in its own column or row, which is in the same
cell or in a neighbour. -/
theorem exists_stepped_near (colour : Rgb) (p q : Vec3 ℚ) (h₀ : 0 ≤ t) (h₁ : t ≤ 1) :
    ∃ f ∈ stepped colour p q,
      (|nearest q.y - nearest p.y| ≤ |nearest q.x - nearest p.x| ∧
        f.x = cellAlong p.x q.x t ∧ |f.y - cellAlong p.y q.y t| ≤ 1) ∨
      (|nearest q.x - nearest p.x| < |nearest q.y - nearest p.y| ∧
        f.y = cellAlong p.y q.y t ∧ |f.x - cellAlong p.x q.x t| ≤ 1) := by
  obtain ⟨N, hsteps⟩ := exists_steps_eq p q
  have hN := hsteps
  rw [steps_eq] at hN
  rcases Nat.eq_zero_or_pos N with rfl | hpos
  · -- the whole segment is in one cell
    obtain ⟨hx, hy⟩ := nearest_eq_of_steps_zero hsteps
    rw [stepped_of_steps_zero hsteps]
    refine ⟨_, List.mem_singleton_self _, .inl ⟨?_, ?_, ?_⟩⟩
    · simp [hy]
    · rw [cellAlong_of_nearest_eq h₀ h₁ hx]
    · simp [cellAlong_of_nearest_eq h₀ h₁ hy]
  · rw [stepped_eq hpos hsteps]
    have hmem : ∀ i ≤ N, fragmentAt colour p q (i / N) ∈
        (List.range (N + 1)).map fun (i : ℕ) => fragmentAt colour p q (i / N) := fun i hi =>
      List.mem_map.2 ⟨i, List.mem_range.2 (by omega), rfl⟩
    rcases le_or_gt |nearest q.y - nearest p.y| |nearest q.x - nearest p.x| with hle | hlt
    · rw [max_eq_left hle] at hN
      obtain ⟨i, hi, hx, hy⟩ := exists_part_near hpos hN (hle.trans_eq hN) h₀ h₁
      exact ⟨_, hmem i hi, .inl ⟨hle, hx, hy⟩⟩
    · rw [max_eq_right hlt.le] at hN
      obtain ⟨i, hi, hy, hx⟩ := exists_part_near hpos hN (hlt.le.trans_eq hN) h₀ h₁
      exact ⟨_, hmem i hi, .inr ⟨hlt, hy, hx⟩⟩

/-- The fragments of a segment whose rounded ends are in one row or in one column meet the cell of
every point of the segment. -/
theorem exists_stepped_at (colour : Rgb) (h₀ : 0 ≤ t) (h₁ : t ≤ 1)
    (h : nearest p.x = nearest q.x ∨ nearest p.y = nearest q.y) :
    ∃ f ∈ stepped colour p q, f.x = cellAlong p.x q.x t ∧ f.y = cellAlong p.y q.y t := by
  obtain ⟨f, hf, hnear⟩ := exists_stepped_near colour p q h₀ h₁
  obtain ⟨s, hs₀, hs₁, hx, hy, -⟩ := exists_of_mem_stepped hf
  refine ⟨f, hf, ?_⟩
  rcases hnear with ⟨hle, hfx, -⟩ | ⟨hlt, hfy, -⟩
  · have hrow : nearest p.y = nearest q.y := by
      refine h.elim (fun hcolumn => ?_) id
      rw [hcolumn, sub_self, abs_zero] at hle
      have := abs_nonpos_iff.1 hle
      omega
    rw [cellAlong_of_nearest_eq h₀ h₁ hrow, hy, cellAlong_of_nearest_eq hs₀ hs₁ hrow]
    exact ⟨hfx, rfl⟩
  · have hcolumn : nearest p.x = nearest q.x := by
      refine h.elim id fun hrow => ?_
      rw [hrow, sub_self, abs_zero] at hlt
      exact absurd hlt (abs_nonneg _).not_gt
    rw [cellAlong_of_nearest_eq h₀ h₁ hcolumn, hx, cellAlong_of_nearest_eq hs₀ hs₁ hcolumn]
    exact ⟨rfl, hfy⟩

end

end Segment

end SceneScript
