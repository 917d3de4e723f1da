import SceneScript.Proofs.Raster.Clipping

/-!
# What a cut changes in the picture

A segment that is cut is stepped along from the new ends, so its points are taken at other places
than those of the whole segment, and a point between two rows or columns may fall on either
(`Segment.cut_moves_cell`). That is all: a cell of the canvas that the one way of stepping meets is
a cell of the other or shares a side with one (`Segment.cut_stays_near`), because each way comes
that near to every point (`Segment.exists_stepped_near`) and the cut takes away no point that rounds
to the canvas.
-/

namespace SceneScript

open Scalar (nearest)

/-- Whether two cells are the same or share a side. -/
def Adjoin (c d : Int × Int) : Prop := |c.1 - d.1| + |c.2 - d.2| ≤ 1

instance (c d : Int × Int) : Decidable (Adjoin c d) := inferInstanceAs (Decidable (_ ≤ _))

namespace Segment

/-- The cells to which a segment passes fragments, in drawing order. -/
def cells (e : Extent) (colour : Rgb) (p q : Vec3 ℚ) : List (Int × Int) :=
  (fragments e colour p q).map Fragment.cell

/-- The cells that stepping along the whole segment meets, those outside the canvas included. -/
def wholeCells (colour : Rgb) (p q : Vec3 ℚ) : List (Int × Int) :=
  (stepped colour p q).map Fragment.cell

section
variable {e : Extent} {colour : Rgb} {p q : Vec3 ℚ} {t : ℚ}

/-- Stepping along a segment meets a cell near that of each of its points. -/
theorem exists_wholeCells_adjoin (colour : Rgb) (p q : Vec3 ℚ) (h₀ : 0 ≤ t) (h₁ : t ≤ 1) :
    ∃ c ∈ wholeCells colour p q,
      Adjoin (nearest (p.toward q t).x, nearest (p.toward q t).y) c := by
  obtain ⟨f, hf, ⟨-, hx, hy⟩ | ⟨-, hy, hx⟩⟩ := exists_stepped_near colour p q h₀ h₁
  · refine ⟨f.cell, List.mem_map_of_mem hf, ?_⟩
    show |cellAlong p.x q.x t - f.x| + |cellAlong p.y q.y t - f.y| ≤ 1
    rwa [hx, sub_self, abs_zero, zero_add, abs_sub_comm]
  · refine ⟨f.cell, List.mem_map_of_mem hf, ?_⟩
    show |cellAlong p.x q.x t - f.x| + |cellAlong p.y q.y t - f.y| ≤ 1
    rwa [hy, sub_self, abs_zero, add_zero, abs_sub_comm]

/-- Stepping along a segment with its rounded ends in one row or in one column meets the cell of
each of its points. -/
theorem mem_wholeCells (colour : Rgb) (h₀ : 0 ≤ t) (h₁ : t ≤ 1)
    (h : nearest p.x = nearest q.x ∨ nearest p.y = nearest q.y) :
    (nearest (p.toward q t).x, nearest (p.toward q t).y) ∈ wholeCells colour p q := by
  obtain ⟨f, hf, hx, hy⟩ := exists_stepped_at colour h₀ h₁ h
  exact List.mem_map.2 ⟨f, hf, Prod.ext hx hy⟩

/-- Each cell that stepping meets is that of a point. -/
theorem exists_of_mem_wholeCells {c : Int × Int} (hc : c ∈ wholeCells colour p q) :
    ∃ t, 0 ≤ t ∧ t ≤ 1 ∧ c = (nearest (p.toward q t).x, nearest (p.toward q t).y) := by
  obtain ⟨f, hf, rfl⟩ := List.mem_map.1 hc
  obtain ⟨t, h₀, h₁, hx, hy, -⟩ := exists_of_mem_stepped hf
  exact ⟨t, h₀, h₁, Prod.ext hx hy⟩

/-- Each cell that a segment meets is that of a point. -/
theorem exists_of_mem_cells {c : Int × Int} (hc : c ∈ cells e colour p q) :
    ∃ t, 0 ≤ t ∧ t ≤ 1 ∧ c = (nearest (p.toward q t).x, nearest (p.toward q t).y) := by
  obtain ⟨f, hf, rfl⟩ := List.mem_map.1 hc
  obtain ⟨t, ht, hx, hy, -⟩ := exists_of_mem_fragments hf
  obtain ⟨⟨h₀, h₁⟩, -⟩ := (contains_clip e p q t).1 ht
  exact ⟨t, h₀, h₁, Prod.ext hx hy⟩

/-- The cells of a segment are those that stepping along the part that is left of it meets. -/
theorem cells_eq (h : (clip e p q).start ≤ (clip e p q).stop) : cells e colour p q =
    wholeCells colour (p.toward q (clip e p q).start) (p.toward q (clip e p q).stop) := by
  rw [cells, fragments_eq h, wholeCells]

/-- A point that is left of a segment is a point of the part that is left. -/
theorem exists_toward_eq (ht : (clip e p q).Contains t) : ∃ r, 0 ≤ r ∧ r ≤ 1 ∧
    (p.toward q (clip e p q).start).toward (p.toward q (clip e p q).stop) r = p.toward q t := by
  obtain ⟨h₀, h₁⟩ := ht
  rcases (h₀.trans h₁).eq_or_lt with heq | hlt
  · refine ⟨0, le_rfl, zero_le_one, ?_⟩
    rw [Vec3.toward_zero, le_antisymm h₀ (h₁.trans_eq heq.symm)]
  · refine ⟨(t - (clip e p q).start) / ((clip e p q).stop - (clip e p q).start),
      div_nonneg (by linarith) (by linarith), (div_le_one (by linarith)).2 (by linarith), ?_⟩
    rw [Vec3.toward_toward, div_mul_cancel₀ _ (by linarith), add_sub_cancel]

/-- The part that is left of a segment with its rounded ends in one row or in one column has its
rounded ends there too. -/
theorem nearest_ends_eq (h : (clip e p q).start ≤ (clip e p q).stop)
    (heq : nearest p.x = nearest q.x ∨ nearest p.y = nearest q.y) :
    nearest (p.toward q (clip e p q).start).x = nearest (p.toward q (clip e p q).stop).x ∨
      nearest (p.toward q (clip e p q).start).y = nearest (p.toward q (clip e p q).stop).y := by
  obtain ⟨h₀, h₁⟩ := clip_mem_unit h
  have hcells : ∀ {a b : ℚ}, nearest a = nearest b →
      cellAlong a b (clip e p q).start = cellAlong a b (clip e p q).stop := fun hab =>
    (cellAlong_of_nearest_eq h₀ (h.trans h₁) hab).trans
      (cellAlong_of_nearest_eq (h₀.trans h) h₁ hab).symm
  exact heq.imp hcells hcells

/-- A cell of the canvas that stepping along the whole segment meets is that of a point of the part
that is left. -/
theorem exists_left_of_mem_wholeCells {x y : Int} (hxy : e.Contains x y)
    (h : (x, y) ∈ wholeCells colour p q) : (clip e p q).start ≤ (clip e p q).stop ∧
      ∃ r, 0 ≤ r ∧ r ≤ 1 ∧ (x, y) =
        (nearest ((p.toward q (clip e p q).start).toward (p.toward q (clip e p q).stop) r).x,
          nearest ((p.toward q (clip e p q).start).toward (p.toward q (clip e p q).stop) r).y) := by
  obtain ⟨t, h₀, h₁, hcell⟩ := exists_of_mem_wholeCells h
  have ht : (clip e p q).Contains t := by
    obtain ⟨rfl, rfl⟩ := Prod.mk.inj hcell
    exact (contains_clip e p q t).2 ⟨⟨h₀, h₁⟩, hxy.withMargin⟩
  obtain ⟨r, hr₀, hr₁, hpoint⟩ := exists_toward_eq ht
  exact ⟨ht.1.trans ht.2, r, hr₀, hr₁, by rw [hpoint, hcell]⟩

/-- Of a segment with both ends over the canvas and its margin nothing is cut. -/
theorem cells_of_withMargin (colour : Rgb) (hp : e.WithMargin p) (hq : e.WithMargin q) :
    cells e colour p q = wholeCells colour p q := by
  have hstart : (clip e p q).Contains 0 :=
    (contains_clip e p q 0).2 ⟨⟨le_rfl, zero_le_one⟩, by rwa [Vec3.toward_zero]⟩
  have hstop : (clip e p q).Contains 1 :=
    (contains_clip e p q 1).2 ⟨⟨zero_le_one, le_rfl⟩, by rwa [Vec3.toward_one]⟩
  have h : (clip e p q).start ≤ (clip e p q).stop := hstart.1.trans hstart.2
  obtain ⟨h₀, h₁⟩ := clip_mem_unit h
  rw [cells_eq h, le_antisymm hstart.1 h₀, le_antisymm h₁ hstop.2, Vec3.toward_zero,
    Vec3.toward_one]

/-- A cut changes cells by one at most. The cells of the canvas that a segment meets are those that
stepping along the whole segment meets, if both ends are over the canvas and its margin, so that
nothing is cut, or if the rounded ends are in one row or in one column. In any case each cell of the
canvas that is met in the one way is met in the other, or shares a side with a cell that is. -/
theorem cut_stays_near (e : Extent) (colour : Rgb) (p q : Vec3 ℚ) :
    (e.WithMargin p ∧ e.WithMargin q → cells e colour p q = wholeCells colour p q) ∧
    (nearest p.x = nearest q.x ∨ nearest p.y = nearest q.y → ∀ x y, e.Contains x y →
      ((x, y) ∈ cells e colour p q ↔ (x, y) ∈ wholeCells colour p q)) ∧
    (∀ x y, e.Contains x y → (x, y) ∈ cells e colour p q →
      ∃ c ∈ wholeCells colour p q, Adjoin (x, y) c) ∧
    ∀ x y, e.Contains x y → (x, y) ∈ wholeCells colour p q →
      ∃ c ∈ cells e colour p q, Adjoin (x, y) c := by
  refine ⟨fun ⟨hp, hq⟩ => cells_of_withMargin colour hp hq,
    fun heq x y hxy => ⟨fun h => ?_, fun h => ?_⟩, fun x y _ h => ?_, fun x y hxy h => ?_⟩
  · obtain ⟨t, h₀, h₁, hcell⟩ := exists_of_mem_cells h
    rw [hcell]
    exact mem_wholeCells colour h₀ h₁ heq
  · obtain ⟨hpart, r, h₀, h₁, hcell⟩ := exists_left_of_mem_wholeCells hxy h
    rw [hcell, cells_eq hpart]
    exact mem_wholeCells colour h₀ h₁ (nearest_ends_eq hpart heq)
  · obtain ⟨t, h₀, h₁, hcell⟩ := exists_of_mem_cells h
    rw [hcell]
    exact exists_wholeCells_adjoin colour p q h₀ h₁
  · obtain ⟨hpart, r, h₀, h₁, hcell⟩ := exists_left_of_mem_wholeCells hxy h
    rw [hcell, cells_eq hpart]
    exact exists_wholeCells_adjoin colour _ _ h₀ h₁

/-- A segment that leaves a canvas of three columns and two rows below. It is met in the upper row
of the column in the middle, and stepping along the whole segment meets the lower row of that
column. -/
theorem cut_moves_cell :
    Extent.Contains ⟨3, 2⟩ 1 1 ∧ (1, 1) ∈ cells ⟨3, 2⟩ .black ⟨-1, 2, 0⟩ ⟨4, -2, 0⟩ ∧
    (1, 1) ∉ wholeCells .black ⟨-1, 2, 0⟩ ⟨4, -2, 0⟩ ∧
    (1, 0) ∈ wholeCells .black ⟨-1, 2, 0⟩ ⟨4, -2, 0⟩ ∧
    (1, 0) ∉ cells ⟨3, 2⟩ .black ⟨-1, 2, 0⟩ ⟨4, -2, 0⟩ := by
  decide +kernel

end

end Segment

end SceneScript
