import SceneScript.Proofs.Raster.Fill

/-!
# Which cells a triangle covers

On the screen a triangle is the set of the weighted means of its corners (`Triangle.Covers`), and
its depth is that of the plane through its corners (`Triangle.planeDepth`). A triangle that is not
seen edge-on is filled with one fragment for each cell of the canvas that it covers, at the depth of
the plane (`Triangle.coverage`). No cell is met twice, whatever the triangle is
(`Triangle.nodup_cells`): the cells of a row or a column are counted upwards, and each fragment of
a row lies in that row.
-/

namespace SceneScript

/-! ## Cells of a line -/

/-- The whole numbers from one to another are counted once. -/
theorem nodup_integersFrom (a b : Int) : (integersFrom a b).Nodup :=
  List.nodup_range.map fun i j h => by
    have h : a + (i : Int) = a + (j : Int) := h
    omega

/-- The cells between two numbers are counted once. -/
theorem nodup_cellsBetween (lo hi : ℚ) (n : Nat) : (cellsBetween lo hi n).Nodup :=
  nodup_integersFrom _ _

/-- The coordinates of the cell on which a fragment falls. -/
def Fragment.cell {α : Type} (f : Fragment α) : Int × Int := (f.x, f.y)

namespace Triangle

/-- The cells to which a triangle passes fragments, in drawing order. -/
def cells (e : Extent) (colour : Rgb) (a b c : Vec3 ℚ) : List (Int × Int) :=
  (fragments e colour a b c).map Fragment.cell

/-- Whether a place of the screen belongs to the triangle with the given corners, seen from the
front. Sides and corners belong to it. -/
def Covers (a b c : Vec3 ℚ) (x y : ℚ) : Prop :=
  ∃ u v w : ℚ, 0 ≤ u ∧ 0 ≤ v ∧ 0 ≤ w ∧ u + v + w = 1 ∧
    x = u * a.x + v * b.x + w * c.x ∧ y = u * a.y + v * b.y + w * c.y

/-- The depth at a place of the screen of the plane through three points, which is orthogonal to
their normal. -/
def planeDepth (a b c : Vec3 ℚ) (x y : ℚ) : ℚ :=
  a.z - ((Vec3.normal a b c).x * (x - a.x) + (Vec3.normal a b c).y * (y - a.y)) /
    (Vec3.normal a b c).z

section
variable {a b c p : Vec3 ℚ}

/-- The plane through three points has at their weighted means the means of their depths. So it goes
through each of them. -/
theorem planeDepth_mean (harea : area a b c ≠ 0) {u v w : ℚ} (hsum : u + v + w = 1) :
    planeDepth a b c (u * a.x + v * b.x + w * c.x) (u * a.y + v * b.y + w * c.y) =
      u * a.z + v * b.z + w * c.z := by
  obtain rfl : u = 1 - v - w := by linarith
  rw [planeDepth, normal_eq]
  simp only
  rw [sub_eq_iff_eq_add, ← sub_eq_iff_eq_add', eq_div_iff harea, area]
  ring

/-- The points of a triangle are those that its plane has over the places that it covers. -/
theorem contains_iff_covers (harea : area a b c ≠ 0) :
    Contains a b c p ↔ Covers a b c p.x p.y ∧ p.z = planeDepth a b c p.x p.y := by
  constructor
  · rintro ⟨u, v, w, hu, hv, hw, hsum, rfl⟩
    exact ⟨⟨u, v, w, hu, hv, hw, hsum, rfl, rfl⟩, (planeDepth_mean harea hsum).symm⟩
  · rintro ⟨⟨u, v, w, hu, hv, hw, hsum, hx, hy⟩, hz⟩
    refine ⟨u, v, w, hu, hv, hw, hsum, ?_⟩
    rw [hx, hy, planeDepth_mean harea hsum] at hz
    rw [← hx, ← hy, ← hz]

end

section
variable {e : Extent} {colour : Rgb}

/-- The cells of a row are counted between its ends, whichever comes first. -/
theorem map_cell_span (width : ℕ) (colour : Rgb) (row : Int) (p q : ℚ × ℚ) :
    (span width colour row p q).fragments.map Fragment.cell =
      (cellsBetween (min p.1 q.1) (max p.1 q.1) width).map fun column => (column, row) := by
  rw [span_eq]
  rcases lt_or_ge q.1 p.1 with h | h
  · rw [if_pos h, min_eq_right h.le, max_eq_left h.le, List.map_map]
    rfl
  · rw [if_neg h.not_gt, min_eq_left h, max_eq_right h, List.map_map]
    rfl

/-- A triangle meets no cell twice. -/
theorem nodup_cells (a b c : Vec3 ℚ) : (cells e colour a b c).Nodup := by
  rw [cells, fragments_eq_flatMap]
  split
  next low mid high _ =>
  split
  · exact List.nodup_nil
  · rw [List.map_flatMap, List.nodup_flatMap]
    simp only [map_cell_span]
    constructor
    · intro row _
      exact (nodup_cellsBetween _ _ _).map fun i j h => (Prod.mk.inj h).1
    · -- cells of different rows have different heights
      refine (nodup_cellsBetween _ _ _).imp fun {row row'} hne => ?_
      rw [Function.onFun, List.disjoint_left]
      intro cell hcell hcell'
      obtain ⟨_, -, rfl⟩ := List.mem_map.1 hcell
      obtain ⟨_, -, h⟩ := List.mem_map.1 hcell'
      exact hne (Prod.mk.inj h).2.symm

/-- Exact coverage. In exact arithmetic a triangle that is not seen edge-on passes to the canvas one
fragment for each cell that it covers, sides and corners included, and none for another cell. The
depth of the fragment is that of the plane through the corners. -/
theorem coverage (e : Extent) (colour : Rgb) {a b c : Vec3 ℚ} (harea : area a b c ≠ 0) :
    (cells e colour a b c).Nodup ∧
    (∀ x y, (x, y) ∈ cells e colour a b c ↔ e.Contains x y ∧ Covers a b c x y) ∧
    ∀ f ∈ fragments e colour a b c, f.z = planeDepth a b c f.x f.y ∧ f.colour = colour := by
  refine ⟨nodup_cells a b c, fun x y => ?_, fun f hf => ?_⟩
  · rw [cells, List.mem_map]
    constructor
    · rintro ⟨f, hf, hcell⟩
      obtain ⟨rfl, rfl⟩ := Prod.mk.inj hcell
      obtain ⟨-, hcanvas, hcontains⟩ := (mem_fragments harea).1 hf
      exact ⟨hcanvas, ((contains_iff_covers harea).1 hcontains).1⟩
    · rintro ⟨hcanvas, hcovers⟩
      refine ⟨⟨x, y, planeDepth a b c x y, colour⟩, ?_, rfl⟩
      exact (mem_fragments harea).2 ⟨rfl, hcanvas, (contains_iff_covers harea).2 ⟨hcovers, rfl⟩⟩
  · obtain ⟨hcolour, -, hcontains⟩ := (mem_fragments harea).1 hf
    exact ⟨((contains_iff_covers harea).1 hcontains).2, hcolour⟩

end

/-- A triangle that reaches over two sides of a canvas, with a level side below. Its right side goes
through the cell `(2, 2)` and leaves the cell `(3, 1)` outside; its plane is `z = x + 1`. -/
theorem coverage_overhanging :
    area ⟨-1, 0, 0⟩ ⟨3, 0, 4⟩ ⟨1, 4, 2⟩ ≠ 0 ∧
    (cells ⟨4, 3⟩ .black ⟨-1, 0, 0⟩ ⟨3, 0, 4⟩ ⟨1, 4, 2⟩).Nodup ∧
    (2, 2) ∈ cells ⟨4, 3⟩ .black ⟨-1, 0, 0⟩ ⟨3, 0, 4⟩ ⟨1, 4, 2⟩ ∧
    (3, 1) ∉ cells ⟨4, 3⟩ .black ⟨-1, 0, 0⟩ ⟨3, 0, 4⟩ ⟨1, 4, 2⟩ ∧
    ∀ f ∈ fragments (α := ℚ) ⟨4, 3⟩ .black ⟨-1, 0, 0⟩ ⟨3, 0, 4⟩ ⟨1, 4, 2⟩, f.z = f.x + 1 := by
  have harea : area ⟨-1, 0, 0⟩ ⟨3, 0, 4⟩ ⟨1, 4, 2⟩ ≠ 0 := by norm_num [area]
  obtain ⟨hnodup, hmem, hdepth⟩ := coverage ⟨4, 3⟩ .black harea
  refine ⟨harea, hnodup, (hmem 2 2).2 ⟨by decide, 0, 1 / 2, 1 / 2, ?_⟩, fun h => ?_, fun f hf => ?_⟩
  · norm_num
  · obtain ⟨-, u, v, w, hu, hv, hw, hsum, hx, hy⟩ := (hmem 3 1).1 h
    push_cast at hx hy
    linarith
  · rw [(hdepth f hf).1, planeDepth, normal_eq]
    norm_num [area]
    ring

end Triangle

end SceneScript
