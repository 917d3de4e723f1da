import SceneScript.Proofs.Raster.Cells
import SceneScript.Proofs.Raster.Strokes
import SceneScript.Proofs.Space.Triangle

/-!
# What filling a triangle draws

In exact arithmetic a triangle that is not seen edge-on is filled with its own points: its fragments
are the points of the triangle over the cells of the canvas, one for each such cell
(`Triangle.mem_fragments`). The rows are the cuts of the triangle at the heights of the cells
(`Triangle.mem_span`), and the cells of a row or a column are the whole numbers between its ends
(`mem_cellsBetween`).
-/

namespace SceneScript

/-! ## Cells of a line -/

/-- The whole numbers from one to another. -/
theorem mem_integersFrom {a b k : Int} : k ∈ integersFrom a b ↔ a ≤ k ∧ k ≤ b := by
  show k ∈ (List.range (b + 1 - a).toNat).map (fun (i : Nat) => a + (i : Int)) ↔ _
  simp only [List.mem_map, List.mem_range]
  constructor
  · rintro ⟨i, hi, rfl⟩
    omega
  · intro h
    exact ⟨(k - a).toNat, by omega, by omega⟩

section
variable {lo hi : ℚ} {n : Nat} {k : Int}

/-- The first cell at or after a number. -/
theorem firstCell_eq : firstCell lo = ((max lo.ceil 0 : Int) : ℚ) := by
  show (if ((lo.ceil : Int) : ℚ) < 0 then (0 : ℚ) else (lo.ceil : Int)) = _
  split
  · next h =>
    rw [max_eq_right (by exact_mod_cast h.le)]
    rfl
  · next h => rw [max_eq_left (by exact_mod_cast not_lt.1 h)]

/-- The last cell at or before a number. -/
theorem lastCell_eq : lastCell hi n = ((min hi.floor (n - 1) : Int) : ℚ) := by
  show (if (((n : Int) - 1 : Int) : ℚ) < (hi.floor : Int) then (((n : Int) - 1 : Int) : ℚ)
    else (hi.floor : Int)) = _
  split
  · next h => rw [min_eq_right (by exact_mod_cast h.le)]
  · next h => rw [min_eq_left (by exact_mod_cast not_lt.1 h)]

/-- The cells between two numbers are counted from the first cell to the last. -/
theorem cellsBetween_eq :
    cellsBetween lo hi n = integersFrom (max lo.ceil 0) (min hi.floor (n - 1)) := by
  unfold cellsBetween
  rw [firstCell_eq, lastCell_eq]
  show integersFrom (Rat.floor ((max lo.ceil 0 : Int) : ℚ))
    (Rat.floor ((min hi.floor (n - 1) : Int) : ℚ)) = _
  rw [Rat.floor_intCast, Rat.floor_intCast]

/-- The cells between two numbers are the whole numbers between them on the line. -/
theorem mem_cellsBetween : k ∈ cellsBetween lo hi n ↔
    (lo ≤ (k : ℚ) ∧ (k : ℚ) ≤ hi) ∧ 0 ≤ k ∧ k < n := by
  rw [cellsBetween_eq, mem_integersFrom, max_le_iff, le_min_iff, Rat.ceil_le_iff, Rat.le_floor_iff]
  constructor
  · rintro ⟨⟨h₁, h₃⟩, h₂, h₄⟩
    exact ⟨⟨h₁, h₂⟩, h₃, by omega⟩
  · rintro ⟨⟨h₁, h₂⟩, h₃, h₄⟩
    exact ⟨⟨h₁, h₃⟩, h₂, by omega⟩

end

/-- The point of space that a fragment shows. -/
def Fragment.place (f : Fragment ℚ) : Vec3 ℚ := ⟨f.x, f.y, f.z⟩

namespace Triangle

/-! ## Rows -/

section
variable {width : Nat} {colour : Rgb} {row : Int} {p q : Vec3 ℚ} {f : Fragment ℚ} {x z : ℚ}

/-- The points between two points of a row are those over the cells between them, at the depths that
run from the one to the other. -/
theorem between_iff_depthAt (hp : p.y = row) (hq : q.y = row) (hx : p.x ≤ q.x)
    (hpoint : p.x = q.x → p.z = q.z) :
    p.Between q ⟨x, row, z⟩ ↔ (p.x ≤ x ∧ x ≤ q.x) ∧ z = depthAt p.x p.z q.x q.z x := by
  have hdepth : depthAt p.x p.z q.x q.z x =
      if 0 < q.x - p.x then p.z + (x - p.x) / (q.x - p.x) * (q.z - p.z)
      else if q.z < p.z then p.z else q.z := rfl
  rw [hdepth]
  rcases hx.lt_or_eq with hlt | heq
  · have hpos : 0 < q.x - p.x := sub_pos.2 hlt
    rw [if_pos hpos]
    constructor
    · rintro ⟨t, h₀, h₁, h⟩
      simp only [Vec3.toward, Vec3.mk.injEq] at h
      obtain ⟨rfl, -, rfl⟩ := h
      refine ⟨⟨by nlinarith, by nlinarith⟩, ?_⟩
      rw [add_sub_cancel_left, mul_div_cancel_right₀ _ hpos.ne']
    · rintro ⟨⟨h₀, h₁⟩, rfl⟩
      refine ⟨(x - p.x) / (q.x - p.x), div_nonneg (by linarith) hpos.le,
        (div_le_one hpos).2 (by linarith), ?_⟩
      simp only [Vec3.toward, Vec3.mk.injEq, hp, hq, and_true]
      exact ⟨by field_simp; ring, by ring⟩
  · have hz := hpoint heq
    rw [if_neg (by linarith), if_neg (by linarith)]
    constructor
    · rintro ⟨t, -, -, h⟩
      simp only [Vec3.toward, Vec3.mk.injEq, heq, hz] at h
      obtain ⟨rfl, -, rfl⟩ := h
      refine ⟨⟨?_, ?_⟩, ?_⟩ <;> linarith
    · rintro ⟨⟨h₀, h₁⟩, rfl⟩
      refine ⟨0, le_refl 0, zero_le_one, ?_⟩
      simp only [Vec3.toward, Vec3.mk.injEq, hp, hz]
      refine ⟨?_, ?_, ?_⟩ <;> linarith

/-- The fragments of a row whose ends are in order are the points between them over the cells of the
canvas. -/
theorem mem_span_of_le (hp : p.y = row) (hq : q.y = row) (hx : p.x ≤ q.x)
    (hpoint : p.x = q.x → p.z = q.z) :
    f ∈ (span width colour row (p.x, p.z) (q.x, q.z)).fragments ↔
      f.colour = colour ∧ (0 ≤ f.x ∧ f.x < width) ∧ p.Between q f.place := by
  have hspan : (span width colour row (p.x, p.z) (q.x, q.z)).fragments =
      (cellsBetween p.x q.x width).map fun column =>
        ⟨column, row, depthAt p.x p.z q.x q.z (column : ℚ), colour⟩ := by
    rw [span_eq, if_neg (show ¬ q.x < p.x from not_lt.2 hx)]
  rw [hspan, List.mem_map]
  constructor
  · rintro ⟨k, hk, rfl⟩
    obtain ⟨hkx, hk⟩ := mem_cellsBetween.1 hk
    exact ⟨rfl, hk, (between_iff_depthAt hp hq hx hpoint).2 ⟨hkx, rfl⟩⟩
  · rintro ⟨rfl, hk, hbetween⟩
    obtain ⟨x, y, z, colour⟩ := f
    have hy : (y : ℚ) = row := hbetween.y_eq hp hq
    obtain rfl : y = row := by exact_mod_cast hy
    obtain ⟨hkx, hz⟩ := (between_iff_depthAt hp hq hx hpoint).1 hbetween
    exact ⟨x, mem_cellsBetween.2 ⟨hkx, hk⟩, by rw [← hz]⟩

/-- The fragments of a row are the points between its ends over the cells of the canvas. -/
theorem mem_span (hp : p.y = row) (hq : q.y = row) (hpoint : p.x = q.x → p.z = q.z) :
    f ∈ (span width colour row (p.x, p.z) (q.x, q.z)).fragments ↔
      f.colour = colour ∧ (0 ≤ f.x ∧ f.x < width) ∧ p.Between q f.place := by
  rcases le_or_gt p.x q.x with hx | hx
  · exact mem_span_of_le hp hq hx hpoint
  · have hswap : span width colour row (p.x, p.z) (q.x, q.z) =
        span width colour row (q.x, q.z) (p.x, p.z) := by
      unfold span
      rw [if_pos (show q.x < p.x from hx), if_neg (show ¬ p.x < q.x from not_lt.2 hx.le)]
    rw [hswap, mem_span_of_le hq hp hx.le fun h => absurd h hx.ne, Vec3.between_comm]

end

/-! ## Triangles -/

section
variable {e : Extent} {colour : Rgb} {a b c low mid high : Vec3 ℚ} {f : Fragment ℚ} {y : ℚ}

/-- The corners in the order of their heights are the corners. -/
theorem byHeight_spec (a b c : Vec3 ℚ) : ∃ low mid high, byHeight a b c = (low, mid, high) ∧
    (low.y ≤ mid.y ∧ mid.y ≤ high.y) ∧ (∀ p, Contains low mid high p ↔ Contains a b c p) ∧
    (area low mid high = area a b c ∨ area low mid high = -area a b c) := by
  have hdef : byHeight a b c =
      if b.y < a.y then
        if c.y < a.y then if c.y < b.y then (c, b, a) else (b, c, a) else (b, a, c)
      else if c.y < b.y then if c.y < a.y then (c, a, b) else (a, c, b) else (a, b, c) := by
    unfold byHeight
    by_cases h : b.y < a.y
    · rw [if_pos h, if_pos h]
    · rw [if_neg h, if_neg h]
  rw [hdef]
  split_ifs
  · exact ⟨c, b, a, rfl, ⟨by linarith, by linarith⟩,
      fun p => contains_swap.trans contains_rotate.symm, .inr (by unfold area; ring)⟩
  · exact ⟨b, c, a, rfl, ⟨by linarith, by linarith⟩, fun p => contains_rotate, .inl area_rotate⟩
  · exact ⟨b, a, c, rfl, ⟨by linarith, by linarith⟩, fun p => contains_swap.trans contains_rotate,
      .inr (by unfold area; ring)⟩
  · exact ⟨c, a, b, rfl, ⟨by linarith, by linarith⟩, fun p => contains_rotate.symm,
      .inl area_rotate.symm⟩
  · exact ⟨a, c, b, rfl, ⟨by linarith, by linarith⟩, fun p => contains_swap, .inr area_swap⟩
  · exact ⟨a, b, c, rfl, ⟨by linarith, by linarith⟩, fun p => Iff.rfl, .inl rfl⟩

/-- An edge at a height is a point of the edge. -/
theorem edgeAt_eq {p q : Vec3 ℚ} : edgeAt p q y = ((p.atHeight q y).x, (p.atHeight q y).z) := rfl

/-- The short edges at a height are a point of theirs. -/
theorem shortEdgesAt_eq : shortEdgesAt low mid high y =
    ((shortPoint low mid high y).x, (shortPoint low mid high y).z) := by
  have hshort : shortEdgesAt low mid high y =
      if y < mid.y then edgeAt low mid y
      else if mid.y < high.y then edgeAt mid high y
      else (mid.x, mid.z) := rfl
  rw [hshort]
  unfold shortPoint
  split
  · rfl
  · split <;> rfl

/-- The fragments of a triangle, row by row. -/
theorem fragments_eq (hsort : byHeight a b c = (low, mid, high)) (hheight : low.y < high.y) :
    fragments e colour a b c = (cellsBetween low.y high.y e.height).flatMap fun row =>
      (span e.width colour row ((low.atHeight high row).x, (low.atHeight high row).z)
        ((shortPoint low mid high row).x, (shortPoint low mid high row).z)).fragments := by
  have hne : ¬ (high.y == low.y) = true := fun h => hheight.ne' (eq_of_beq h)
  rw [fragments_eq_flatMap, hsort]
  simp only [shortEdgesAt_eq, edgeAt_eq]
  rw [if_neg hne]

/-- The fragments of a triangle in one of its rows are its points over the cells of that row. -/
theorem mem_span_iff_contains {row : Int} (harea : area low mid high ≠ 0)
    (hmid : mid.y ≤ high.y) (hheight : low.y < high.y) (hlow : low.y ≤ row) (hhigh : row ≤ high.y) :
    f ∈ (span e.width colour row ((low.atHeight high row).x, (low.atHeight high row).z)
        ((shortPoint low mid high row).x, (shortPoint low mid high row).z)).fragments ↔
      f.colour = colour ∧ (0 ≤ f.x ∧ f.x < e.width) ∧ f.y = row ∧
        Contains low mid high f.place := by
  obtain ⟨h₀, h₁⟩ := Vec3.div_mem_unit hheight hlow hhigh
  have hlong : Contains low mid high (low.atHeight high row) := (contains_toward h₀ h₁).swap
  obtain ⟨hshort, hys⟩ := shortPoint_spec mid hlow hhigh
  have hyl : (low.atHeight high row).y = row := Vec3.y_atHeight hheight
  rw [mem_span hyl hys fun hx => hlong.z_eq harea hshort hx (hyl.trans hys.symm)]
  refine and_congr_right fun _ => and_congr_right fun _ => ⟨fun h => ?_, fun ⟨hrow, h⟩ => ?_⟩
  · have hy : (f.y : ℚ) = row := h.y_eq hyl hys
    obtain rfl : f.y = row := by exact_mod_cast hy
    exact ⟨rfl, (contains_iff_between (p := f.place) hmid hheight hlow hhigh).2 h⟩
  · subst hrow
    exact (contains_iff_between (p := f.place) hmid hheight hlow hhigh).1 h

/-- In exact arithmetic a triangle that is not seen edge-on is filled with its points over the cells
of the canvas. -/
theorem mem_fragments (harea : area a b c ≠ 0) : f ∈ fragments e colour a b c ↔
    f.colour = colour ∧ e.Contains f.x f.y ∧ Contains a b c f.place := by
  obtain ⟨low, mid, high, hsort, ⟨hlow, hmid⟩, hcontains, hsign⟩ := byHeight_spec a b c
  have harea' : area low mid high ≠ 0 := by
    rcases hsign with h | h <;> rw [h]
    · exact harea
    · exact neg_ne_zero.2 harea
  have hheight : low.y < high.y := by
    refine (hlow.trans hmid).lt_of_ne fun h => harea' ?_
    have hmid' : mid.y = low.y := by linarith
    rw [area, ← h, hmid']
    ring
  rw [fragments_eq hsort hheight, List.mem_flatMap]
  constructor
  · rintro ⟨row, hrow, hf⟩
    obtain ⟨⟨hrl, hrh⟩, hrow⟩ := mem_cellsBetween.1 hrow
    obtain ⟨hcolour, hx, hy, hf⟩ := (mem_span_iff_contains harea' hmid hheight hrl hrh).1 hf
    exact ⟨hcolour, ⟨hx.1, hx.2, by omega, by omega⟩, (hcontains _).1 hf⟩
  · rintro ⟨hcolour, ⟨hx, hx', hy, hy'⟩, hf⟩
    have hf := (hcontains _).2 hf
    obtain ⟨hfl, hfh⟩ := hf.y_bounds hlow hmid
    exact ⟨f.y, mem_cellsBetween.2 ⟨⟨hfl, hfh⟩, hy, hy'⟩,
      (mem_span_iff_contains harea' hmid hheight hfl hfh).2 ⟨hcolour, ⟨hx, hx'⟩, rfl, hf⟩⟩

end

end Triangle

end SceneScript
