import Mathlib.Algebra.Order.Field.Rat
import Mathlib.Tactic
import SceneScript.Space.Vec

/-!
# Triangles in exact coordinates

The points of a triangle are the weighted means of its corners (`Triangle.Contains`). A triangle
that is not seen edge-on has one point over each place of the screen at most
(`Triangle.Contains.z_eq`).

Cut at a height, a triangle is a segment between a point of its long edge, from the lowest corner to
the highest, and a point of its short ones (`Triangle.contains_iff_between`).
-/

namespace SceneScript

/-- The point that divides the way from one point to another in the ratio of `t` to `1 - t`. -/
def Vec3.toward (p q : Vec3 ℚ) (t : ℚ) : Vec3 ℚ :=
  ⟨p.x + t * (q.x - p.x), p.y + t * (q.y - p.y), p.z + t * (q.z - p.z)⟩

/-- The point at a height on the line through two points of different heights. -/
def Vec3.atHeight (p q : Vec3 ℚ) (y : ℚ) : Vec3 ℚ := p.toward q ((y - p.y) / (q.y - p.y))

/-- The point at the given coordinates of the parallelogram that a corner makes with its two
neighbours. -/
def Vec3.across (p q r : Vec3 ℚ) (u v : ℚ) : Vec3 ℚ :=
  ⟨p.x + u * (q.x - p.x) + v * (r.x - p.x), p.y + u * (q.y - p.y) + v * (r.y - p.y),
    p.z + u * (q.z - p.z) + v * (r.z - p.z)⟩

/-- Whether a point lies on the segment between two points. -/
def Vec3.Between (p q r : Vec3 ℚ) : Prop := ∃ t, 0 ≤ t ∧ t ≤ 1 ∧ r = p.toward q t

namespace Triangle

/-- Whether a point belongs to the triangle with the given corners. -/
def Contains (a b c p : Vec3 ℚ) : Prop :=
  ∃ u v w : ℚ, 0 ≤ u ∧ 0 ≤ v ∧ 0 ≤ w ∧ u + v + w = 1 ∧
    p = ⟨u * a.x + v * b.x + w * c.x, u * a.y + v * b.y + w * c.y, u * a.z + v * b.z + w * c.z⟩

/-- Twice the area of a triangle on the screen, negative if its corners are seen in clockwise
order. -/
def area (a b c : Vec3 ℚ) : ℚ := (b.x - a.x) * (c.y - a.y) - (b.y - a.y) * (c.x - a.x)

variable {a b c p q r : Vec3 ℚ}

/-- The coordinates of the normal. The last of them is the area. -/
theorem normal_eq : Vec3.normal a b c =
    ⟨(b.y - a.y) * (c.z - a.z) - (b.z - a.z) * (c.y - a.y),
      (b.z - a.z) * (c.x - a.x) - (b.x - a.x) * (c.z - a.z), area a b c⟩ := rfl

/-- The area changes its sign when the last two corners are exchanged. -/
theorem area_swap : area a c b = -area a b c := by
  unfold area
  ring

/-- The area does not depend on where one starts. -/
theorem area_rotate : area b c a = area a b c := by
  unfold area
  ring

/-- The order of the last two corners does not matter. -/
theorem Contains.swap (h : Contains a b c p) : Contains a c b p := by
  obtain ⟨u, v, w, hu, hv, hw, hsum, rfl⟩ := h
  exact ⟨u, w, v, hu, hw, hv, by linarith, by congr 1 <;> ring⟩

/-- It does not matter where one starts. -/
theorem Contains.rotate (h : Contains a b c p) : Contains b c a p := by
  obtain ⟨u, v, w, hu, hv, hw, hsum, rfl⟩ := h
  exact ⟨v, w, u, hv, hw, hu, by linarith, by congr 1 <;> ring⟩

/-- The order of the last two corners does not matter. -/
theorem contains_swap : Contains a c b p ↔ Contains a b c p := ⟨.swap, .swap⟩

/-- It does not matter where one starts. -/
theorem contains_rotate : Contains b c a p ↔ Contains a b c p :=
  ⟨fun h => h.rotate.rotate, .rotate⟩

/-- A weighted mean lies between bounds of what it is a mean of. -/
theorem mean_bounds {lo hi u v w r s t : ℚ} (hu : 0 ≤ u) (hv : 0 ≤ v) (hw : 0 ≤ w)
    (hsum : u + v + w = 1) (hr : lo ≤ r ∧ r ≤ hi) (hs : lo ≤ s ∧ s ≤ hi) (ht : lo ≤ t ∧ t ≤ hi) :
    lo ≤ u * r + v * s + w * t ∧ u * r + v * s + w * t ≤ hi := by
  have hconst : ∀ k, u * k + v * k + w * k = k := by
    intro k
    rw [← add_mul, ← add_mul, hsum, one_mul]
  constructor
  · calc lo = u * lo + v * lo + w * lo := (hconst lo).symm
      _ ≤ u * r + v * s + w * t := by gcongr; exacts [hr.1, hs.1, ht.1]
  · calc u * r + v * s + w * t ≤ u * hi + v * hi + w * hi := by
          gcongr; exacts [hr.2, hs.2, ht.2]
      _ = hi := hconst hi

/-- A triangle is no higher and no lower than its corners. -/
theorem Contains.y_bounds (h : Contains a b c p) (hab : a.y ≤ b.y) (hbc : b.y ≤ c.y) :
    a.y ≤ p.y ∧ p.y ≤ c.y := by
  obtain ⟨u, v, w, hu, hv, hw, hsum, rfl⟩ := h
  exact mean_bounds hu hv hw hsum ⟨le_refl _, hab.trans hbc⟩ ⟨hab, hbc⟩ ⟨hab.trans hbc, le_refl _⟩

/-- The points of the side between the first two corners belong to the triangle. -/
theorem contains_toward {t : ℚ} (h₀ : 0 ≤ t) (h₁ : t ≤ 1) : Contains a b c (a.toward b t) :=
  ⟨1 - t, t, 0, by linarith, h₀, le_refl 0, by ring, by unfold Vec3.toward; congr 1 <;> ring⟩

/-- A point of a parallelogram belongs to one of the two triangles in which a diagonal cuts it. -/
theorem contains_across {u v : ℚ} (hu : 0 ≤ u ∧ u ≤ 1) (hv : 0 ≤ v ∧ v ≤ 1) :
    Contains a b (a.across b c 1 1) (a.across b c u v) ∨
      Contains a (a.across b c 1 1) c (a.across b c u v) := by
  unfold Vec3.across
  rcases le_total v u with h | h
  · exact .inl ⟨1 - u, u - v, v, by linarith, by linarith, hv.1, by ring, by congr 1 <;> ring⟩
  · exact .inr ⟨1 - v, u, v - u, by linarith, hu.1, by linarith, by ring, by congr 1 <;> ring⟩

/-- What is between two points of a triangle belongs to it. -/
theorem Contains.between (hp : Contains a b c p) (hq : Contains a b c q) (h : p.Between q r) :
    Contains a b c r := by
  obtain ⟨u, v, w, hu, hv, hw, hsum, rfl⟩ := hp
  obtain ⟨u', v', w', hu', hv', hw', hsum', rfl⟩ := hq
  obtain ⟨t, h₀, h₁, rfl⟩ := h
  have h₂ : 0 ≤ 1 - t := by linarith
  refine ⟨(1 - t) * u + t * u', (1 - t) * v + t * v', (1 - t) * w + t * w', by positivity,
    by positivity, by positivity, by linear_combination (1 - t) * hsum + t * hsum', ?_⟩
  unfold Vec3.toward
  congr 1 <;> ring

/-- Over one place of the screen a triangle that is not seen edge-on has one point. -/
theorem Contains.z_eq (harea : area a b c ≠ 0) (hp : Contains a b c p) (hq : Contains a b c q)
    (hx : p.x = q.x) (hy : p.y = q.y) : p.z = q.z := by
  obtain ⟨u, v, w, -, -, -, hsum, rfl⟩ := hp
  obtain ⟨u', v', w', -, -, -, hsum', rfl⟩ := hq
  simp only at hx hy ⊢
  -- the differences of the weights are a solution of two linear equations
  have hu : u - u' = -(v - v') - (w - w') := by linarith
  have hxw : (v - v') * (b.x - a.x) + (w - w') * (c.x - a.x) = 0 := by
    linear_combination hx - a.x * hu
  have hyw : (v - v') * (b.y - a.y) + (w - w') * (c.y - a.y) = 0 := by
    linear_combination hy - a.y * hu
  have hv : (v - v') * area a b c = 0 := by
    unfold area
    linear_combination (c.y - a.y) * hxw - (c.x - a.x) * hyw
  have hw : (w - w') * area a b c = 0 := by
    unfold area
    linear_combination (b.x - a.x) * hyw - (b.y - a.y) * hxw
  have hv : v - v' = 0 := (mul_eq_zero.1 hv).resolve_right harea
  have hw : w - w' = 0 := (mul_eq_zero.1 hw).resolve_right harea
  linear_combination a.z * hu + (b.z - a.z) * hv + (c.z - a.z) * hw

/-! ## Cuts -/

/-- The point of the short edges at a height, given the corners from the lowest to the highest.
Where the upper one is level it is the middle corner. -/
def shortPoint (low mid high : Vec3 ℚ) (y : ℚ) : Vec3 ℚ :=
  if y < mid.y then low.atHeight mid y
  else if mid.y < high.y then mid.atHeight high y
  else mid

end Triangle

namespace Vec3

variable {p q o : Vec3 ℚ} {y t : ℚ}

/-- The same point is on the way back. -/
theorem toward_symm : p.toward q t = q.toward p (1 - t) := by
  unfold toward
  congr 1 <;> ring

/-- What is between two points is between them in either order. -/
theorem between_comm : p.Between q o ↔ q.Between p o := by
  constructor <;> rintro ⟨t, h₀, h₁, rfl⟩ <;>
    exact ⟨1 - t, by linarith, by linarith, toward_symm⟩

/-- What is between two points of one height has that height. -/
theorem Between.y_eq (h : p.Between q o) (hp : p.y = y) (hq : q.y = y) : o.y = y := by
  obtain ⟨t, -, -, rfl⟩ := h
  simp [toward, hp, hq]

/-- The point at a height has that height. -/
theorem y_atHeight (h : p.y < q.y) : (p.atHeight q y).y = y := by
  have hne : q.y - p.y ≠ 0 := by linarith
  simp only [atHeight, toward]
  field_simp
  ring

/-- At the height of its second point a line is at that point. -/
theorem atHeight_high (h : p.y < q.y) : p.atHeight q q.y = q := by
  have hne : q.y - p.y ≠ 0 := by linarith
  unfold atHeight toward
  rw [div_self hne]
  obtain ⟨x, y, z⟩ := q
  congr 1 <;> ring

/-- It does not matter from which end of a line a height is measured. -/
theorem atHeight_symm (h : p.y < q.y) : p.atHeight q y = q.toward p ((q.y - y) / (q.y - p.y)) := by
  have hne : q.y - p.y ≠ 0 := by linarith
  rw [atHeight, toward_symm]
  congr 1
  field_simp
  ring

/-- How far along a line a height is reached. -/
theorem div_mem_unit (h : p.y < q.y) (h₀ : p.y ≤ y) (h₁ : y ≤ q.y) :
    0 ≤ (y - p.y) / (q.y - p.y) ∧ (y - p.y) / (q.y - p.y) ≤ 1 :=
  ⟨div_nonneg (by linarith) (by linarith), (div_le_one (by linarith)).2 (by linarith)⟩

end Vec3

namespace Triangle

variable {low mid high p : Vec3 ℚ} {y : ℚ}

/-- A weighted mean of three points lies between the points at its distance from one of them on the
lines to the other two, if distances run as the weights say. -/
theorem between_of_weights {o f g : Vec3 ℚ} {u v w toF toG distance : ℚ} (hv : 0 ≤ v) (hw : 0 ≤ w)
    (hsum : u + v + w = 1) (hf : 0 < toF) (hg : 0 < toG) (hd : v * toG + w * toF = distance) :
    (o.toward f (distance / toF)).Between (o.toward g (distance / toG))
      ⟨u * o.x + v * g.x + w * f.x, u * o.y + v * g.y + w * f.y, u * o.z + v * g.z + w * f.z⟩ := by
  have hvg : 0 ≤ v * toG := by positivity
  have hwf : 0 ≤ w * toF := by positivity
  refine ⟨v * toG / distance, by rw [← hd]; positivity, ?_, ?_⟩
  · exact div_le_one_of_le₀ (by linarith) (by linarith)
  · have hgv : v * toG / distance * (distance / toG) = v := by
      rcases eq_or_ne distance 0 with h | h
      · have hzero : v * toG = 0 := by linarith
        rw [(mul_eq_zero.1 hzero).resolve_right hg.ne', h]
        simp
      · field_simp
    have hfw : (1 - v * toG / distance) * (distance / toF) = w := by
      rcases eq_or_ne distance 0 with h | h
      · have hzero : w * toF = 0 := by linarith
        rw [(mul_eq_zero.1 hzero).resolve_right hf.ne', h]
        simp
      · field_simp
        linarith
    unfold Vec3.toward
    congr 1
    · linear_combination o.x * hsum - (g.x - o.x) * hgv - (f.x - o.x) * hfw
    · linear_combination o.y * hsum - (g.y - o.y) * hgv - (f.y - o.y) * hfw
    · linear_combination o.z * hsum - (g.z - o.z) * hgv - (f.z - o.z) * hfw

/-- The point of the short edges belongs to the triangle and has the height. -/
theorem shortPoint_spec (mid : Vec3 ℚ) (hlow : low.y ≤ y) (hhigh : y ≤ high.y) :
    Contains low mid high (shortPoint low mid high y) ∧ (shortPoint low mid high y).y = y := by
  unfold shortPoint
  split
  · next hy =>
    have hlm : low.y < mid.y := hlow.trans_lt hy
    obtain ⟨h₀, h₁⟩ := Vec3.div_mem_unit hlm hlow hy.le
    exact ⟨contains_toward h₀ h₁, Vec3.y_atHeight hlm⟩
  · next hy =>
    have hy : mid.y ≤ y := not_lt.1 hy
    split
    · next hmh =>
      obtain ⟨h₀, h₁⟩ := Vec3.div_mem_unit hmh hy hhigh
      exact ⟨(contains_toward h₀ h₁).rotate.rotate, Vec3.y_atHeight hmh⟩
    · next hmh =>
      refine ⟨⟨0, 1, 0, le_refl 0, zero_le_one, le_refl 0, by ring, by simp⟩, ?_⟩
      linarith

/-- A triangle is cut at a height into the segment from its long edge to its short ones. -/
theorem contains_iff_between (hmid : mid.y ≤ high.y)
    (hheight : low.y < high.y) (hpl : low.y ≤ p.y) (hph : p.y ≤ high.y) :
    Contains low mid high p ↔
      (low.atHeight high p.y).Between (shortPoint low mid high p.y) p := by
  constructor
  · rintro ⟨u, v, w, hu, hv, hw, hsum, rfl⟩
    simp only at hpl hph ⊢
    unfold shortPoint
    split
    · next hy =>
      exact between_of_weights hv hw hsum (sub_pos.2 hheight) (sub_pos.2 (by linarith))
        (by linear_combination -low.y * hsum)
    · next hy =>
      split
      · next hmh =>
        -- the upper part is the lower one upside down
        rw [Vec3.atHeight_symm hheight, Vec3.atHeight_symm hmh]
        have h := between_of_weights (o := high) (f := low) (g := mid) hv hu (by linarith)
          (sub_pos.2 hheight) (sub_pos.2 hmh)
          (show _ = high.y - (u * low.y + v * mid.y + w * high.y)
            by linear_combination high.y * hsum)
        convert h using 2 <;> ring
      · next hmh =>
        have hlevel : mid.y = high.y := le_antisymm hmid (not_lt.1 hmh)
        have htop : u * low.y + v * mid.y + w * high.y = high.y := by linarith
        have hu : u = 0 := by
          have hzero : u * (high.y - low.y) = 0 := by
            linear_combination high.y * hsum - htop + v * hlevel
          exact (mul_eq_zero.1 hzero).resolve_right (by linarith)
        refine ⟨v, hv, by linarith, ?_⟩
        rw [htop, Vec3.atHeight_high hheight]
        unfold Vec3.toward
        congr 1
        · linear_combination (low.x - high.x) * hu + high.x * hsum
        · linear_combination -v * hlevel
        · linear_combination (low.z - high.z) * hu + high.z * hsum
  · intro h
    obtain ⟨h₀, h₁⟩ := Vec3.div_mem_unit hheight hpl hph
    exact Contains.between (contains_toward h₀ h₁).swap (shortPoint_spec mid hpl hph).1 h

end Triangle

end SceneScript
