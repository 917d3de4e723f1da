import Mathlib.Data.Finset.Max
import Mathlib.Data.Fintype.Basic
import SceneScript.Proofs.Space.Image
import SceneScript.Space.Solid

/-!
# Boxes in exact coordinates

A box is the set of the points between its corner and the opposite one (`Box.Contains`), and its
mesh covers its surface: a point on one of the six sides belongs to one of the two triangles of that
side, and the normals of both point out of the box there (`Box.exists_face_of_side`). Whoever goes
in some direction from a point of a box leaves it through a side that the direction points out of
(`Box.exists_exit`). So the points of a box that are nearest to the viewer lie in triangles that
face him (`Box.exists_front_face`).
-/

namespace SceneScript

/-- If some of finitely many supplies are used up at a positive rate, one of them is the first to
run out. -/
theorem exists_first_empty {ι : Type} [Fintype ι] {supply rate : ι → ℚ}
    (hs : ∀ i, 0 ≤ supply i) (hr : ∃ i, 0 < rate i) :
    ∃ t, 0 ≤ t ∧ (∀ i, t * rate i ≤ supply i) ∧ ∃ i, 0 < rate i ∧ t * rate i = supply i := by
  obtain ⟨i₀, hi₀⟩ := hr
  obtain ⟨i, hi, hmin⟩ := Finset.exists_min_image (Finset.univ.filter fun i => 0 < rate i)
    (fun i => supply i / rate i) ⟨i₀, by simpa using hi₀⟩
  have hi : 0 < rate i := by simpa using hi
  have ht : 0 ≤ supply i / rate i := div_nonneg (hs i) hi.le
  refine ⟨supply i / rate i, ht, fun j => ?_, i, hi, div_mul_cancel₀ _ hi.ne'⟩
  rcases lt_or_ge 0 (rate j) with hj | hj
  · exact (le_div_iff₀ hj).1 (hmin j (by simpa using hj))
  · exact (mul_nonpos_of_nonneg_of_nonpos ht hj).trans (hs j)

namespace Box

/-- Whether a point belongs to the box with the given left upper front corner and the given width,
height and depth. -/
def Contains (corner size p : Vec3 ℚ) : Prop :=
  (corner.x ≤ p.x ∧ p.x ≤ corner.x + size.x) ∧ (corner.y - size.y ≤ p.y ∧ p.y ≤ corner.y) ∧
    corner.z - size.z ≤ p.z ∧ p.z ≤ corner.z

/-- The sides of a box. -/
inductive Side
  | front | back | right | left | upper | lower
  deriving DecidableEq

namespace Side

instance : Fintype Side :=
  ⟨{front, back, right, left, upper, lower}, fun s => by cases s <;> decide⟩

/-- How far a point lies behind the plane of a side. -/
def slack (corner size p : Vec3 ℚ) : Side → ℚ
  | front => corner.z - p.z
  | back => p.z - (corner.z - size.z)
  | right => corner.x + size.x - p.x
  | left => p.x - corner.x
  | upper => corner.y - p.y
  | lower => p.y - (corner.y - size.y)

/-- How fast one comes nearer to the plane of a side when going in a direction. -/
def rate (d : Vec3 ℚ) : Side → ℚ
  | front => d.z
  | back => -d.z
  | right => d.x
  | left => -d.x
  | upper => d.y
  | lower => -d.y

/-- The area of a side. -/
def area (size : Vec3 ℚ) : Side → ℚ
  | front | back => size.x * size.y
  | right | left => size.y * size.z
  | upper | lower => size.x * size.z

/-- The corners of a side in the order of the mesh: one, the next, the opposite one and the last. -/
def quad : Side → Corner × Corner × Corner × Corner
  | front =>
    (⟨false, false, false⟩, ⟨false, true, false⟩, ⟨true, true, false⟩, ⟨true, false, false⟩)
  | back => (⟨true, false, true⟩, ⟨true, true, true⟩, ⟨false, true, true⟩, ⟨false, false, true⟩)
  | right => (⟨true, false, false⟩, ⟨true, true, false⟩, ⟨true, true, true⟩, ⟨true, false, true⟩)
  | left =>
    (⟨false, false, true⟩, ⟨false, true, true⟩, ⟨false, true, false⟩, ⟨false, false, false⟩)
  | upper => (⟨false, false, true⟩, ⟨false, false, false⟩, ⟨true, false, false⟩, ⟨true, false, true⟩)
  | lower => (⟨false, true, false⟩, ⟨false, true, true⟩, ⟨true, true, true⟩, ⟨true, true, false⟩)

/-- The coordinates on a side of the point at the given fractions of width, height and depth: from
the first corner towards the next and towards the last. -/
def coordinates (u v w : ℚ) : Side → ℚ × ℚ
  | front => (v, u)
  | back => (v, 1 - u)
  | right => (v, w)
  | left => (v, 1 - w)
  | upper => (1 - w, u)
  | lower => (w, u)

end Side

variable {corner size p d : Vec3 ℚ}

/-- A box is what lies behind the planes of all its sides. -/
theorem contains_iff_slack : Contains corner size p ↔ ∀ s, 0 ≤ Side.slack corner size p s := by
  constructor
  · rintro ⟨⟨hl, hr⟩, ⟨hb, ht⟩, hd, hf⟩ s
    cases s <;> simp only [Side.slack] <;> linarith
  · intro h
    have := h .front; have := h .back; have := h .right
    have := h .left; have := h .upper; have := h .lower
    simp only [Side.slack] at *
    exact ⟨⟨by linarith, by linarith⟩, ⟨by linarith, by linarith⟩, by linarith, by linarith⟩

/-- The slack behind a side is used up at its rate. -/
theorem slack_along {t : ℚ} {s : Side} :
    Side.slack corner size ⟨p.x + t * d.x, p.y + t * d.y, p.z + t * d.z⟩ s =
      Side.slack corner size p s - t * Side.rate d s := by
  cases s <;> simp only [Side.slack, Side.rate] <;> ring

/-- In a direction that is not zero one leaves a box through a side that it points out of. -/
theorem exists_exit (hp : Contains corner size p) (hd : d ≠ ⟨0, 0, 0⟩) :
    ∃ t s, 0 ≤ t ∧ 0 < Side.rate d s ∧
      Contains corner size ⟨p.x + t * d.x, p.y + t * d.y, p.z + t * d.z⟩ ∧
      Side.slack corner size ⟨p.x + t * d.x, p.y + t * d.y, p.z + t * d.z⟩ s = 0 := by
  have hrate : ∃ s, 0 < Side.rate d s := by
    by_contra hnone
    push Not at hnone
    have := hnone .front; have := hnone .back; have := hnone .right
    have := hnone .left; have := hnone .upper; have := hnone .lower
    simp only [Side.rate] at *
    obtain ⟨x, y, z⟩ := d
    exact hd (by congr 1 <;> simp only at * <;> linarith)
  obtain ⟨t, ht, hle, s, hs, hs'⟩ := exists_first_empty (contains_iff_slack.1 hp) hrate
  refine ⟨t, s, ht, hs, contains_iff_slack.2 fun i => ?_, ?_⟩
  · rw [slack_along]
    linarith [hle i]
  · rw [slack_along]
    linarith

/-! ## The mesh -/

/-- The coordinates of a corner. -/
theorem position_eq {k : Corner} : position corner size k =
    ⟨if k.right then corner.x + size.x else corner.x, if k.low then corner.y - size.y else corner.y,
      if k.back then corner.z - size.z else corner.z⟩ := rfl

/-- The triangles of a box are part of it. -/
theorem Contains.of_triangle (hx : 0 ≤ size.x) (hy : 0 ≤ size.y) (hz : 0 ≤ size.z) {a b c : Corner}
    (h : Triangle.Contains (position corner size a) (position corner size b)
      (position corner size c) p) : Contains corner size p := by
  have hcorner : ∀ k, Contains corner size (position corner size k) := by
    rintro ⟨r, l, b⟩
    rw [position_eq]
    refine ⟨?_, ?_, ?_⟩
    · cases r <;> constructor <;> simp [hx]
    · cases l <;> constructor <;> simp [hy]
    · cases b <;> constructor <;> simp [hz]
  obtain ⟨u, v, w, hu, hv, hw, hsum, rfl⟩ := h
  obtain ⟨hxa, hya, hza⟩ := hcorner a
  obtain ⟨hxb, hyb, hzb⟩ := hcorner b
  obtain ⟨hxc, hyc, hzc⟩ := hcorner c
  exact ⟨Triangle.mean_bounds hu hv hw hsum hxa hxb hxc,
    Triangle.mean_bounds hu hv hw hsum hya hyb hyc, Triangle.mean_bounds hu hv hw hsum hza hzb hzc⟩

/-- A point of a box lies at some fraction of each of its measures. -/
theorem Contains.exists_fractions (h : Contains corner size p) (hx : 0 < size.x) (hy : 0 < size.y)
    (hz : 0 < size.z) : ∃ u v w : ℚ, (0 ≤ u ∧ u ≤ 1) ∧ (0 ≤ v ∧ v ≤ 1) ∧ (0 ≤ w ∧ w ≤ 1) ∧
      p = ⟨corner.x + u * size.x, corner.y - v * size.y, corner.z - w * size.z⟩ := by
  obtain ⟨⟨hl, hr⟩, ⟨hb, ht⟩, hd, hf⟩ := h
  refine ⟨(p.x - corner.x) / size.x, (corner.y - p.y) / size.y, (corner.z - p.z) / size.z,
    ⟨div_nonneg (by linarith) hx.le, (div_le_one hx).2 (by linarith)⟩,
    ⟨div_nonneg (by linarith) hy.le, (div_le_one hy).2 (by linarith)⟩,
    ⟨div_nonneg (by linarith) hz.le, (div_le_one hz).2 (by linarith)⟩, ?_⟩
  rw [div_mul_cancel₀ _ hx.ne', div_mul_cancel₀ _ hy.ne', div_mul_cancel₀ _ hz.ne']
  obtain ⟨x, y, z⟩ := p
  congr 1 <;> ring

/-- A direction measured along the normal of a triangle. -/
def along (d a b c : Vec3 ℚ) : ℚ :=
  (Vec3.normal a b c).x * d.x + (Vec3.normal a b c).y * d.y + (Vec3.normal a b c).z * d.z

/-- Both triangles of a parallelogram have one normal. -/
theorem along_across {a b c : Vec3 ℚ} : along d a b (a.across b c 1 1) = along d a b c ∧
    along d a (a.across b c 1 1) c = along d a b c := by
  simp only [along, Triangle.normal_eq, Triangle.area, Vec3.across]
  constructor <;> ring

/-- Whether a triangle of the mesh has a point, and a normal that points out of a side. -/
def IsFaceAt (corner size : Vec3 ℚ) (s : Side) (p : Vec3 ℚ) (a b c : Corner) : Prop :=
  Triangle.Contains (position corner size a) (position corner size b) (position corner size c) p ∧
    ∀ d, along d (position corner size a) (position corner size b) (position corner size c) =
      Side.area size s * Side.rate d s

section
variable {s : Side}

/-- The corners of a side are those in the mesh. -/
theorem quad_mem_sides : s.quad ∈ sides := by cases s <;> decide

/-- The sides are parallelograms. -/
theorem position_quad : position corner size s.quad.2.2.1 =
    (position corner size s.quad.1).across (position corner size s.quad.2.1)
      (position corner size s.quad.2.2.2) 1 1 := by
  cases s <;> simp only [Side.quad, position_eq, Vec3.across, if_true, Bool.false_eq_true, if_false,
    Vec3.mk.injEq] <;> refine ⟨?_, ?_, ?_⟩ <;> ring

/-- The normals of the sides point outwards. -/
theorem along_quad : along d (position corner size s.quad.1) (position corner size s.quad.2.1)
    (position corner size s.quad.2.2.2) = Side.area size s * Side.rate d s := by
  cases s <;> simp only [Side.quad, along, Triangle.normal_eq, Triangle.area, position_eq, if_true,
    Bool.false_eq_true, if_false, Side.area, Side.rate] <;> ring

/-- A point on the plane of a side lies on the side at its coordinates. -/
theorem eq_across_quad {u v w : ℚ} (hs : Side.slack corner size
      ⟨corner.x + u * size.x, corner.y - v * size.y, corner.z - w * size.z⟩ s = 0) :
    (⟨corner.x + u * size.x, corner.y - v * size.y, corner.z - w * size.z⟩ : Vec3 ℚ) =
      (position corner size s.quad.1).across (position corner size s.quad.2.1)
        (position corner size s.quad.2.2.2) (s.coordinates u v w).1 (s.coordinates u v w).2 := by
  cases s <;> simp only [Side.slack] at hs <;> simp only [Side.quad, Side.coordinates, position_eq,
    Vec3.across, if_true, Bool.false_eq_true, if_false, Vec3.mk.injEq] <;>
    refine ⟨?_, ?_, ?_⟩ <;> linarith

/-- The coordinates of a point of a side are fractions. -/
theorem coordinates_mem_unit {u v w : ℚ} (hu : 0 ≤ u ∧ u ≤ 1) (hv : 0 ≤ v ∧ v ≤ 1)
    (hw : 0 ≤ w ∧ w ≤ 1) : (0 ≤ (s.coordinates u v w).1 ∧ (s.coordinates u v w).1 ≤ 1) ∧
      0 ≤ (s.coordinates u v w).2 ∧ (s.coordinates u v w).2 ≤ 1 := by
  cases s <;> simp only [Side.coordinates] <;> refine ⟨⟨?_, ?_⟩, ?_, ?_⟩ <;> linarith

/-- A point of a side belongs to a triangle of the mesh whose normal points out of that side. -/
theorem exists_face_of_side (h : Contains corner size p) (hx : 0 < size.x) (hy : 0 < size.y)
    (hz : 0 < size.z) (hs : Side.slack corner size p s = 0) :
    ∃ a b c, (a, b, c) ∈ faces ∧ IsFaceAt corner size s p a b c := by
  obtain ⟨u, v, w, hu, hv, hw, rfl⟩ := h.exists_fractions hx hy hz
  obtain ⟨hfirst, hsecond⟩ := coordinates_mem_unit (s := s) hu hv hw
  rw [eq_across_quad hs]
  rcases Triangle.contains_across hfirst hsecond with h | h
  · refine ⟨s.quad.1, s.quad.2.1, s.quad.2.2.1,
      List.mem_flatMap.2 ⟨s.quad, quad_mem_sides, .head _⟩, ?_, fun d => ?_⟩
    · rwa [position_quad]
    · rw [position_quad, along_across.1, along_quad]
  · refine ⟨s.quad.1, s.quad.2.2.1, s.quad.2.2.2,
      List.mem_flatMap.2 ⟨s.quad, quad_mem_sides, .tail _ (.head _)⟩, ?_, fun d => ?_⟩
    · rwa [position_quad]
    · rw [position_quad, along_across.2, along_quad]

/-- A triangle is seen from its front if its normal has an acute angle with the line of sight. -/
theorem area_image_eq_along {m : Transform ℚ} {a b c : Vec3 ℚ} :
    Triangle.area (m.image a) (m.image b) (m.image c) = along m.sight a b c :=
  Transform.area_image

/-- In front of each point of a box, seen under a transform with a positive determinant, or at the
point itself, there is a point of the box in a triangle of the mesh that is seen from its front. -/
theorem exists_front_face {m : Transform ℚ} (hm : m.IsAffine) (hdet : 0 < m.matrix.det)
    (hx : 0 < size.x) (hy : 0 < size.y) (hz : 0 < size.z) (hp : Contains corner size p) :
    ∃ a b c z, (a, b, c) ∈ faces ∧ (m.image p).z ≤ z ∧
      0 < Triangle.area (m.image (position corner size a)) (m.image (position corner size b))
        (m.image (position corner size c)) ∧
      Triangle.Contains (m.image (position corner size a)) (m.image (position corner size b))
        (m.image (position corner size c)) ⟨(m.image p).x, (m.image p).y, z⟩ := by
  have hsight : m.sight ≠ ⟨0, 0, 0⟩ := by
    intro h
    rw [Transform.det_matrix hm, h] at hdet
    simp at hdet
  obtain ⟨t, s, ht, hrate, hexit, hs⟩ := exists_exit hp hsight
  obtain ⟨a, b, c, hface, hcontains, hnormal⟩ := exists_face_of_side hexit hx hy hz hs
  refine ⟨a, b, c, (m.image p).z + t * m.matrix.det, hface, ?_, ?_, ?_⟩
  · linarith [mul_nonneg ht hdet.le]
  · rw [area_image_eq_along, hnormal]
    refine mul_pos ?_ hrate
    cases s <;> simp only [Side.area] <;> positivity
  · rw [Transform.contains_image]
    exact ⟨_, hcontains, Transform.image_along_sight hm t⟩

end

end Box

end SceneScript
