import Mathlib.LinearAlgebra.Matrix.Nondegenerate
import Mathlib.LinearAlgebra.Matrix.ToLin
import Mathlib.Tactic.Linarith
import SceneScript.Proofs.Space.Linear

/-!
# Outward normals

A direction is an outward normal of a side of a solid if it is orthogonal to the side and no point of
the solid lies in front of the side (`IsOutwardNormal`). When a solid is transformed, its outward
normals are not transformed like its points: directions are measured in the transformed space as
their pullbacks are in the space before (`Transform.dot_pull`). The normal that is computed from the
corners of a transformed triangle is pulled back to the normal of the triangle, times the determinant
(`Transform.pull_normal`). So it is an outward normal, times the determinant and a positive factor
(`IsOutwardNormal.exists_scale_eq`): for a transform that mirrors space it points inwards.
-/

open Matrix

namespace SceneScript

variable {K : Type} [Field K] [LinearOrder K] [FloorRing K]

/-- Whether a direction is orthogonal to the triangle with the given corners, and no point of a solid
lies in front of the triangle. -/
structure IsOutwardNormal (solid : Set (Vec3 K)) (a b c normal : Vec3 K) : Prop where
  ne_zero : normal ≠ ⟨0, 0, 0⟩
  second : normal.dot (b.sub a) = 0
  third : normal.dot (c.sub a) = 0
  behind : ∀ p ∈ solid, normal.dot (p.sub a) ≤ 0

section
variable {a b c u v w : Vec3 K} {s t : K}

/-- The scalar product in the arithmetic of the field. -/
theorem Vec3.dot_eq : v.dot w = v.x * w.x + v.y * w.y + v.z * w.z := rfl

/-- A multiple in the arithmetic of the field. -/
theorem Vec3.scale_eq : v.scale t = ⟨v.x * t, v.y * t, v.z * t⟩ := rfl

/-- A difference in the arithmetic of the field. -/
theorem Vec3.sub_eq : v.sub w = ⟨v.x - w.x, v.y - w.y, v.z - w.z⟩ := rfl

/-- The normal of a triangle in the arithmetic of the field. -/
theorem Vec3.normal_eq : Vec3.normal a b c =
    ⟨(b.y - a.y) * (c.z - a.z) - (b.z - a.z) * (c.y - a.y),
      (b.z - a.z) * (c.x - a.x) - (b.x - a.x) * (c.z - a.z),
      (b.x - a.x) * (c.y - a.y) - (b.y - a.y) * (c.x - a.x)⟩ := rfl

/-- The vector product in the arithmetic of the field. -/
theorem Vec3.cross_eq : v.cross w =
    ⟨v.y * w.z - v.z * w.y, v.z * w.x - v.x * w.z, v.x * w.y - v.y * w.x⟩ := rfl

/-- The scalar product with a multiple. -/
theorem Vec3.scale_dot : (v.scale t).dot w = t * v.dot w := by
  simp only [dot_eq, scale_eq]
  ring

/-- One time a direction. -/
theorem Vec3.scale_one : v.scale 1 = v := by simp [scale_eq]

/-- A multiple of a multiple. -/
theorem Vec3.scale_scale : (v.scale s).scale t = v.scale (s * t) := by
  simp only [scale_eq, mul_assoc]

/-- A multiple that is zero. -/
theorem Vec3.scale_eq_zero : v.scale t = ⟨0, 0, 0⟩ ↔ t = 0 ∨ v = ⟨0, 0, 0⟩ := by
  obtain ⟨x, y, z⟩ := v
  simp only [scale_eq, Vec3.mk.injEq, mul_eq_zero]
  tauto

/-- The normal of a triangle is orthogonal to the edge to its second corner. -/
theorem Vec3.normal_dot_second : (Vec3.normal a b c).dot (b.sub a) = 0 := by
  simp only [dot_eq, sub_eq, normal_eq]
  ring

/-- The normal of a triangle is orthogonal to the edge to its third corner. -/
theorem Vec3.normal_dot_third : (Vec3.normal a b c).dot (c.sub a) = 0 := by
  simp only [dot_eq, sub_eq, normal_eq]
  ring

/-- The square of a direction. -/
theorem Vec3.dot_self_pos [IsStrictOrderedRing K] (hv : v ≠ ⟨0, 0, 0⟩) : 0 < v.dot v := by
  have hx := mul_self_nonneg v.x
  have hy := mul_self_nonneg v.y
  have hz := mul_self_nonneg v.z
  rw [dot_eq]
  refine lt_of_le_of_ne (by linarith) fun h0 => hv ?_
  obtain ⟨x, y, z⟩ := v
  rw [Vec3.mk.injEq, ← mul_self_eq_zero, ← mul_self_eq_zero (a := y), ← mul_self_eq_zero (a := z)]
  exact ⟨by linarith, by linarith, by linarith⟩

/-- A direction that is orthogonal to two others is a multiple of their vector product. -/
theorem Vec3.scale_eq_of_orthogonal (hu : w.dot u = 0) (hv : w.dot v = 0) :
    w.scale ((u.cross v).dot (u.cross v)) = (u.cross v).scale (w.dot (u.cross v)) := by
  simp only [dot_eq] at hu hv
  -- the vector product with their vector product is zero
  have hx : w.y * (u.cross v).z = w.z * (u.cross v).y := by
    rw [cross_eq]
    linear_combination u.x * hv - v.x * hu
  have hy : w.z * (u.cross v).x = w.x * (u.cross v).z := by
    rw [cross_eq]
    linear_combination u.y * hv - v.y * hu
  have hz : w.x * (u.cross v).y = w.y * (u.cross v).x := by
    rw [cross_eq]
    linear_combination u.z * hv - v.z * hu
  simp only [dot_eq, scale_eq, Vec3.mk.injEq]
  refine ⟨?_, ?_, ?_⟩
  · linear_combination (u.cross v).y * hz - (u.cross v).z * hy
  · linear_combination (u.cross v).z * hx - (u.cross v).x * hz
  · linear_combination (u.cross v).x * hy - (u.cross v).y * hx

end

namespace Transform

/-- The direction that measures a direction as the given one measures its image. -/
def pull (m : Transform K) (v : Vec3 K) : Vec3 K :=
  ⟨m.row₁.x * v.x + m.row₂.x * v.y + m.row₃.x * v.z,
    m.row₁.y * v.x + m.row₂.y * v.y + m.row₃.y * v.z,
    m.row₁.z * v.x + m.row₂.z * v.y + m.row₃.z * v.z⟩

variable {m : Transform K} {a b c p q v w : Vec3 K} {t : K}

/-- A direction measures images as its pullback measures what they are images of. -/
theorem dot_pull : v.dot ((m.place p).sub (m.place q)) = (m.pull v).dot (p.sub q) := by
  simp only [Vec3.dot_eq, Vec3.sub_eq, place, pull]
  ring

/-- The pullback of a multiple. -/
theorem pull_scale : m.pull (v.scale t) = (m.pull v).scale t := by
  simp only [Vec3.scale_eq, pull, Vec3.mk.injEq]
  refine ⟨?_, ?_, ?_⟩ <;> ring

omit [LinearOrder K] [FloorRing K] in
/-- The pullback of no direction. -/
theorem pull_zero : m.pull ⟨0, 0, 0⟩ = ⟨0, 0, 0⟩ := by simp [pull]

/-- The normal of the image of a triangle is pulled back to that of the triangle, times the
determinant. -/
theorem pull_normal : m.pull (Vec3.normal (m.place a) (m.place b) (m.place c)) =
    (Vec3.normal a b c).scale m.linear.det := by
  simp only [Vec3.normal_eq, Vec3.scale_eq, place, pull, linear, det_fin_three, Vec3.mk.injEq]
  refine ⟨?_, ?_, ?_⟩ <;> simp <;> ring

omit [LinearOrder K] [FloorRing K] in
/-- The pullback is the product with the transposed linear part. -/
theorem column_pull : (m.pull v).column = m.linearᵀ *ᵥ v.column := by
  ext i
  simp only [Vec3.column, pull, linear]
  fin_cases i <;> simp [Matrix.mulVec, dotProduct, Fin.sum_univ_three]

omit [LinearOrder K] [FloorRing K] in
/-- Under a transform that can be undone, directions with one pullback are the same. -/
theorem pull_injective (hdet : m.linear.det ≠ 0) (h : m.pull v = m.pull w) : v = w := by
  have hzero : m.linearᵀ *ᵥ (v.column - w.column) = 0 := by
    rw [mulVec_sub, ← column_pull, ← column_pull, h, sub_self]
  have hcolumn : v.column = w.column := by
    refine sub_eq_zero.1 (eq_zero_of_mulVec_eq_zero ?_ hzero)
    rwa [det_transpose]
  have hcoord (i : Fin 3) : v.column i = w.column i := congrFun hcolumn i
  obtain ⟨x, y, z⟩ := v
  obtain ⟨x', y', z'⟩ := w
  rw [Vec3.mk.injEq]
  exact ⟨hcoord 0, hcoord 1, hcoord 2⟩

end Transform

/-! ## Outward normals of images -/

namespace IsOutwardNormal

variable {solid : Set (Vec3 K)} {m : Transform K} {a b c v : Vec3 K} {t : K}

/-- The outward normals of an image are those directions whose pullbacks are outward normals. -/
theorem image_iff (hdet : m.linear.det ≠ 0) :
    IsOutwardNormal (m.place '' solid) (m.place a) (m.place b) (m.place c) v ↔
      IsOutwardNormal solid a b c (m.pull v) := by
  have hzero : v = ⟨0, 0, 0⟩ ↔ m.pull v = ⟨0, 0, 0⟩ := by
    refine ⟨fun h => by rw [h, Transform.pull_zero], fun h => Transform.pull_injective hdet ?_⟩
    rw [h, Transform.pull_zero]
  constructor
  · intro h
    refine ⟨fun h0 => h.ne_zero (hzero.2 h0), ?_, ?_, fun p hp => ?_⟩
    · rw [← Transform.dot_pull, h.second]
    · rw [← Transform.dot_pull, h.third]
    · rw [← Transform.dot_pull]
      exact h.behind _ ⟨p, hp, rfl⟩
  · intro h
    refine ⟨fun h0 => h.ne_zero (hzero.1 h0), ?_, ?_, ?_⟩
    · rw [Transform.dot_pull, h.second]
    · rw [Transform.dot_pull, h.third]
    · rintro _ ⟨p, hp, rfl⟩
      rw [Transform.dot_pull]
      exact h.behind p hp

variable [IsStrictOrderedRing K]

/-- A positive multiple of an outward normal is one. -/
theorem scale (h : IsOutwardNormal solid a b c v) (ht : 0 < t) :
    IsOutwardNormal solid a b c (v.scale t) := by
  refine ⟨fun h0 => ?_, ?_, ?_, fun p hp => ?_⟩
  · exact (Vec3.scale_eq_zero.1 h0).elim ht.ne' h.ne_zero
  · rw [Vec3.scale_dot, h.second, mul_zero]
  · rw [Vec3.scale_dot, h.third, mul_zero]
  · rw [Vec3.scale_dot]
    exact mul_nonpos_of_nonneg_of_nonpos ht.le (h.behind p hp)

/-- A solid that has points behind the plane of a triangle has one outward normal there, up to
positive factors. -/
theorem exists_eq_scale (h : IsOutwardNormal solid a b c (Vec3.normal a b c))
    (hsolid : ∃ p ∈ solid, (Vec3.normal a b c).dot (p.sub a) < 0)
    (hv : IsOutwardNormal solid a b c v) : ∃ t, 0 < t ∧ v = (Vec3.normal a b c).scale t := by
  obtain ⟨n, hn⟩ : ∃ n, n = Vec3.normal a b c := ⟨_, rfl⟩
  have hmultiple : v.scale (n.dot n) = n.scale (v.dot n) := by
    rw [hn]
    exact Vec3.scale_eq_of_orthogonal hv.second hv.third
  rw [← hn] at h hsolid ⊢
  have hsquare : 0 < n.dot n := Vec3.dot_self_pos h.ne_zero
  have hv' : v = n.scale (v.dot n / n.dot n) :=
    calc v = (v.scale (n.dot n)).scale (n.dot n)⁻¹ := by
            rw [Vec3.scale_scale, mul_inv_cancel₀ hsquare.ne', Vec3.scale_one]
      _ = n.scale (v.dot n / n.dot n) := by
            rw [hmultiple, Vec3.scale_scale, div_eq_mul_inv]
  refine ⟨v.dot n / n.dot n, ?_, hv'⟩
  -- both have the solid behind them, so they do not have opposite directions
  obtain ⟨p, hp, hlt⟩ := hsolid
  have hle := hv.behind p hp
  rw [hv', Vec3.scale_dot] at hle
  refine lt_of_le_of_ne (nonneg_of_mul_nonpos_left hle hlt) fun h0 => hv.ne_zero ?_
  rw [hv', Vec3.scale_eq_zero, ← h0]
  exact .inl rfl

/-- If the normal of a triangle is an outward normal of a solid, then the normal of its image is one
of the image of the solid, times the determinant. -/
theorem image (h : IsOutwardNormal solid a b c (Vec3.normal a b c)) (hdet : m.linear.det ≠ 0) :
    IsOutwardNormal (m.place '' solid) (m.place a) (m.place b) (m.place c)
      ((Vec3.normal (m.place a) (m.place b) (m.place c)).scale m.linear.det) := by
  rw [image_iff hdet, Transform.pull_scale, Transform.pull_normal, Vec3.scale_scale]
  exact h.scale (mul_self_pos.2 hdet)

/-- An outward normal of the image of a solid is the normal of the image of the triangle, times the
determinant, up to positive factors. -/
theorem exists_scale_eq (h : IsOutwardNormal solid a b c (Vec3.normal a b c))
    (hsolid : ∃ p ∈ solid, (Vec3.normal a b c).dot (p.sub a) < 0) (hdet : m.linear.det ≠ 0)
    (hv : IsOutwardNormal (m.place '' solid) (m.place a) (m.place b) (m.place c) v) :
    ∃ t, 0 < t ∧
      (Vec3.normal (m.place a) (m.place b) (m.place c)).scale t = v.scale m.linear.det := by
  obtain ⟨t, ht, heq⟩ := h.exists_eq_scale hsolid ((image_iff hdet).1 hv)
  refine ⟨t, ht, Transform.pull_injective hdet ?_⟩
  rw [Transform.pull_scale, Transform.pull_scale, Transform.pull_normal, heq, Vec3.scale_scale,
    Vec3.scale_scale, mul_comm]

end IsOutwardNormal

end SceneScript
