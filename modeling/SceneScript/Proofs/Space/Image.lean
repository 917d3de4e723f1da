import Mathlib.LinearAlgebra.Matrix.Determinant.Basic
import SceneScript.Proofs.Space.Triangle
import SceneScript.Space.Transform

/-!
# Images under transforms

The image of a point under a transform, in exact coordinates. A transform takes triangles to
triangles. The line of sight of the screen comes from a direction of the space that is transformed
(`Transform.sight`): going along it changes the depth of the image alone, by the determinant
(`Transform.image_along_sight`), and a triangle is seen from its front if its normal has an acute
angle with it (`Transform.area_image`).
-/

namespace SceneScript

namespace Transform

/-- The image of a point of space. -/
def image (m : Transform ℚ) (p : Vec3 ℚ) : Vec3 ℚ := (m.apply p.homogeneous).point

/-- Whether a transform keeps the last coordinate of homogeneous points. -/
def IsAffine (m : Transform ℚ) : Prop := m.row₄ = ⟨0, 0, 0, 1⟩

/-- A transform as a matrix. -/
def matrix (m : Transform ℚ) : Matrix (Fin 4) (Fin 4) ℚ :=
  !![m.row₁.x, m.row₁.y, m.row₁.z, m.row₁.w;
     m.row₂.x, m.row₂.y, m.row₂.z, m.row₂.w;
     m.row₃.x, m.row₃.y, m.row₃.z, m.row₃.w;
     m.row₄.x, m.row₄.y, m.row₄.z, m.row₄.w]

/-- The direction that the line of sight comes from: the image of a point does not move on the
screen when the point goes along it. -/
def sight (m : Transform ℚ) : Vec3 ℚ :=
  ⟨m.row₁.y * m.row₂.z - m.row₁.z * m.row₂.y, m.row₁.z * m.row₂.x - m.row₁.x * m.row₂.z,
    m.row₁.x * m.row₂.y - m.row₁.y * m.row₂.x⟩

variable {m : Transform ℚ} {a b c p q : Vec3 ℚ}

/-- The coordinates of an image. -/
theorem image_eq : m.image p =
    ⟨m.row₁.x * p.x + m.row₁.y * p.y + m.row₁.z * p.z + m.row₁.w * 1,
      m.row₂.x * p.x + m.row₂.y * p.y + m.row₂.z * p.z + m.row₂.w * 1,
      m.row₃.x * p.x + m.row₃.y * p.y + m.row₃.z * p.z + m.row₃.w * 1⟩ := rfl

/-- The determinant of an affine transform is the third row along the line of sight. -/
theorem det_matrix (hm : m.IsAffine) : m.matrix.det =
    m.row₃.x * m.sight.x + m.row₃.y * m.sight.y + m.row₃.z * m.sight.z := by
  have h₁ : (Fin.succAbove 1 2 : Fin 4) = 3 := rfl
  have h₂ : (Fin.succAbove 2 2 : Fin 4) = 3 := rfl
  have h₃ : (Fin.succAbove 3 2 : Fin 4) = 2 := rfl
  rw [IsAffine] at hm
  simp [matrix, hm, sight, Matrix.det_succ_row_zero, Fin.sum_univ_succ, h₁, h₂, h₃]
  ring

/-- Along the line of sight the depth of an image grows by the determinant, and nothing else
changes. -/
theorem image_along_sight (hm : m.IsAffine) (t : ℚ) :
    m.image ⟨p.x + t * m.sight.x, p.y + t * m.sight.y, p.z + t * m.sight.z⟩ =
      ⟨(m.image p).x, (m.image p).y, (m.image p).z + t * m.matrix.det⟩ := by
  rw [det_matrix hm]
  simp only [image_eq, sight, Vec3.mk.injEq]
  refine ⟨?_, ?_, ?_⟩ <;> ring

/-- How much of a triangle is seen, and from which side: its normal along the line of sight. -/
theorem area_image : Triangle.area (m.image a) (m.image b) (m.image c) =
    (Vec3.normal a b c).x * m.sight.x + (Vec3.normal a b c).y * m.sight.y +
      (Vec3.normal a b c).z * m.sight.z := by
  simp only [Triangle.normal_eq, Triangle.area, image_eq, sight]
  ring

/-- The image of a weighted mean is that of the images. -/
theorem image_mean {u v w : ℚ} (hsum : u + v + w = 1) :
    m.image ⟨u * a.x + v * b.x + w * c.x, u * a.y + v * b.y + w * c.y,
        u * a.z + v * b.z + w * c.z⟩ =
      ⟨u * (m.image a).x + v * (m.image b).x + w * (m.image c).x,
        u * (m.image a).y + v * (m.image b).y + w * (m.image c).y,
        u * (m.image a).z + v * (m.image b).z + w * (m.image c).z⟩ := by
  obtain rfl : u = 1 - v - w := by linarith
  simp only [image_eq, Vec3.mk.injEq]
  refine ⟨?_, ?_, ?_⟩ <;> ring

/-- The image of a triangle is the triangle of the images. -/
theorem contains_image : Triangle.Contains (m.image a) (m.image b) (m.image c) q ↔
    ∃ p, Triangle.Contains a b c p ∧ m.image p = q := by
  constructor
  · rintro ⟨u, v, w, hu, hv, hw, hsum, rfl⟩
    exact ⟨_, ⟨u, v, w, hu, hv, hw, hsum, rfl⟩, image_mean hsum⟩
  · rintro ⟨p, ⟨u, v, w, hu, hv, hw, hsum, rfl⟩, rfl⟩
    exact ⟨u, v, w, hu, hv, hw, hsum, image_mean hsum⟩

end Transform

end SceneScript
