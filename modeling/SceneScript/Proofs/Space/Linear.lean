import Mathlib.Algebra.Order.Floor.Ring
import Mathlib.LinearAlgebra.Matrix.Determinant.Basic
import Mathlib.Tactic.LinearCombination
import Mathlib.Tactic.Ring
import SceneScript.Space.Geometry

/-!
# Linear parts of transforms

Exact arithmetic in any ordered field with floors, such as the real numbers. The transforms that a
script can name, and with them all their products, keep the last coordinate of homogeneous points.
Then the image of a point is again a point, which the linear part and the offset make of it
(`Transform.apply_homogeneous`), and the linear part of a product is the product of the linear parts
(`Transform.linear_compose`). Rotations and translations have orthogonal linear parts, and an
orthogonal one keeps distances (`Transform.distance_place`).
-/

open Matrix

namespace SceneScript

/-- Exact arithmetic in an ordered field with floors. -/
instance (priority := 50) Scalar.ofField {K : Type} [Field K] [LinearOrder K] [FloorRing K] :
    Scalar K where
  decLt := inferInstance
  decLe := inferInstance
  floor v := (⌊v⌋ : Int)
  ceil v := (⌈v⌉ : Int)
  toCell := Int.floor
  cellFault? _ := none
  isDepth _ := true

variable {K : Type} [Field K] [LinearOrder K] [FloorRing K]

/-- The coordinates of a direction as a column. -/
def Vec3.column {K : Type} (v : Vec3 K) : Fin 3 → K := ![v.x, v.y, v.z]

/-- The square of the distance of two points. -/
def Vec3.distance (p q : Vec3 K) : K := (p.sub q).dot (p.sub q)

namespace Transform

/-- The three rows and columns from the upper left. -/
def linear (m : Transform K) : Matrix (Fin 3) (Fin 3) K :=
  !![m.row₁.x, m.row₁.y, m.row₁.z; m.row₂.x, m.row₂.y, m.row₂.z; m.row₃.x, m.row₃.y, m.row₃.z]

/-- Where the linear part and the offset take a point. -/
def place (m : Transform K) (p : Vec3 K) : Vec3 K :=
  ⟨m.row₁.x * p.x + m.row₁.y * p.y + m.row₁.z * p.z + m.row₁.w,
    m.row₂.x * p.x + m.row₂.y * p.y + m.row₂.z * p.z + m.row₂.w,
    m.row₃.x * p.x + m.row₃.y * p.y + m.row₃.z * p.z + m.row₃.w⟩

variable {a b m : Transform K} {p q : Vec3 K}

/-- A transform that keeps the last coordinate takes points to points. -/
theorem apply_homogeneous (h : m.row₄ = ⟨0, 0, 0, 1⟩) :
    m.apply p.homogeneous = (m.place p).homogeneous := by
  show (⟨m.row₁.x * p.x + m.row₁.y * p.y + m.row₁.z * p.z + m.row₁.w * 1,
    m.row₂.x * p.x + m.row₂.y * p.y + m.row₂.z * p.z + m.row₂.w * 1,
    m.row₃.x * p.x + m.row₃.y * p.y + m.row₃.z * p.z + m.row₃.w * 1,
    m.row₄.x * p.x + m.row₄.y * p.y + m.row₄.z * p.z + m.row₄.w * 1⟩ : Vec4 K) =
      ⟨(m.place p).x, (m.place p).y, (m.place p).z, 1⟩
  simp [h, place]

/-- A row of a product. -/
theorem composeRow_eq {row : Vec4 K} : composeRow row b =
    ⟨row.x * b.row₁.x + row.y * b.row₂.x + row.z * b.row₃.x + row.w * b.row₄.x,
      row.x * b.row₁.y + row.y * b.row₂.y + row.z * b.row₃.y + row.w * b.row₄.y,
      row.x * b.row₁.z + row.y * b.row₂.z + row.z * b.row₃.z + row.w * b.row₄.z,
      row.x * b.row₁.w + row.y * b.row₂.w + row.z * b.row₃.w + row.w * b.row₄.w⟩ := rfl

/-- A product of transforms that keep the last coordinate keeps it. -/
theorem row₄_compose (ha : a.row₄ = ⟨0, 0, 0, 1⟩) (hb : b.row₄ = ⟨0, 0, 0, 1⟩) :
    (a.compose b).row₄ = ⟨0, 0, 0, 1⟩ := by
  show composeRow a.row₄ b = _
  rw [ha, composeRow_eq, hb]
  simp

/-- The linear part of a product is the product of the linear parts. -/
theorem linear_compose (hb : b.row₄ = ⟨0, 0, 0, 1⟩) :
    (a.compose b).linear = a.linear * b.linear := by
  ext i j
  simp only [linear, compose, composeRow_eq, hb, Matrix.mul_apply, Fin.sum_univ_three]
  fin_cases i <;> fin_cases j <;> simp

/-! ## The transforms of a script -/

/-- The screen is not distorted. -/
theorem linear_identity : (identity : Transform K).linear = 1 := one_fin_three.symm

/-- A translation does nothing to directions. -/
theorem linear_translation {v : Vec3 K} : (translation v).linear = 1 := one_fin_three.symm

/-- A scaling multiplies volumes by all of its factors. -/
theorem det_linear_scaling {v : Vec3 K} : (scaling v).linear.det = v.x * v.y * v.z := by
  show det !![v.x, 0, 0; 0, v.y, 0; 0, 0, v.z] = _
  simp [det_fin_three]

section
variable {axis : Axis} {c s : K}

/-- The linear part of a rotation. -/
theorem linear_rotation : (rotation axis c s).linear = match axis with
    | .x => !![1, 0, 0; 0, c, -s; 0, s, c]
    | .y => !![c, 0, s; 0, 1, 0; -s, 0, c]
    | .z => !![c, -s, 0; s, c, 0; 0, 0, 1] := by cases axis <;> rfl

/-- A rotation keeps the last coordinate. -/
theorem row₄_rotation : (rotation axis c s).row₄ = ⟨0, 0, 0, 1⟩ := by cases axis <;> rfl

/-- A rotation is orthogonal. -/
theorem transpose_mul_linear_rotation (h : c * c + s * s = 1) :
    (rotation axis c s).linearᵀ * (rotation axis c s).linear = 1 := by
  have h' : s * s + c * c = 1 := by rw [add_comm, h]
  rw [linear_rotation]
  cases axis <;> ext i j <;> fin_cases i <;> fin_cases j <;>
    simp [Matrix.mul_apply, Fin.sum_univ_three, h, h', mul_comm]

/-- A rotation leaves volumes and their orientation. -/
theorem det_linear_rotation (h : c * c + s * s = 1) : (rotation axis c s).linear.det = 1 := by
  rw [linear_rotation]
  cases axis <;> simp [det_fin_three] <;> linear_combination h

end

/-! ## Distances -/

/-- The images of two points are apart as the linear part takes the direction between them. -/
theorem column_sub_place : ((m.place p).sub (m.place q)).column = m.linear *ᵥ (p.sub q).column := by
  show ![(m.place p).x - (m.place q).x, (m.place p).y - (m.place q).y,
    (m.place p).z - (m.place q).z] = m.linear *ᵥ ![p.x - q.x, p.y - q.y, p.z - q.z]
  ext i
  simp only [place, linear]
  fin_cases i <;> simp [Matrix.mulVec, dotProduct, Fin.sum_univ_three] <;> ring

/-- An orthogonal linear part keeps distances. -/
theorem distance_place (h : m.linearᵀ * m.linear = 1) :
    Vec3.distance (m.place p) (m.place q) = Vec3.distance p q := by
  have hdot (v : Vec3 K) : v.dot v = v.column ⬝ᵥ v.column := by
    show v.x * v.x + v.y * v.y + v.z * v.z = _
    simp [Vec3.column, dotProduct, Fin.sum_univ_three]
  rw [Vec3.distance, Vec3.distance, hdot, hdot, column_sub_place]
  calc m.linear *ᵥ (p.sub q).column ⬝ᵥ m.linear *ᵥ (p.sub q).column
      = (m.linearᵀ * m.linear) *ᵥ (p.sub q).column ⬝ᵥ (p.sub q).column := by
        rw [dotProduct_mulVec, ← mulVec_transpose, mulVec_mulVec]
    _ = (p.sub q).column ⬝ᵥ (p.sub q).column := by rw [h, one_mulVec]

end Transform

end SceneScript
