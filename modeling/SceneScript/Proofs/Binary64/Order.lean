import Mathlib
import SceneScript.Binary64

/-!
# The order of doubles

Doubles are compared by sign, exponent and significand; zeros of either sign are equal, and an
undefined double is neither above, below nor equal to any. `Binary64.rank?` puts every double that
is defined into a linear order with negative infinity at its bottom, so that each comparison of
doubles is the comparison of their ranks (`lt_iff_rank`, `le_iff_rank`, `beq_iff_rank`), and facts
about maxima and ties are those of a linear order.
-/

namespace SceneScript

namespace Binary64

open Float.Model (UnpackedFloat)

/-- The places of the doubles that are defined: negative infinity, and above it the others by their
sign, exponent and significand. -/
abbrev Rank := WithBot (ℤ ×ₗ ℤ ×ₗ ℤ)

/-- The rank of a double above negative infinity. -/
def Rank.of (sign exponent significand : ℤ) : Rank :=
  ((toLex (sign, toLex (exponent, significand)) : ℤ ×ₗ ℤ ×ₗ ℤ) : WithBot (ℤ ×ₗ ℤ ×ₗ ℤ))

/-- The rank of the number that a double holds. The exponents and significands of negative numbers
count downwards. -/
def rankOf? : UnpackedFloat → Option Rank
  | .notANumber => none
  | .infinity .negative => some ⊥
  | .finite .negative m e _ => some (.of (-1) (-e) (-m))
  | .zero _ => some (.of 0 0 0)
  | .finite .positive m e _ => some (.of 1 e m)
  | .infinity .positive => some (.of 2 0 0)

/-- The rank of a double, which an undefined one does not have. -/
def rank? (x : Float) : Option Rank := rankOf? x.toModel.unpack

theorem Rank.of_lt_of {a b c a' b' c' : ℤ} :
    Rank.of a b c < Rank.of a' b' c' ↔ a < a' ∨ a = a' ∧ (b < b' ∨ b = b' ∧ c < c') := by
  simp [Rank.of, Prod.Lex.toLex_lt_toLex]

theorem Rank.of_inj {a b c a' b' c' : ℤ} :
    Rank.of a b c = Rank.of a' b' c' ↔ a = a' ∧ b = b' ∧ c = c' := by
  simp [Rank.of]

/-- Ranks are compared part by part. -/
theorem Rank.compare_of (a b c a' b' c' : ℤ) :
    compare (Rank.of a b c) (Rank.of a' b' c') =
      ((compare a a').then (compare b b')).then (compare c c') := by
  rcases lt_trichotomy (Rank.of a b c) (Rank.of a' b' c') with h | h | h
  · rw [compare_lt_iff_lt.2 h, eq_comm]
    rw [Rank.of_lt_of] at h
    simp only [Ordering.then_eq_lt, compare_lt_iff_lt, compare_eq_iff_eq, Ordering.then_eq_eq]
    omega
  · obtain ⟨rfl, rfl, rfl⟩ := Rank.of_inj.1 h
    simp
  · rw [compare_gt_iff_gt.2 h, eq_comm]
    rw [Rank.of_lt_of] at h
    simp only [Ordering.then_eq_gt, compare_gt_iff_gt, compare_eq_iff_eq, Ordering.then_eq_eq]
    omega

/-- Negation turns a comparison around. -/
theorem compare_neg (a b : ℤ) : compare (-a) (-b) = (compare a b).swap := by
  rcases lt_trichotomy a b with h | rfl | h
  · rw [compare_lt_iff_lt.2 h]
    simpa [compare_gt_iff_gt] using h
  · simp
  · rw [compare_gt_iff_gt.2 h]
    simpa [compare_lt_iff_lt] using h

/-- Natural numbers are compared as integers. -/
theorem compare_natCast (m n : ℕ) : compare (m : ℤ) (n : ℤ) = compare m n := by
  rcases lt_trichotomy m n with h | rfl | h
  · rw [compare_lt_iff_lt.2 h, compare_lt_iff_lt]
    exact_mod_cast h
  · simp
  · rw [compare_gt_iff_gt.2 h, compare_gt_iff_gt]
    exact_mod_cast h

/-- The comparison of two numbers that doubles hold is that of their ranks, if both have one. -/
theorem compare_eq_rankOf (a b : UnpackedFloat) :
    a.compare b = (rankOf? a).bind fun i => (rankOf? b).map (compare i) := by
  cases a with
  | notANumber => simp [UnpackedFloat.compare, rankOf?]
  | infinity s =>
    cases b with
    | notANumber => cases s <;> rfl
    | infinity t | zero t => cases s <;> cases t <;> rfl
    | finite t m e h =>
      cases s <;> cases t <;> simp [UnpackedFloat.compare, rankOf?, Rank.compare_of] <;> rfl
  | zero s =>
    cases b with
    | notANumber => cases s <;> rfl
    | infinity t | zero t => cases s <;> cases t <;> rfl
    | finite t m e h =>
      cases s <;> cases t <;> simp [UnpackedFloat.compare, rankOf?, Rank.compare_of] <;> rfl
  | finite s m e h =>
    cases b with
    | notANumber => cases s <;> rfl
    | infinity t | zero t =>
      cases s <;> cases t <;> simp [UnpackedFloat.compare, rankOf?, Rank.compare_of] <;> rfl
    | finite t m' e' h' =>
      cases s <;> cases t <;>
        simp [UnpackedFloat.compare, rankOf?, Rank.compare_of, compare_neg, compare_natCast,
          Ordering.swap_then] <;> rfl

/-- A double is below another when both have a rank and its rank is below. -/
theorem lt_iff_rank {a b : Float} :
    a < b ↔ ∃ i j, rank? a = some i ∧ rank? b = some j ∧ i < j := by
  have h : a < b ↔ (a.toModel.unpack.compare b.toModel.unpack == some .lt) = true :=
    decide_eq_true_iff
  rw [h, compare_eq_rankOf, beq_iff_eq]
  simp only [Option.bind_eq_some_iff, Option.map_eq_some_iff, compare_lt_iff_lt, rank?]
  exact ⟨fun ⟨i, hi, j, hj, h⟩ => ⟨i, j, hi, hj, h⟩, fun ⟨i, j, hi, hj, h⟩ => ⟨i, hi, j, hj, h⟩⟩

/-- A double is at most another when both have a rank and its rank is at most the other. -/
theorem le_iff_rank {a b : Float} :
    a ≤ b ↔ ∃ i j, rank? a = some i ∧ rank? b = some j ∧ i ≤ j := by
  have h : a ≤ b ↔ ((a.toModel.unpack.compare b.toModel.unpack).any (·.isLE)) = true :=
    decide_eq_true_iff
  rw [h, compare_eq_rankOf, Option.any_eq_true]
  simp only [Option.bind_eq_some_iff, Option.map_eq_some_iff, rank?]
  constructor
  · rintro ⟨o, ⟨i, hi, j, hj, rfl⟩, h⟩
    exact ⟨i, j, hi, hj, compare_le_iff_le.1 (Ordering.isLE_iff_ne_gt.1 h)⟩
  · rintro ⟨i, j, hi, hj, h⟩
    exact ⟨_, ⟨i, hi, j, hj, rfl⟩, Ordering.isLE_iff_ne_gt.2 (compare_le_iff_le.2 h)⟩

/-- Doubles are equal when they have the same rank. -/
theorem beq_iff_rank {a b : Float} :
    (a == b) = true ↔ ∃ i, rank? a = some i ∧ rank? b = some i := by
  show (a.toModel.unpack.compare b.toModel.unpack == some .eq) = true ↔ _
  rw [compare_eq_rankOf, beq_iff_eq]
  simp only [Option.bind_eq_some_iff, Option.map_eq_some_iff, compare_eq_iff_eq, rank?]
  exact ⟨fun ⟨i, hi, j, hj, h⟩ => ⟨i, hi, h ▸ hj⟩, fun ⟨i, hi, hj⟩ => ⟨i, hi, i, hj, rfl⟩⟩

/-- The doubles without a rank are the undefined ones. -/
theorem rank?_eq_none_iff {a : Float} : rank? a = none ↔ a.isNaN = true := by
  show rankOf? a.toModel.unpack = none ↔ a.toModel.unpack.isNaN = true
  cases a.toModel.unpack with
  | notANumber => exact ⟨fun _ => rfl, fun _ => rfl⟩
  | infinity s | zero s | finite s => cases s <;> simp [rankOf?, UnpackedFloat.isNaN]

/-- Negative infinity is at the bottom. -/
@[simp] theorem rank?_negative_infinity : rank? (-1.0 / 0.0) = some ⊥ := rfl

end Binary64

end SceneScript
