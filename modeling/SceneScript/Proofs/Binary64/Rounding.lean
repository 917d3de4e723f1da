import SceneScript.Proofs.Binary64.Packing

/-!
# Rounding to doubles

A number is rounded to a multiple of the spacing that the doubles have around it, at most half of
the spacing away (`Nearest`), or to an infinity if it is beyond all doubles (`Rounds`). So a rounded
number has no other sign (`Nearest.nonneg`), a small relative error (`Nearest.abs_sub_le`), and is
the number itself if that is a double (`Nearest.eq_of_isMultiple`).

Rounding shifts the significand until it has 53 digits, and remembers in two further digits where
the number lies between the significand and the next one (`Approximates`). Each shift keeps what
they say (`Approximates.shiftRight`), so the number that is rounded is the one at the start
(`rounds_roundWithAccuracy`).
-/

namespace SceneScript

namespace Binary64

open Float.Model (Format UnpackedFloat totalExponent)
open Float.Model.UnpackedFloat (Sign Accuracy ExtendedMantissa roundWithAccuracy
  shiftToTargetExponent)

/-- A power of two is twice the one before. -/
theorem zpow_eq_half_mul_two (t : ℤ) : (2 : ℚ) ^ t = 2 ^ (t - 1) * 2 := by
  rw [← zpow_add_one₀ two_ne_zero, sub_add_cancel]

/-! ## Nearest doubles -/

/-- The second number is what the first is rounded to if exponents have no end: a multiple of the
spacing of the doubles, at most half of it away. The spacing is the least one or belongs to doubles
that are not above the number. -/
def Nearest (x y : ℚ) : Prop :=
  ∃ t r : ℤ, -1074 ≤ t ∧ (t = -1074 ∨ 2 ^ (t + 52) ≤ |x|) ∧ y = r * 2 ^ t ∧ |y - x| ≤ 2 ^ (t - 1)

namespace Nearest

variable {x y : ℚ}

/-- Zero is rounded to itself. -/
theorem zero : Nearest 0 0 := ⟨-1074, 0, le_rfl, .inl rfl, by simp, by simp⟩

/-- Numbers of opposite sign are rounded alike. -/
theorem neg (h : Nearest x y) : Nearest (-x) (-y) := by
  obtain ⟨t, r, hleast, hspacing, rfl, hdist⟩ := h
  refine ⟨t, -r, hleast, by rwa [abs_neg], by push_cast; ring, ?_⟩
  rwa [neg_sub_neg, abs_sub_comm]

/-- What is not negative is not rounded to a negative number. -/
theorem nonneg (h : Nearest x y) (hx : 0 ≤ x) : 0 ≤ y := by
  obtain ⟨t, r, -, -, rfl, hdist⟩ := h
  have hpos : (0 : ℚ) < 2 ^ (t - 1) := by positivity
  have hr : -1 ≤ r * 2 := by
    have hlow : -(2 : ℚ) ^ (t - 1) ≤ r * 2 * 2 ^ (t - 1) := by
      have := (abs_le.1 hdist).1
      rw [zpow_eq_half_mul_two t] at this
      linarith
    have : (-1 : ℚ) ≤ r * 2 := by
      by_contra hlt
      nlinarith
    exact_mod_cast this
  have : (0 : ℚ) ≤ r := by exact_mod_cast (by omega : 0 ≤ r)
  positivity

/-- What is not positive is not rounded to a positive number. -/
theorem nonpos (h : Nearest x y) (hx : x ≤ 0) : y ≤ 0 := by
  have := h.neg.nonneg (by linarith)
  linarith

/-- The error of rounding is small against the number, or below the least double. -/
theorem abs_sub_le (h : Nearest x y) : |y - x| ≤ 2 ^ (-53 : ℤ) * |x| + 2 ^ (-1075 : ℤ) := by
  obtain ⟨t, r, -, hspacing, -, hdist⟩ := h
  have hx : (0 : ℚ) ≤ 2 ^ (-53 : ℤ) * |x| := by positivity
  have hleast : (0 : ℚ) < 2 ^ (-1075 : ℤ) := by positivity
  rcases hspacing with rfl | hspacing
  · have hdist : |y - x| ≤ 2 ^ (-1075 : ℤ) := hdist
    linarith
  · have hhalf : (2 : ℚ) ^ (t - 1) = 2 ^ (-53 : ℤ) * 2 ^ (t + 52) := by
      rw [← zpow_add₀ two_ne_zero]
      congr 1
      ring
    have : (2 : ℚ) ^ (-53 : ℤ) * 2 ^ (t + 52) ≤ 2 ^ (-53 : ℤ) * |x| := by gcongr
    linarith

/-- Rounding makes a number larger by its error at most. -/
theorem abs_le (h : Nearest x y) : |y| ≤ (1 + 2 ^ (-53 : ℤ)) * |x| + 2 ^ (-1075 : ℤ) := by
  have hsum : |y| ≤ |y - x| + |x| := by simpa using abs_add_le (y - x) x
  linarith [h.abs_sub_le]

/-- A number that is a double is rounded to itself. -/
theorem eq_of_isMultiple {m e : ℤ} (h : Nearest (m * 2 ^ e) y) (hm : |m| < 2 ^ 53)
    (he : -1074 ≤ e) : y = m * 2 ^ e := by
  obtain ⟨t, r, -, hspacing, rfl, hdist⟩ := h
  -- the spacing divides the number
  have hte : t ≤ e := by
    rcases hspacing with rfl | hspacing
    · exact he
    · have hlt : (2 : ℚ) ^ (t + 52) < 2 ^ (53 + e) := by
        calc (2 : ℚ) ^ (t + 52) ≤ |(m : ℚ)| * 2 ^ e := by
              rwa [abs_mul, abs_of_pos (zpow_pos (two_pos : (0 : ℚ) < 2) e)] at hspacing
          _ < 2 ^ 53 * 2 ^ e := by
              have : |(m : ℚ)| < 2 ^ 53 := by exact_mod_cast hm
              gcongr
          _ = 2 ^ (53 + e) := by rw [zpow_add₀ two_ne_zero]; rfl
      have := (zpow_lt_zpow_iff_right₀ one_lt_two).1 hlt
      omega
  obtain ⟨k, rfl⟩ := Int.le.dest hte
  have hmultiple : (m : ℚ) * 2 ^ (t + k : ℤ) = (m * 2 ^ k : ℤ) * 2 ^ t := by
    rw [zpow_add₀ two_ne_zero, zpow_natCast]
    push_cast
    ring
  rw [hmultiple] at hdist ⊢
  -- two multiples at most half of the spacing apart are one
  have hclose : |((r - m * 2 ^ k : ℤ) : ℚ)| * 2 ≤ 1 := by
    have hpos : (0 : ℚ) < 2 ^ (t - 1) := by positivity
    rw [← sub_mul, abs_mul, abs_of_pos (zpow_pos (two_pos : (0 : ℚ) < 2) t), zpow_eq_half_mul_two,
      ← Int.cast_sub] at hdist
    by_contra hgt
    nlinarith
  have hclose : |r - m * 2 ^ k| * 2 ≤ 1 := by exact_mod_cast hclose
  have : r - m * 2 ^ k = 0 := abs_eq_zero.1 (by have := abs_nonneg (r - m * 2 ^ k); omega)
  rw [sub_eq_zero.1 this]

end Nearest

/-! ## Significands with two further digits -/

/-- Where a number lies between a significand and the next one: on the significand, before the
middle, in the middle or behind it, as the two further digits say. -/
def Approximates (em : ExtendedMantissa) (v : ℚ) : Prop :=
  ∃ part : ℚ, v = em.mantissa + part ∧
    match em.roundBit, em.stickyBit with
    | false, false => part = 0
    | false, true => 0 < part ∧ part < 1 / 2
    | true, false => part = 1 / 2
    | true, true => 1 / 2 < part ∧ part < 1

namespace Approximates

variable {em : ExtendedMantissa} {v : ℚ}

/-- A significand without further digits is the number itself. -/
theorem exact (m : ℕ) : Approximates (.ofMantissaAndAccuracy m .exact) m := ⟨0, by simp; rfl, rfl⟩

/-- The number lies between the significand and the next one. -/
theorem bounds (h : Approximates em v) : (em.mantissa : ℚ) ≤ v ∧ v < em.mantissa + 1 := by
  obtain ⟨m, r, s⟩ := em
  obtain ⟨part, rfl, hpart⟩ := h
  cases r <;> cases s <;> simp only at hpart ⊢ <;> constructor <;> linarith

/-- The rounded significand is the significand or the next one, the one that is nearer. -/
theorem roundedMantissa (h : Approximates em v) :
    em.mantissa ≤ em.roundedMantissa ∧ em.roundedMantissa ≤ em.mantissa + 1 ∧
      |(em.roundedMantissa : ℚ) - v| ≤ 1 / 2 := by
  obtain ⟨m, r, s⟩ := em
  obtain ⟨part, rfl, hpart⟩ := h
  have hodd : ((m % 2 : ℕ) : ℚ) ≤ 1 := by exact_mod_cast Nat.lt_succ_iff.1 (Nat.mod_lt m two_pos)
  have heven : (0 : ℚ) ≤ (m % 2 : ℕ) := Nat.cast_nonneg _
  cases r <;> cases s <;>
    simp only [ExtendedMantissa.roundedMantissa, ExtendedMantissa.accuracy,
      Accuracy.roundToNearestEven] at hpart ⊢ <;>
    refine ⟨by omega, by omega, abs_le.2 ⟨?_, ?_⟩⟩ <;> push_cast <;> linarith

/-- A shift halves the number. -/
theorem shiftRightOne (h : Approximates em v) : Approximates em.shiftRightOne (v / 2) := by
  obtain ⟨m, r, s⟩ := em
  obtain ⟨part, rfl, hpart⟩ := h
  have hm : (m : ℚ) = (m / 2 : ℕ) * 2 + (m % 2 : ℕ) := by exact_mod_cast (Nat.div_add_mod' m 2).symm
  refine ⟨((m % 2 : ℕ) + part) / 2, ?_, ?_⟩
  · simp only [ExtendedMantissa.shiftRightOne]
    linarith
  · rcases Nat.mod_two_eq_zero_or_one m with hodd | hodd <;> cases r <;> cases s <;>
      simp only [ExtendedMantissa.shiftRightOne, hodd, Bool.or_false, Bool.or_true,
        bne_self_eq_false, Nat.cast_zero, Nat.cast_one,
        show (1 != 0) = true from rfl] at hpart ⊢ <;>
      first | linarith | constructor <;> linarith

/-- Shifts divide the number by a power of two. -/
theorem shiftRight (h : Approximates em v) (k : ℕ) : Approximates (em >>> k) (v / 2 ^ k) := by
  show Approximates (k.repeat ExtendedMantissa.shiftRightOne em) _
  induction k with
  | zero => simpa [Nat.repeat] using h
  | succ k ih =>
    rw [Nat.repeat, pow_succ, ← div_div]
    exact ih.shiftRightOne

end Approximates

/-! ## The numbers of doubles -/

/-- The sign as a factor. -/
def factor : Sign → ℚ
  | .negative => -1
  | .positive => 1

/-- The number that the parts of a double stand for, if they stand for one. -/
def valueOf? : UnpackedFloat → Option ℚ
  | .zero _ => some 0
  | .finite s m e _ => some (factor s * (m * 2 ^ e))
  | _ => none

/-- A quotient of natural numbers stands for a significand at an exponent. -/
theorem div_quotient (m : ℕ) (e : ℤ) :
    ((quotient m e).1 : ℚ) / (quotient m e).2 = m * 2 ^ e := by
  simp only [quotient, Nat.shiftLeft_eq, one_mul]
  push_cast
  rw [mul_div_assoc, ← zpow_natCast, ← zpow_natCast, ← zpow_sub₀ two_ne_zero]
  congr 2
  omega

/-- The number that a double holds is that of its parts. -/
theorem value?_ofFloat (a : Float) : (ofFloat a).value? = valueOf? a.toModel.unpack := by
  rw [ofFloat_eq]
  cases a.toModel.unpack with
  | notANumber | infinity => rfl
  | zero s =>
    have hvalue := div_quotient 0 (-1074)
    cases s <;> simpa [ofParts, value?, valueOf?] using hvalue
  | finite s m e h =>
    have hvalue := div_quotient m e
    cases s <;> simp only [ofParts, value?, valueOf?, hvalue] <;> simp [factor]

/-- The least number that is rounded to infinity: as far above the greatest double as half of the
spacing there. -/
def overflow : ℚ := 2 ^ (1024 : ℤ) - 2 ^ (970 : ℤ)

/-- The parts of a double stand for the nearest double to a number, or for an infinity if the number
is beyond all doubles. -/
inductive Rounds (x : ℚ) : UnpackedFloat → Prop
  | nearest {u : UnpackedFloat} {y : ℚ} (hy : valueOf? u = some y) (h : Nearest x y) : Rounds x u
  | infinity (s : Sign) (h : overflow ≤ |x|) : Rounds x (.infinity s)

/-- Numbers below half of the range are not rounded to infinity. -/
theorem lt_overflow : (2 : ℚ) ^ (1023 : ℤ) < overflow := by
  have hlt : (2 : ℚ) ^ (970 : ℤ) < 2 ^ (1023 : ℤ) := zpow_lt_zpow_right₀ one_lt_two (by norm_num)
  have hstep : (2 : ℚ) ^ (1024 : ℤ) = 2 ^ (1023 : ℤ) * 2 := zpow_eq_half_mul_two 1024
  rw [overflow, hstep, lt_sub_iff_add_lt, mul_two]
  exact add_lt_add_right hlt _

/-- A number that is not beyond all doubles is rounded to the nearest one. -/
theorem Rounds.exists_nearest {x : ℚ} {a : Float} (h : Rounds x a.toModel.unpack)
    (hx : |x| < overflow) : ∃ y, (ofFloat a).value? = some y ∧ Nearest x y := by
  rw [value?_ofFloat]
  generalize a.toModel.unpack = u at h
  cases h with
  | nearest hy h => exact ⟨_, hy, h⟩
  | infinity s h => exact absurd h (not_le.2 hx)

/-- A number that is rounded to a finite double is near to it. -/
theorem Rounds.nearest_of_value? {x y : ℚ} {a : Float} (h : Rounds x a.toModel.unpack)
    (hy : (ofFloat a).value? = some y) : Nearest x y := by
  rw [value?_ofFloat] at hy
  generalize a.toModel.unpack = u at h hy
  cases h with
  | nearest hy' h =>
    cases hy'.symm.trans hy
    exact h
  | infinity => cases hy

/-! ## Rounding -/

/-- The exponent at which a significand has 53 digits, or the least one. -/
theorem targetExponent_eq (m : ℕ) (e : ℤ) :
    Format.binary64.targetExponent (totalExponent m e) = max (m.log2 + e - 52) (-1074) := by
  show max ((m.log2 : ℤ) + 1 + e - 53) (-1074) = _
  congr 1
  ring

/-- The significand is shifted to that exponent, if it has more digits. -/
theorem shiftToTargetExponent_eq {m k : ℕ} {e : ℤ} (acc : Accuracy)
    (hk : (max ((m.log2 : ℤ) + e - 52) (-1074) - e).toNat = k) :
    shiftToTargetExponent .binary64 m e acc =
      (ExtendedMantissa.ofMantissaAndAccuracy m acc >>> k, e + k) := by
  subst hk
  rw [← targetExponent_eq]
  rfl

/-- After a significand is rounded it is canonical, but for the least significand with 54 digits.
That one loses its last digit, which is zero. -/
theorem shift_carry {r : ℕ} {t : ℤ} (hr : r ≤ 2 ^ 53) (ht : -1074 ≤ t)
    (hfull : 2 ^ 52 ≤ r ∨ t = -1074) :
    ∃ em e, shiftToTargetExponent .binary64 r t .exact = (em, e) ∧
      (em.mantissa : ℚ) * 2 ^ e = r * 2 ^ t ∧ IsCanonical em.mantissa e ∧ e ≤ t + 1 := by
  rcases hr.lt_or_eq with hlt | rfl
  · have hlog : r.log2 < 53 := by
      rcases Nat.eq_zero_or_pos r with rfl | hpos
      · decide
      · exact (Nat.log2_lt hpos.ne').2 hlt
    refine ⟨_, _, shiftToTargetExponent_eq (k := 0) .exact (by omega), ?_⟩
    rw [Nat.cast_zero, add_zero]
    exact ⟨rfl, ⟨hlt, ht, hfull⟩, by omega⟩
  · have hlog : (2 ^ 53).log2 = 53 := Nat.log2_two_pow
    refine ⟨_, _, shiftToTargetExponent_eq (k := 1) .exact (by rw [hlog]; omega), ?_⟩
    show ((2 ^ 52 : ℕ) : ℚ) * 2 ^ (t + 1) = _ ∧ IsCanonical (2 ^ 52) (t + 1) ∧ t + 1 ≤ t + 1
    refine ⟨?_, ⟨by norm_num, by omega, .inl le_rfl⟩, le_rfl⟩
    rw [zpow_add_one₀ two_ne_zero]
    push_cast
    ring

section
variable {m : ℕ} {e t : ℤ} {x : ℚ}

/-- At that exponent a number has at most 53 digits, and fewer only if the exponent is the least. -/
theorem digits_of_le (hlow : m * 2 ^ e ≤ x) (hhigh : x < (m + 1) * 2 ^ e)
    (ht : t = max ((m.log2 : ℤ) + e - 52) (-1074)) (he : e ≤ t) :
    (t = -1074 ∨ 2 ^ (t + 52) ≤ x) ∧ x < 2 ^ (t + 53) := by
  constructor
  · rcases eq_or_ne t (-1074) with hleast | hne
    · exact .inl hleast
    · have hlog : t + 52 = m.log2 + e := by omega
      have hpos : m ≠ 0 := by
        rintro rfl
        simp at hlog
        omega
      have hself : (2 : ℚ) ^ m.log2 ≤ m := by exact_mod_cast Nat.log2_self_le hpos
      right
      rw [hlog, zpow_add₀ two_ne_zero, zpow_natCast]
      exact (by gcongr : (2 : ℚ) ^ m.log2 * 2 ^ e ≤ m * 2 ^ e).trans hlow
  · have hself : (m : ℚ) + 1 ≤ 2 ^ (m.log2 + 1) := by exact_mod_cast Nat.lt_log2_self (n := m)
    calc x < (m + 1) * 2 ^ e := hhigh
      _ ≤ 2 ^ (m.log2 + 1) * 2 ^ e := by gcongr
      _ = 2 ^ ((m.log2 : ℤ) + 1 + e) := by rw [zpow_add₀ two_ne_zero]; norm_cast
      _ ≤ 2 ^ (t + 53) := zpow_le_zpow_right₀ one_le_two (by omega)

/-- The rounded significand at that exponent has as many digits, but for a carry, and is at most
half of the spacing away from the number. -/
theorem Approximates.rounded {em : ExtendedMantissa} (h : Approximates em (x / 2 ^ t))
    (hlow : t = -1074 ∨ 2 ^ (t + 52) ≤ x) (hhigh : x < 2 ^ (t + 53)) :
    em.roundedMantissa ≤ 2 ^ 53 ∧ (2 ^ 52 ≤ em.roundedMantissa ∨ t = -1074) ∧
      |(em.roundedMantissa : ℚ) * 2 ^ t - x| ≤ 2 ^ (t - 1) := by
  have hpos : (0 : ℚ) < 2 ^ t := by positivity
  obtain ⟨hfloor, hceil⟩ := h.bounds
  obtain ⟨hge, hle, hnear⟩ := h.roundedMantissa
  refine ⟨?_, hlow.symm.imp_left fun hlow => ?_, ?_⟩
  · have hlt : x / 2 ^ t < 2 ^ 53 := by
      rwa [div_lt_iff₀ hpos, ← zpow_natCast, ← zpow_add₀ two_ne_zero, add_comm]
    have : em.mantissa < 2 ^ 53 := by exact_mod_cast hfloor.trans_lt hlt
    omega
  · have hgt : (2 : ℚ) ^ 52 ≤ x / 2 ^ t := by
      rwa [le_div_iff₀ hpos, ← zpow_natCast, ← zpow_add₀ two_ne_zero, add_comm]
    have : 2 ^ 52 < em.mantissa + 1 := by exact_mod_cast hgt.trans_lt hceil
    omega
  · have hscaled := mul_le_mul_of_nonneg_right hnear hpos.le
    rw [← abs_of_pos hpos, ← abs_mul, abs_of_pos hpos, sub_mul, div_mul_cancel₀ _ hpos.ne',
      zpow_eq_half_mul_two t] at hscaled
    rw [zpow_eq_half_mul_two t]
    linarith

/-- Canonical parts whose exponent is above the greatest one are near to no number but one beyond
all doubles. -/
theorem overflow_le {e' : ℤ} (hc : IsCanonical m e') (hcarry : e' ≤ t + 1)
    (hlow : t = -1074 ∨ 2 ^ (t + 52) ≤ x) (hdist : |(m : ℚ) * 2 ^ e' - x| ≤ 2 ^ (t - 1))
    (he' : 971 < e') : overflow ≤ x := by
  have hpos : (0 : ℚ) < 2 ^ (970 : ℤ) := by positivity
  rcases eq_or_ne t 971 with rfl | htop
  · obtain rfl : e' = 972 := by omega
    have hbig : (2 : ℚ) ^ (1024 : ℤ) ≤ m * 2 ^ (972 : ℤ) := by
      have hfull : (2 : ℚ) ^ (52 : ℤ) ≤ m := by exact_mod_cast hc.full.resolve_right (by omega)
      rw [show (1024 : ℤ) = 52 + 972 from rfl, zpow_add₀ two_ne_zero]
      gcongr
    have := (abs_le.1 hdist).2
    rw [show (971 : ℤ) - 1 = 970 from rfl] at this
    unfold overflow
    linarith
  · calc overflow ≤ 2 ^ (1024 : ℤ) := sub_le_self _ hpos.le
      _ ≤ 2 ^ (t + 52) := zpow_le_zpow_right₀ one_le_two (by omega)
      _ ≤ x := hlow.resolve_left (by omega)

/-- Rounding makes canonical parts of the nearest double. Their exponent is above the greatest one
only if the number is beyond all doubles. -/
theorem roundWithAccuracy_eq {acc : Accuracy} (hx : 0 ≤ x)
    (h : Approximates (.ofMantissaAndAccuracy m acc) (x / 2 ^ e))
    (he : e ≤ max ((m.log2 : ℤ) + e - 52) (-1074)) : ∃ m' e', IsCanonical m' e' ∧
      Nearest x (m' * 2 ^ e') ∧ (971 < e' → overflow ≤ x) ∧
      ∀ s, roundWithAccuracy .binary64 s m e acc =
        if hm : m' = 0 then .zero s else .finite s m' e' (Nat.pos_of_ne_zero hm) := by
  obtain ⟨k, hk⟩ : ∃ k : ℕ, (max ((m.log2 : ℤ) + e - 52) (-1074) - e).toNat = k := ⟨_, rfl⟩
  have ht : e + (k : ℤ) = max ((m.log2 : ℤ) + e - 52) (-1074) := by omega
  have hm : (ExtendedMantissa.ofMantissaAndAccuracy m acc).mantissa = m := by
    cases acc with
    | exact => rfl
    | inexact o => cases o <;> rfl
  obtain ⟨hlow, hhigh⟩ := h.bounds
  rw [hm] at hlow hhigh
  obtain ⟨hlow, hhigh⟩ := digits_of_le ((le_div_iff₀ (by positivity)).1 hlow)
    ((div_lt_iff₀ (by positivity)).1 hhigh) ht (by omega)
  -- the first shift, the rounded significand, and the second shift
  obtain ⟨em, hem⟩ : ∃ em, ExtendedMantissa.ofMantissaAndAccuracy m acc >>> k = em := ⟨_, rfl⟩
  have hshifted := h.shiftRight k
  rw [hem, div_div, ← zpow_natCast, ← zpow_add₀ two_ne_zero] at hshifted
  obtain ⟨hdigits, hfull, hdist⟩ := hshifted.rounded hlow hhigh
  obtain ⟨em', e', hshift, hvalue, hcanonical, hcarry⟩ := shift_carry hdigits (by omega) hfull
  rw [← hvalue] at hdist
  refine ⟨em'.mantissa, e', hcanonical, ?_, overflow_le hcanonical hcarry hlow hdist, fun s => ?_⟩
  · exact ⟨e + k, em.roundedMantissa, by omega, by rwa [abs_of_nonneg hx], by exact_mod_cast hvalue,
      hdist⟩
  · simp only [roundWithAccuracy, shiftToTargetExponent_eq acc hk, hem, hshift]

/-- The double that is packed after rounding is the nearest one. -/
theorem rounds_roundWithAccuracy {acc : Accuracy} (s : Sign) (hx : 0 ≤ x)
    (h : Approximates (.ofMantissaAndAccuracy m acc) (x / 2 ^ e))
    (he : e ≤ max ((m.log2 : ℤ) + e - 52) (-1074)) : Rounds (factor s * x)
      (Float.Model.pack (roundWithAccuracy .binary64 s m e acc)).unpack := by
  obtain ⟨m', e', hcanonical, hnear, hover, hround⟩ := roundWithAccuracy_eq hx h he
  have hsigned : Nearest (factor s * x) (factor s * (m' * 2 ^ e')) := by
    cases s with
    | negative => simpa [factor] using hnear.neg
    | positive => simpa [factor] using hnear
  rw [hround]
  split_ifs with hm
  · rw [unpack_pack_zero]
    rw [hm] at hsigned
    exact .nearest rfl (by simpa using hsigned)
  · rw [unpack_pack hcanonical]
    split_ifs with hfits
    · exact .nearest rfl hsigned
    · refine .infinity s ((hover (by omega)).trans ?_)
      cases s <;> simp [factor, abs_of_nonneg hx]

/-- A significand with further zeros has that many digits more. -/
theorem log2_shiftLeft (hm : 0 < m) (k : ℕ) : (m <<< k).log2 = m.log2 + k := by
  induction k with
  | zero => rfl
  | succ k ih =>
    have hpos : m <<< k ≠ 0 := (Nat.shiftLeft_pos_iff.2 hm).ne'
    rw [Nat.shiftLeft_succ, Nat.log2_two_mul hpos, ih, add_assoc]

/-- The double that is packed after rounding a number with any exponent is the nearest one. -/
theorem rounds_round (s : Sign) (hm : 0 < m) (e : ℤ) : Rounds (factor s * (m * 2 ^ e))
    (Float.Model.pack (UnpackedFloat.round .binary64 s m e)).unpack := by
  obtain ⟨k, hk⟩ : ∃ k : ℕ, (e - max ((m.log2 : ℤ) + e - 52) (-1074)).toNat = k := ⟨_, rfl⟩
  have hround : UnpackedFloat.round .binary64 s m e =
      roundWithAccuracy .binary64 s (m <<< k) (e - k) .exact := by
    rw [← hk, ← targetExponent_eq]
    rfl
  have hvalue : (m : ℚ) * 2 ^ e / 2 ^ (e - k) = (m <<< k : ℕ) := by
    rw [mul_div_assoc, ← zpow_sub₀ two_ne_zero, sub_sub_cancel, zpow_natCast, Nat.shiftLeft_eq]
    push_cast
    rfl
  rw [hround]
  refine rounds_roundWithAccuracy s (by positivity) ?_ ?_
  · rw [hvalue]
    exact .exact _
  · rw [log2_shiftLeft hm]
    omega

/-- The double that is packed after rounding a signed number with any exponent is the nearest
one. -/
theorem rounds_normalize (n e : ℤ) (s : Sign) :
    Rounds (n * 2 ^ e) (Float.Model.pack (UnpackedFloat.normalize .binary64 n e s)).unpack := by
  unfold UnpackedFloat.normalize
  rcases lt_trichotomy n 0 with hn | rfl | hn
  · have habs : factor .negative * (((-n).toNat : ℕ) * 2 ^ e) = (n : ℚ) * 2 ^ e := by
      have : (((-n).toNat : ℤ) : ℚ) = ((-n : ℤ) : ℚ) := by rw [Int.toNat_of_nonneg (by omega)]
      push_cast at this
      rw [factor, this]
      ring
    rw [Int.compare_eq_lt.2 hn, ← habs]
    exact rounds_round .negative (by omega) e
  · show Rounds _ (Float.Model.pack (.zero s)).unpack
    rw [unpack_pack_zero]
    rw [Int.cast_zero, zero_mul]
    exact .nearest rfl .zero
  · have habs : factor .positive * ((n.toNat : ℕ) * 2 ^ e) = (n : ℚ) * 2 ^ e := by
      have : ((n.toNat : ℤ) : ℚ) = n := by rw [Int.toNat_of_nonneg hn.le]
      push_cast at this
      rw [factor, this, one_mul]
    rw [Int.compare_eq_gt.2 hn, ← habs]
    exact rounds_round .positive (by omega) e

end

end Binary64

end SceneScript
