import SceneScript.Proofs.Binary64.Rounding

/-!
# The arithmetic of doubles

The parts of a finite double stand for an exact number (`Holds`). The sum, the difference and the
product of two finite doubles, and the quotient by one that is not zero, are what the exact result
is rounded to (`rounds_add`, `rounds_sub`, `rounds_mul`, `rounds_div`): each operation rounds once,
and none makes anything undefined. An integer of at most 53 digits is held exactly (`value?_ofInt`).
-/

namespace SceneScript

namespace Binary64

open Float.Model (UnpackedFloat)
open Float.Model.UnpackedFloat (Sign accuracyOfFraction decreaseExponent divCore)

/-! ## What a double holds -/

/-- A double is finite if it holds a number. -/
theorem isFinite_iff {a : Float} :
    (ofFloat a).isFinite = true ↔ ∃ x, (ofFloat a).value? = some x := by
  cases ofFloat a <;> simp [isFinite, value?]

/-- The parts of a finite double, and the number that they stand for. -/
inductive Holds : UnpackedFloat → ℚ → Prop
  | zero (s : Sign) : Holds (.zero s) 0
  | finite (s : Sign) {m : ℕ} {e : ℤ} (h : 0 < m) (hc : IsCanonical m e) (he : e ≤ 971) :
    Holds (.finite s m e h) (factor s * (m * 2 ^ e))

/-- A double that holds a number is unpacked into parts that stand for it. -/
theorem holds_of_value? {a : Float} {x : ℚ} (h : (ofFloat a).value? = some x) :
    Holds a.toModel.unpack x := by
  rw [value?_ofFloat] at h
  cases hu : a.toModel.unpack with
  | notANumber | infinity => simp [hu, valueOf?] at h
  | zero s =>
    obtain rfl : 0 = x := by simpa [hu, valueOf?] using h
    exact .zero s
  | finite s m e hm =>
    obtain rfl : factor s * (m * 2 ^ e) = x := by simpa [hu, valueOf?] using h
    obtain ⟨hc, he⟩ := isCanonical_of_unpack hu
    exact .finite s hm hc he

/-- A multiple of a power of two with at most 53 digits is as far from those that are rounded to
infinity as half of the greatest spacing. -/
theorem abs_add_le_overflow {m e : ℤ} (hm : |m| < 2 ^ 53) (he : e ≤ 971) :
    |(m : ℚ) * 2 ^ e| + 2 ^ (970 : ℤ) ≤ overflow := by
  have hdigits : |(m : ℚ)| ≤ 2 ^ 53 - 1 := by
    have : |m| ≤ 2 ^ 53 - 1 := by omega
    exact_mod_cast this
  have hpower : (2 : ℚ) ^ e ≤ 2 ^ (971 : ℤ) := zpow_le_zpow_right₀ one_le_two he
  have hgreatest : |(m : ℚ) * 2 ^ e| ≤ (2 ^ 53 - 1) * 2 ^ (971 : ℤ) := by
    rw [abs_mul, abs_of_pos (zpow_pos (two_pos : (0 : ℚ) < 2) e)]
    exact mul_le_mul hdigits hpower (by positivity) (by norm_num)
  have htop : (2 : ℚ) ^ (1024 : ℤ) = 2 ^ 53 * 2 ^ (971 : ℤ) := by
    rw [show (1024 : ℤ) = 53 + 971 from rfl, zpow_add₀ two_ne_zero]
    rfl
  have hhalf : (2 : ℚ) ^ (971 : ℤ) = 2 ^ (970 : ℤ) * 2 := zpow_eq_half_mul_two 971
  rw [overflow, htop]
  generalize (2 : ℚ) ^ (970 : ℤ) = half at hhalf ⊢
  rw [hhalf] at hgreatest ⊢
  linarith

/-- A number that is a double is rounded to itself. -/
theorem Rounds.value?_of_isMultiple {a : Float} {m e : ℤ}
    (h : Rounds ((m : ℚ) * 2 ^ e) a.toModel.unpack) (hm : |m| < 2 ^ 53) (hleast : -1074 ≤ e)
    (he : e ≤ 971) : (ofFloat a).value? = some ((m : ℚ) * 2 ^ e) := by
  have hfar : (0 : ℚ) < 2 ^ (970 : ℤ) := by positivity
  have hlt : |(m : ℚ) * 2 ^ e| < overflow :=
    (lt_add_of_pos_right _ hfar).trans_le (abs_add_le_overflow hm he)
  obtain ⟨y, hy, hnear⟩ := h.exists_nearest hlt
  rw [hy, hnear.eq_of_isMultiple hm hleast]

namespace Holds

variable {u v : UnpackedFloat} {x y : ℚ}

/-- The parts stand for the number. -/
theorem valueOf? (h : Holds u x) : Binary64.valueOf? u = some x := by
  cases h <;> rfl

/-- A number that a double holds is rounded to itself. -/
theorem nearest (h : Holds u x) : Nearest x x := by
  cases h with
  | zero => exact .zero
  | @finite s m e h hc he =>
    have hself : Nearest (m * 2 ^ e) (m * 2 ^ e) := by
      have habs : |(m : ℚ) * 2 ^ e| = m * 2 ^ e := abs_of_nonneg (by positivity)
      refine ⟨e, m, hc.least, hc.full.symm.imp_right fun hfull => ?_, by simp, by simp; positivity⟩
      have hfull : (2 : ℚ) ^ (52 : ℤ) ≤ m := by exact_mod_cast hfull
      rw [habs, add_comm, zpow_add₀ two_ne_zero]
      gcongr
    cases s with
    | negative => simpa [factor] using hself.neg
    | positive => simpa [factor] using hself

/-- The parts of a finite double are unpacked as they were packed. -/
theorem unpack_pack (h : Holds u x) : (Float.Model.pack u).unpack = u := by
  cases h with
  | zero s => exact unpack_pack_zero s
  | finite s h hc he => rw [Binary64.unpack_pack hc, if_pos he]

/-- So a number that a double holds is the double that it is rounded to. -/
theorem rounds (h : Holds u x) : Rounds x (Float.Model.pack u).unpack := by
  rw [h.unpack_pack]
  exact .nearest h.valueOf? h.nearest

/-- A number that a double holds is far from those that are rounded to infinity. -/
theorem abs_add_le_overflow (h : Holds u x) : |x| + 2 ^ (970 : ℤ) ≤ overflow := by
  cases h with
  | zero => simpa using Binary64.abs_add_le_overflow (m := 0) (e := 0) (by norm_num) (by norm_num)
  | @finite s m e h hc he =>
    have hm : |(m : ℤ)| < 2 ^ 53 := by rw [Nat.abs_cast]; exact_mod_cast hc.lt
    have habs : |factor s * (m * 2 ^ e)| = |((m : ℤ) : ℚ) * 2 ^ e| := by
      cases s <;> simp [factor]
    rw [habs]
    exact Binary64.abs_add_le_overflow hm he

/-- A double holds no number as large as the least power of two beyond them. -/
theorem abs_le (h : Holds u x) : |x| ≤ 2 ^ (1024 : ℤ) := by
  have hhalf : (0 : ℚ) ≤ 2 ^ (970 : ℤ) := by positivity
  exact (le_add_of_nonneg_right hhalf).trans (h.abs_add_le_overflow.trans (sub_le_self _ hhalf))

/-- A number that is hardly larger than one that a double holds is not rounded to infinity. -/
theorem abs_lt_overflow (h : Holds u x) (hy : |y| ≤ |x| + 1) : |y| < overflow := by
  have hone : (1 : ℚ) < 2 ^ (970 : ℤ) := one_lt_zpow₀ one_lt_two (by norm_num)
  exact hy.trans_lt ((add_lt_add_right hone _).trans_le h.abs_add_le_overflow)

/-- The opposite number is held by the double of opposite sign. -/
theorem neg (h : Holds u x) : Holds u.neg (-x) := by
  cases h with
  | zero s =>
    rw [neg_zero]
    exact .zero (-s)
  | @finite s m e h hc he =>
    have hsign : -(factor s * (m * 2 ^ e)) = factor (-s) * (m * 2 ^ e) := by
      cases s <;> simp [factor]
    rw [hsign]
    exact .finite (-s) h hc he

end Holds

/-! ## Sums and differences -/

section
variable {u v : UnpackedFloat} {a b : Float} {x y : ℚ}

/-- A signed significand as an integer. -/
theorem cast_apply (s : Sign) (m : ℕ) : ((s.apply m : ℤ) : ℚ) = factor s * m := by
  cases s <;> simp [Sign.apply, factor]

/-- A significand at a smaller exponent stands for the same number. -/
theorem decreaseExponent_value {m : ℕ} {e t : ℤ} (ht : t ≤ e) :
    ((decreaseExponent m e t).1 : ℚ) * 2 ^ t = m * 2 ^ e := by
  obtain ⟨k, rfl⟩ := Int.le.dest ht
  have hk : (t + (k : ℤ) - t).toNat = k := by omega
  show ((m <<< (t + (k : ℤ) - t).toNat : ℕ) : ℚ) * 2 ^ t = _
  rw [hk, Nat.shiftLeft_eq, zpow_add₀ two_ne_zero, zpow_natCast]
  push_cast
  ring

/-- The parts of a sum stand for what the exact sum is rounded to. -/
theorem Holds.add (hu : Holds u x) (hv : Holds v y) :
    Rounds (x + y) (Float.Model.pack (UnpackedFloat.add .binary64 u v)).unpack := by
  cases hu with
  | zero s =>
    rw [zero_add]
    cases hv with
    | zero t =>
      cases s <;> cases t <;> exact (Holds.zero _).rounds
    | finite t h hc he => exact (Holds.finite t h hc he).rounds
  | @finite s m e h hc he =>
    cases hv with
    | zero t =>
      rw [add_zero]
      exact (Holds.finite s h hc he).rounds
    | @finite t m' e' h' hc' he' =>
      -- both are aligned at the smaller exponent
      have hsum : factor s * (m * 2 ^ e) + factor t * (m' * 2 ^ e') =
          ((s.apply (decreaseExponent m e (min e e')).1 +
            t.apply (decreaseExponent m' e' (min e e')).1 : ℤ) : ℚ) * 2 ^ min e e' := by
        rw [Int.cast_add, cast_apply, cast_apply, add_mul, mul_assoc, mul_assoc,
          decreaseExponent_value (min_le_left e e'), decreaseExponent_value (min_le_right e e')]
      rw [hsum]
      exact rounds_normalize _ _ .positive

/-- A difference is a sum with the opposite double. -/
theorem sub_eq_add_opposite (u v : UnpackedFloat) :
    UnpackedFloat.sub .binary64 u v = UnpackedFloat.add .binary64 u v.neg := by
  cases u with
  | notANumber => cases v <;> rfl
  | infinity s | zero s => cases v with
    | notANumber => rfl
    | infinity t | zero t | finite t => cases s <;> cases t <;> rfl
  | finite s m e h => cases v with
    | notANumber | infinity t | zero t => rfl
    | finite t m' e' h' =>
      have hsign : ∀ n, (-t).apply n = -t.apply n := by
        cases t with
        | negative => exact fun n => (neg_neg n).symm
        | positive => exact fun n => rfl
      simp only [UnpackedFloat.sub, UnpackedFloat.add, UnpackedFloat.neg, hsign, sub_eq_add_neg]

/-- A sum of doubles is what the exact sum is rounded to. -/
theorem rounds_add (ha : (ofFloat a).value? = some x) (hb : (ofFloat b).value? = some y) :
    Rounds (x + y) (a + b).toModel.unpack :=
  (holds_of_value? ha).add (holds_of_value? hb)

/-- A difference of doubles is what the exact difference is rounded to. -/
theorem rounds_sub (ha : (ofFloat a).value? = some x) (hb : (ofFloat b).value? = some y) :
    Rounds (x - y) (a - b).toModel.unpack := by
  show Rounds (x - y) (Float.Model.pack
    (UnpackedFloat.sub .binary64 a.toModel.unpack b.toModel.unpack)).unpack
  rw [sub_eq_add_opposite, sub_eq_add_neg]
  exact (holds_of_value? ha).add (holds_of_value? hb).neg

/-! ## Products and quotients -/

/-- The sign of a product. -/
theorem factor_mul (s t : Sign) : factor (s * t) = factor s * factor t := by
  cases s <;> cases t <;> norm_num [factor]

/-- The sign of a quotient. -/
theorem factor_div (s t : Sign) : factor (s / t) = factor s / factor t := by
  cases s <;> cases t <;> norm_num [factor] <;> rfl

/-- The parts of a product stand for what the exact product is rounded to. -/
theorem Holds.mul (hu : Holds u x) (hv : Holds v y) :
    Rounds (x * y) (Float.Model.pack (UnpackedFloat.mul .binary64 u v)).unpack := by
  cases hu with
  | zero s =>
    rw [zero_mul]
    cases hv <;> exact (Holds.zero _).rounds
  | @finite s m e h hc he =>
    cases hv with
    | zero t =>
      rw [mul_zero]
      exact (Holds.zero _).rounds
    | @finite t m' e' h' hc' he' =>
      have hproduct : factor s * (m * 2 ^ e) * (factor t * (m' * 2 ^ e')) =
          factor (s * t) * ((m * m' : ℕ) * 2 ^ (e + e')) := by
        rw [factor_mul, zpow_add₀ two_ne_zero]
        push_cast
        ring
      rw [hproduct]
      refine rounds_roundWithAccuracy (s * t) (by positivity) ?_ ?_
      · rw [mul_div_cancel_right₀ _ (by positivity)]
        exact .exact _
      · rcases le_or_gt (e + e') (-1074) with hleast | hgt
        · exact hleast.trans (le_max_right _ _)
        · -- one of the significands has all its digits
          have hfull : 2 ^ 52 ≤ m * m' := by
            rcases hc.full with hfull | rfl
            · exact hfull.trans (Nat.le_mul_of_pos_right m h')
            · exact (hc'.full.resolve_right (by omega)).trans (Nat.le_mul_of_pos_left m' h)
          have hlog : 52 ≤ (m * m').log2 := (Nat.le_log2 (Nat.mul_pos h h').ne').2 hfull
          omega

/-- The digits of a quotient, and the place of the exact quotient behind them. -/
theorem approximates_fraction (n : ℕ) {d : ℕ} (hd : 0 < d) :
    Approximates (.ofMantissaAndAccuracy (n / d) (accuracyOfFraction (n % d) d)) (n / d : ℚ) := by
  have hd' : (0 : ℚ) < d := by exact_mod_cast hd
  have hparts : (n / d : ℚ) = (n / d : ℕ) + (n % d : ℕ) / d := by
    have : (n : ℚ) = d * (n / d : ℕ) + (n % d : ℕ) := by exact_mod_cast (Nat.div_add_mod n d).symm
    rw [this]
    field_simp
  have hlt : ((n % d : ℕ) : ℚ) < d := by exact_mod_cast Nat.mod_lt n hd
  unfold accuracyOfFraction
  split_ifs with hzero
  · exact ⟨0, by rw [hparts, hzero]; simp; rfl, rfl⟩
  · have hpos : (0 : ℚ) < (n % d : ℕ) := by exact_mod_cast Nat.pos_of_ne_zero hzero
    refine ⟨(n % d : ℕ) / d, ?_, ?_⟩
    · rw [hparts]
      congr 1
      cases compare (2 * (n % d)) d <;> rfl
    · rcases lt_trichotomy (2 * (n % d)) d with hcmp | hcmp | hcmp
      · have hhalf : 2 * ((n % d : ℕ) : ℚ) < d := by exact_mod_cast hcmp
        rw [Nat.compare_eq_lt.2 hcmp]
        exact ⟨by positivity, by rw [div_lt_div_iff₀ hd' two_pos]; linarith⟩
      · have hhalf : 2 * ((n % d : ℕ) : ℚ) = d := by exact_mod_cast hcmp
        rw [Nat.compare_eq_eq.2 hcmp]
        show ((n % d : ℕ) : ℚ) / d = 1 / 2
        rw [div_eq_div_iff hd'.ne' two_ne_zero]
        linarith
      · have hhalf : (d : ℚ) < 2 * ((n % d : ℕ) : ℚ) := by exact_mod_cast hcmp
        rw [Nat.compare_eq_gt.2 hcmp]
        exact ⟨by rw [div_lt_div_iff₀ two_pos hd']; linarith, (div_lt_one hd').2 hlt⟩

/-- A quotient of a significand with enough further zeros has all its digits. -/
theorem two_pow_le_shiftLeft_div {m m' k : ℕ} (hm : 0 < m) (hm' : 0 < m')
    (hlog : m'.log2 + 53 ≤ m.log2 + k) : 2 ^ 52 ≤ (m <<< k) / m' := by
  rw [Nat.le_div_iff_mul_le hm', Nat.shiftLeft_eq]
  calc 2 ^ 52 * m' ≤ 2 ^ 52 * 2 ^ (m'.log2 + 1) := by gcongr; exact Nat.lt_log2_self.le
    _ = 2 ^ (m'.log2 + 53) := by rw [← pow_add]; congr 1; ring
    _ ≤ 2 ^ (m.log2 + k) := Nat.pow_le_pow_right two_pos hlog
    _ ≤ m * 2 ^ k := by rw [pow_add]; gcongr; exact Nat.log2_self_le hm.ne'

/-- The parts of a quotient by a number that is not zero stand for what the exact quotient is
rounded to. -/
theorem Holds.div (hu : Holds u x) (hv : Holds v y) (hy : y ≠ 0) :
    Rounds (x / y) (Float.Model.pack (UnpackedFloat.div .binary64 u v)).unpack := by
  cases hv with
  | zero t => exact absurd rfl hy
  | @finite t m' e' h' hc' he' =>
    cases hu with
    | zero s =>
      rw [zero_div]
      exact (Holds.zero _).rounds
    | @finite s m e h hc he =>
      obtain ⟨q, hq⟩ : ∃ q, min (e - e') (max ((m.log2 : ℤ) + 1 + e - (m'.log2 + 1 + e') - 53)
        (-1074)) = q := ⟨_, rfl⟩
      obtain ⟨k, hk⟩ : ∃ k : ℕ, (e - e' - q).toNat = k := ⟨_, rfl⟩
      have hcore : divCore .binary64 m e m' e' =
          ((m <<< k) / m', q, accuracyOfFraction ((m <<< k) % m') m') := by
        rw [← hk, ← hq]
        rfl
      have hexponent : e = e' + q + k := by omega
      have hquotient : factor s * (m * 2 ^ e) / (factor t * (m' * 2 ^ e')) =
          factor (s / t) * ((m <<< k : ℕ) / m' * 2 ^ q) := by
        rw [factor_div, hexponent, zpow_add₀ two_ne_zero, zpow_add₀ two_ne_zero, zpow_natCast,
          Nat.shiftLeft_eq]
        have : factor t ≠ 0 := by cases t <;> norm_num [factor]
        field_simp
        push_cast
        ring
      rw [hquotient]
      simp only [UnpackedFloat.div, hcore]
      refine rounds_roundWithAccuracy (s / t) (by positivity) ?_ ?_
      · rw [mul_div_cancel_right₀ _ (by positivity)]
        exact approximates_fraction _ h'
      · rcases le_or_gt q (-1074) with hleast | hgt
        · exact hleast.trans (le_max_right _ _)
        · have hfull : 2 ^ 52 ≤ (m <<< k) / m' := two_pow_le_shiftLeft_div h h' (by omega)
          have : 52 ≤ ((m <<< k) / m').log2 := (Nat.le_log2 (by omega)).2 hfull
          omega

/-- A product of doubles is what the exact product is rounded to. -/
theorem rounds_mul (ha : (ofFloat a).value? = some x) (hb : (ofFloat b).value? = some y) :
    Rounds (x * y) (a * b).toModel.unpack :=
  (holds_of_value? ha).mul (holds_of_value? hb)

/-- A quotient of doubles is what the exact quotient is rounded to, if that is defined. -/
theorem rounds_div (ha : (ofFloat a).value? = some x) (hb : (ofFloat b).value? = some y)
    (hy : y ≠ 0) : Rounds (x / y) (a / b).toModel.unpack :=
  (holds_of_value? ha).div (holds_of_value? hb) hy

/-! ## Integers -/

/-- One is held exactly. -/
theorem value?_one : (ofFloat (Float.ofBits 0x3FF0000000000000)).value? = some 1 := by
  have hparts : (Float.ofBits 0x3FF0000000000000).toModel.unpack =
    .finite .positive (2 ^ 52) (-52) (by decide) := rfl
  rw [value?_ofFloat, hparts]
  norm_num [valueOf?, factor]

/-- What a natural number of at most 53 digits is rounded to is the number itself. -/
theorem Rounds.value?_natCast {n : ℕ} (h : Rounds (n : ℚ) a.toModel.unpack) (hn : n < 2 ^ 53) :
    (ofFloat a).value? = some (n : ℚ) := by
  have hvalue : (n : ℚ) = (n : ℤ) * 2 ^ (0 : ℤ) := by simp
  rw [hvalue] at h ⊢
  exact h.value?_of_isMultiple (by rw [Nat.abs_cast]; exact_mod_cast hn) (by norm_num)
    (by norm_num)

/-- Natural numbers of at most 53 digits are held exactly. -/
theorem value?_ofInt {n : ℕ} (hn : n < 2 ^ 53) :
    (ofFloat (Float.ofInt n)).value? = some (n : ℚ) := by
  have hword : (ofFloat n.toUInt64.toFloat).value? = some (n : ℚ) := by
    have hrounds : Rounds ((n.toUInt64.toNat : ℤ) * 2 ^ (0 : ℤ))
        n.toUInt64.toFloat.toModel.unpack := rounds_normalize _ 0 .positive
    have hnat : n.toUInt64.toNat = n := by
      rw [Nat.toUInt64_eq, UInt64.toNat_ofNat']
      omega
    rw [hnat, zpow_zero, mul_one] at hrounds
    exact Rounds.value?_natCast (by exact_mod_cast hrounds) hn
  have hproduct : Float.ofInt n = n.toUInt64.toFloat * Float.ofBits 0x3FF0000000000000 := by
    show Float.ofScientific n false 0 = _
    unfold Float.ofScientific
    rw [dif_pos ⟨hn, by decide⟩]
    rfl
  have hrounds := rounds_mul hword value?_one
  rw [mul_one, ← hproduct] at hrounds
  exact hrounds.value?_natCast hn

end

end Binary64

end SceneScript
