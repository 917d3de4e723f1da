import SceneScript.Proofs.Animation.Ramps
import SceneScript.Proofs.Binary64.Arithmetic
import SceneScript.Proofs.Binary64.Order
import SceneScript.Proofs.Space.Grid

/-!
# Evenly spaced doubles

The values of a ramp are sums of its first end and increments, and the last of them is the last end
(`evenly_eq`). Four roundings lie between the ends and such a sum: of the difference, of the step,
of the increment and of the sum. The increment is a fraction of the difference that is not all of
it, and three roundings do not make up for what is missing (`fraction_mul_le_one`) as long as there
is room for the values. So an increment leads at most to the other end, but for a small error
(`exists_increment`), and no sum is rounded to infinity.

All this needs that the difference of the ends is finite. It may be infinite although both ends are
finite; then the first value is undefined (`isNaN_increment_add`). `Ramp.table_finite_iff` says that
this is the only case in which a value is not finite.
-/

namespace SceneScript

open Binary64
open Float.Model (UnpackedFloat)

/-! ## Fractions of a difference -/

section
variable {d e z : ℚ} {n i : ℕ}

/-- A fraction of a number that is not that number is smaller by more than three roundings, if the
denominator is small enough. -/
theorem fraction_mul_le_one (hi : i + 1 < n) (hn : n ≤ 2 ^ 51) :
    (1 + 2 ^ (-53 : ℤ)) ^ 3 * ((i : ℚ) / ((n : ℚ) - 1)) ≤ 1 := by
  have hi' : (i : ℚ) + 1 ≤ n - 1 := by
    have : (i : ℚ) + 1 + 1 ≤ n := by exact_mod_cast hi
    linarith
  have hn' : (n : ℚ) - 1 ≤ 2 ^ 51 := by
    have : (n : ℚ) ≤ 2 ^ 51 := by exact_mod_cast hn
    linarith
  have hpos : (0 : ℚ) < n - 1 := by
    have : (0 : ℚ) ≤ i := Nat.cast_nonneg i
    linarith
  rw [mul_div_assoc', div_le_one hpos]
  have hthree : (1 + 2 ^ (-53 : ℤ) : ℚ) ^ 3 ≤ 1 + 2 ^ (-51 : ℤ) := by norm_num
  calc (1 + 2 ^ (-53 : ℤ) : ℚ) ^ 3 * i ≤ (1 + 2 ^ (-51 : ℤ)) * (n - 1 - 1) := by
        gcongr
        linarith
    _ ≤ n - 1 := by
        have hstep : (2 : ℚ) ^ (-51 : ℤ) * (n - 1) ≤ 1 := by
          calc (2 : ℚ) ^ (-51 : ℤ) * (n - 1) ≤ 2 ^ (-51 : ℤ) * 2 ^ 51 := by gcongr
            _ = 1 := by norm_num
        have : (0 : ℚ) < 2 ^ (-51 : ℤ) := by positivity
        linarith

/-- The least step of rounding is far below one. -/
theorem leastStep_le : (2 : ℚ) ^ (-1075 : ℤ) ≤ 2 ^ (-53 : ℤ) :=
  zpow_le_zpow_right₀ one_le_two (by norm_num)

/-- Three roundings and a small error do not make such a fraction larger than the number, but for a
small error. -/
theorem abs_le_of_fraction {c d' q : ℚ} (hc : 0 ≤ c) (hfraction : (1 + 2 ^ (-53 : ℤ)) ^ 3 * c ≤ 1)
    (hd' : |d'| ≤ (1 + 2 ^ (-53 : ℤ)) * |d| + 2 ^ (-1075 : ℤ))
    (hq : |q| ≤ (1 + 2 ^ (-53 : ℤ)) * c * |d'| + 1 / 4)
    (hz : |z| ≤ (1 + 2 ^ (-53 : ℤ)) * |q| + 2 ^ (-1075 : ℤ)) : |z| ≤ |d| + 1 := by
  have hsmall : (2 : ℚ) ^ (-53 : ℤ) ≤ 1 / 4 := by norm_num
  have hstep := leastStep_le
  have hsteppos : (0 : ℚ) < 2 ^ (-1075 : ℤ) := by positivity
  have hupos : (0 : ℚ) < 2 ^ (-53 : ℤ) := by positivity
  generalize (2 : ℚ) ^ (-53 : ℤ) = u at *
  generalize (2 : ℚ) ^ (-1075 : ℤ) = w at *
  have htwo : (1 + u) ^ 2 * c ≤ 1 := by
    calc (1 + u) ^ 2 * c ≤ (1 + u) ^ 3 * c := by
          gcongr
          · linarith
          · norm_num
      _ ≤ 1 := hfraction
  calc |z| ≤ (1 + u) * ((1 + u) * c * ((1 + u) * |d| + w) + 1 / 4) + w := by
        refine hz.trans ?_
        gcongr
        exact hq.trans (by gcongr)
    _ = (1 + u) ^ 3 * c * |d| + (1 + u) ^ 2 * c * w + (1 + u) / 4 + w := by ring
    _ ≤ 1 * |d| + 1 * w + (1 + u) / 4 + w := by gcongr
    _ ≤ |d| + 1 := by linarith

/-- A sum that leads from the one end to the other at most, but for a small error, is between the
ends, but for that error. -/
theorem abs_add_le_max {x y : ℚ} (hz : |z| ≤ |y - x| + 1) (hup : 0 ≤ y - x → 0 ≤ z)
    (hdown : y - x ≤ 0 → z ≤ 0) : |z + x| ≤ max |x| |y| + 1 := by
  have hx : |x| ≤ max |x| |y| + 1 := (le_max_left _ _).trans (by linarith)
  have hy : |y| ≤ max |x| |y| := le_max_right _ _
  rcases le_total 0 (y - x) with h | h
  · have hpos := hup h
    rw [abs_of_nonneg hpos, abs_of_nonneg h] at hz
    have hbetween : |z + x| ≤ max |x| |y + 1| :=
      abs_le_max_abs_abs (by linarith) (by linarith)
    refine hbetween.trans (max_le hx ((abs_add_le y 1).trans ?_))
    rw [abs_one]
    linarith
  · have hneg := hdown h
    rw [abs_of_nonpos hneg, abs_of_nonpos h] at hz
    have hbetween : |z + x| ≤ max |y - 1| |x| :=
      abs_le_max_abs_abs (by linarith) (by linarith)
    refine hbetween.trans (max_le ((abs_sub y 1).trans ?_) hx)
    rw [abs_one]
    linarith

end

/-! ## Increments -/

/-- What is added to the first of `n` evenly spaced values to get the one at a place before the
last. -/
def increment (first last : Float) (n i : ℕ) : Float :=
  let delta := last - first
  let gaps := Float.ofInt ((n : ℤ) - 1)
  if delta / gaps == 0 then Float.ofInt i / gaps * delta else Float.ofInt i * (delta / gaps)

section
variable {a b : Float} {x y d : ℚ} {n i : ℕ}

/-- Two or more evenly spaced values are sums of the first one and increments, and the last one. -/
theorem evenly_eq (hn : 2 ≤ n) : evenly a b n =
    (List.range n).map fun i => if i + 1 = n then b else increment a b n i + a := by
  unfold evenly
  rw [if_neg (by omega)]
  refine List.map_congr_left fun i _ => ?_
  show (if i + 1 = n then b
    else if ((b - a) / Float.ofInt ((n : ℤ) - 1) == 0) = true then _ else _) = _
  simp only [increment]
  split_ifs <;> rfl

/-- The number of gaps is held exactly. -/
theorem value?_gaps (hn : 2 ≤ n) (hroom : n ≤ 2 ^ 51) :
    (ofFloat (Float.ofInt ((n : ℤ) - 1))).value? = some ((n : ℚ) - 1) := by
  have hgaps : (n : ℤ) - 1 = ((n - 1 : ℕ) : ℤ) := by omega
  rw [hgaps, value?_ofInt (by omega), Nat.cast_sub (by omega), Nat.cast_one]

/-- The step between the values is finite if the difference of the ends is. -/
theorem exists_step (hd : (ofFloat (b - a)).value? = some d) (hn : 2 ≤ n) (hroom : n ≤ 2 ^ 51) :
    ∃ s, (ofFloat ((b - a) / Float.ofInt ((n : ℤ) - 1))).value? = some s ∧
      Nearest (d / ((n : ℚ) - 1)) s := by
  have hgaps : (1 : ℚ) ≤ n - 1 := by
    have : (2 : ℚ) ≤ n := by exact_mod_cast hn
    linarith
  have hle : |d / ((n : ℚ) - 1)| ≤ |d| := by
    rw [abs_div, abs_of_nonneg (by linarith : (0 : ℚ) ≤ n - 1)]
    exact div_le_self (abs_nonneg d) hgaps
  exact (rounds_div hd (value?_gaps hn hroom) (by linarith)).exists_nearest
    ((holds_of_value? hd).abs_lt_overflow (by linarith))

/-- An increment is what a number is rounded to that is hardly more than its fraction of the
difference, and not on the other side. -/
theorem rounds_increment (hd : (ofFloat (b - a)).value? = some d) (hi : i + 1 < n)
    (hroom : n ≤ 2 ^ 51) : ∃ q, Rounds q (increment a b n i).toModel.unpack ∧
      |q| ≤ (1 + 2 ^ (-53 : ℤ)) * (i / ((n : ℚ) - 1)) * |d| + 1 / 4 ∧ (0 ≤ d → 0 ≤ q) ∧
      (d ≤ 0 → q ≤ 0) := by
  have hgaps := value?_gaps (n := n) (by omega) hroom
  have hplace : (ofFloat (Float.ofInt i)).value? = some (i : ℚ) := value?_ofInt (by omega)
  have hplacepos : (0 : ℚ) ≤ i := Nat.cast_nonneg i
  have hlt : (i : ℚ) < n - 1 := by
    have : (i : ℚ) + 1 < n := by exact_mod_cast hi
    linarith
  have hpos : (0 : ℚ) < n - 1 := hplacepos.trans_lt hlt
  unfold increment
  dsimp only
  split_ifs
  · -- the step is too small for a double
    have hfraction : |(i : ℚ) / (n - 1)| < overflow := by
      rw [abs_of_nonneg (by positivity)]
      refine lt_of_le_of_lt ((div_le_one hpos).2 hlt.le) (lt_of_le_of_lt ?_ lt_overflow)
      exact one_le_zpow₀ one_le_two (by norm_num)
    obtain ⟨part, hpart, hnear⟩ := (rounds_div hplace hgaps hpos.ne').exists_nearest hfraction
    have hpartpos := hnear.nonneg (by positivity)
    refine ⟨part * d, rounds_mul hpart hd, ?_, mul_nonneg hpartpos,
      mul_nonpos_of_nonneg_of_nonpos hpartpos⟩
    have herror : (2 : ℚ) ^ (-1075 : ℤ) * |d| ≤ 1 / 4 := by
      calc (2 : ℚ) ^ (-1075 : ℤ) * |d| ≤ 2 ^ (-1075 : ℤ) * 2 ^ (1024 : ℤ) :=
            mul_le_mul_of_nonneg_left (holds_of_value? hd).abs_le (by positivity)
        _ = 2 ^ (-51 : ℤ) := by rw [← zpow_add₀ two_ne_zero]; rfl
        _ ≤ 1 / 4 := by norm_num
    have hle := hnear.abs_le
    rw [abs_of_nonneg (by positivity : (0 : ℚ) ≤ i / (n - 1))] at hle
    calc |part * d| = |part| * |d| := abs_mul part d
      _ ≤ ((1 + 2 ^ (-53 : ℤ)) * (i / (n - 1)) + 2 ^ (-1075 : ℤ)) * |d| := by gcongr
      _ ≤ _ := by rw [add_mul]; gcongr
  · obtain ⟨s, hs, hnear⟩ := exists_step hd (by omega) hroom
    refine ⟨i * s, rounds_mul hplace hs, ?_,
      fun h => mul_nonneg hplacepos (hnear.nonneg (by positivity)),
      fun h => mul_nonpos_of_nonneg_of_nonpos hplacepos
        (hnear.nonpos (div_nonpos_of_nonpos_of_nonneg h hpos.le))⟩
    have herror : (i : ℚ) * 2 ^ (-1075 : ℤ) ≤ 1 / 4 := by
      have : (i : ℚ) ≤ 2 ^ 51 := by
        exact_mod_cast (by omega : i ≤ 2 ^ 51)
      calc (i : ℚ) * 2 ^ (-1075 : ℤ) ≤ 2 ^ 51 * 2 ^ (-53 : ℤ) :=
            mul_le_mul this leastStep_le (by positivity) (by positivity)
        _ ≤ 1 / 4 := by norm_num
    have hle := hnear.abs_le
    rw [abs_div, abs_of_pos hpos] at hle
    calc |i * s| = i * |s| := by rw [abs_mul, abs_of_nonneg hplacepos]
      _ ≤ i * ((1 + 2 ^ (-53 : ℤ)) * (|d| / (n - 1)) + 2 ^ (-1075 : ℤ)) := by gcongr
      _ = (1 + 2 ^ (-53 : ℤ)) * (i / (n - 1)) * |d| + i * 2 ^ (-1075 : ℤ) := by ring
      _ ≤ _ := by gcongr

/-- The increments are finite, and none leads further than the difference of the ends, but for a
small error, or to the other side. -/
theorem exists_increment (ha : (ofFloat a).value? = some x) (hb : (ofFloat b).value? = some y)
    (hd : (ofFloat (b - a)).value? = some d) (hi : i + 1 < n) (hroom : n ≤ 2 ^ 51) :
    ∃ z, (ofFloat (increment a b n i)).value? = some z ∧ |z| ≤ |y - x| + 1 ∧ (0 ≤ y - x → 0 ≤ z) ∧
      (y - x ≤ 0 → z ≤ 0) := by
  obtain ⟨q, hrounds, hq, hnonneg, hnonpos⟩ := rounds_increment hd hi hroom
  have hdiff := (rounds_sub hb ha).nearest_of_value? hd
  have hfraction := fraction_mul_le_one hi hroom
  have hpart : (0 : ℚ) ≤ i / ((n : ℚ) - 1) := by
    have : (2 : ℚ) ≤ n := by exact_mod_cast (by omega : 2 ≤ n)
    exact div_nonneg (Nat.cast_nonneg i) (by linarith)
  have hlt : |q| < overflow := by
    refine (holds_of_value? hd).abs_lt_overflow (hq.trans ?_)
    have : (1 + 2 ^ (-53 : ℤ)) * (i / ((n : ℚ) - 1)) ≤ 1 := by
      refine le_trans ?_ hfraction
      gcongr
      exact le_self_pow₀ (by norm_num) (by norm_num)
    have := mul_le_mul_of_nonneg_right this (abs_nonneg d)
    linarith
  obtain ⟨z, hz, hnear⟩ := hrounds.exists_nearest hlt
  exact ⟨z, hz, abs_le_of_fraction hpart hfraction hdiff.abs_le hq hnear.abs_le,
    fun h => hnear.nonneg (hnonneg (hdiff.nonneg h)),
    fun h => hnear.nonpos (hnonpos (hdiff.nonpos h))⟩

/-- A value that is the sum of the first one and an increment is finite. -/
theorem isFinite_increment_add (ha : (ofFloat a).value? = some x) (hb : (ofFloat b).value? = some y)
    (hd : (ofFloat (b - a)).value? = some d) (hi : i + 1 < n) (hroom : n ≤ 2 ^ 51) :
    (ofFloat (increment a b n i + a)).isFinite = true := by
  obtain ⟨z, hz, hle, hnonneg, hnonpos⟩ := exists_increment ha hb hd hi hroom
  have hlt : |z + x| < overflow := by
    have hbetween := abs_add_le_max hle hnonneg hnonpos
    rcases max_choice |x| |y| with hmax | hmax
    · exact (holds_of_value? ha).abs_lt_overflow (hmax ▸ hbetween)
    · exact (holds_of_value? hb).abs_lt_overflow (hmax ▸ hbetween)
  obtain ⟨v, hv, -⟩ := (rounds_add hz ha).exists_nearest hlt
  exact isFinite_iff.2 ⟨v, hv⟩

/-! ## The first value -/

/-- A double that holds zero is a zero. -/
theorem exists_zero_of_value? {z : Float} (h : (ofFloat z).value? = some 0) :
    ∃ s, z.toModel.unpack = .zero s := by
  cases hz : z.toModel.unpack with
  | zero s => exact ⟨s, rfl⟩
  | notANumber | infinity => simp [value?_ofFloat, hz, valueOf?] at h
  | finite s m e hm =>
    have hm' : (m : ℚ) ≠ 0 := by exact_mod_cast hm.ne'
    have hpower : (2 : ℚ) ^ e ≠ 0 := zpow_ne_zero e two_ne_zero
    cases s <;> simp [value?_ofFloat, hz, valueOf?, factor, hm', hpower] at h

/-- A finite double is not changed by adding zero to it. -/
theorem zero_add_beq {z : Float} (hz : (ofFloat z).value? = some 0)
    (ha : (ofFloat a).value? = some x) : (z + a == a) = true := by
  obtain ⟨s, hs⟩ := exists_zero_of_value? hz
  have hsum : (z + a).toModel.unpack =
      (Float.Model.pack (UnpackedFloat.add .binary64 (.zero s) a.toModel.unpack)).unpack := by
    rw [← hs]
    rfl
  rw [beq_iff_rank, rank?, rank?, hsum]
  have hholds := holds_of_value? ha
  cases ha' : a.toModel.unpack with
  | notANumber | infinity => rw [ha'] at hholds; cases hholds
  | zero t => cases s <;> cases t <;> exact ⟨_, rfl, rfl⟩
  | finite t m e hm =>
    rw [ha'] at hholds
    have hsame : (Float.Model.pack
        (UnpackedFloat.add .binary64 (.zero s) (.finite t m e hm))).unpack = .finite t m e hm :=
      hholds.unpack_pack
    rw [hsame]
    cases t <;> exact ⟨_, rfl, rfl⟩

/-- What zero is rounded to is zero. -/
theorem value?_of_rounds_zero {z : Float} (h : Rounds 0 z.toModel.unpack) :
    (ofFloat z).value? = some 0 := by
  have hzero := Rounds.value?_natCast (n := 0) (by simpa using h) (by norm_num)
  rw [hzero, Nat.cast_zero]

/-- The first increment is zero if the difference of the ends is finite. -/
theorem value?_increment_zero (hd : (ofFloat (b - a)).value? = some d) (hn : 2 ≤ n)
    (hroom : n ≤ 2 ^ 51) : (ofFloat (increment a b n 0)).value? = some 0 := by
  have hzero : (ofFloat (Float.ofInt (0 : ℕ))).value? = some 0 := by
    have := value?_ofInt (n := 0) (by norm_num)
    simpa using this
  have hgaps : (n : ℚ) - 1 ≠ 0 := by
    have : (2 : ℚ) ≤ n := by exact_mod_cast hn
    linarith
  obtain ⟨s, hs, -⟩ := exists_step hd hn hroom
  unfold increment
  dsimp only
  split_ifs
  · have hpart := rounds_div hzero (value?_gaps hn hroom) hgaps
    rw [zero_div] at hpart
    have hproduct := rounds_mul (value?_of_rounds_zero hpart) hd
    rw [zero_mul] at hproduct
    exact value?_of_rounds_zero hproduct
  · have hproduct := rounds_mul hzero hs
    rw [zero_mul] at hproduct
    exact value?_of_rounds_zero hproduct

/-- Zero times an infinity is undefined, and so is what is added to it. -/
theorem isNaN_zero_mul_add {z w : Float} {s t : UnpackedFloat.Sign}
    (hz : z.toModel.unpack = .zero s) (hw : w.toModel.unpack = .infinity t) :
    (z * w + a).isNaN = true := by
  have hproduct : (z * w).toModel.unpack = .notANumber := by
    show (Float.Model.pack
      (UnpackedFloat.mul .binary64 z.toModel.unpack w.toModel.unpack)).unpack = _
    rw [hz, hw]
    exact unpack_pack_notANumber
  show (Float.Model.pack
    (UnpackedFloat.add .binary64 (z * w).toModel.unpack a.toModel.unpack)).unpack.isNaN = true
  rw [hproduct]
  exact congrArg UnpackedFloat.isNaN unpack_pack_notANumber

/-- If the difference of the ends is infinite, so is the step. -/
theorem step_infinite {t : UnpackedFloat.Sign} (hd : (b - a).toModel.unpack = .infinity t)
    (hn : 2 ≤ n) (hroom : n ≤ 2 ^ 51) :
    ∃ u, ((b - a) / Float.ofInt ((n : ℤ) - 1)).toModel.unpack = .infinity u := by
  have hgaps := holds_of_value? (value?_gaps hn hroom)
  show ∃ u, (Float.Model.pack (UnpackedFloat.div .binary64 (b - a).toModel.unpack
    (Float.ofInt ((n : ℤ) - 1)).toModel.unpack)).unpack = .infinity u
  rw [hd]
  cases hgaps' : (Float.ofInt ((n : ℤ) - 1)).toModel.unpack with
  | notANumber | infinity => rw [hgaps'] at hgaps; cases hgaps
  | zero s | finite s => exact ⟨t / s, unpack_pack_infinity _⟩

/-- If the difference of the ends is infinite, the first value is undefined. -/
theorem isNaN_increment_add {t : UnpackedFloat.Sign} (hd : (b - a).toModel.unpack = .infinity t)
    (hn : 2 ≤ n) (hroom : n ≤ 2 ^ 51) : (increment a b n 0 + a).isNaN = true := by
  obtain ⟨u, hu⟩ := step_infinite hd hn hroom
  have hzero : ¬ ((b - a) / Float.ofInt ((n : ℤ) - 1) == 0) = true := by
    rw [beq_iff_rank, rank?, hu]
    rintro ⟨r, hr, hr'⟩
    cases hr'
    cases u <;> cases hr
  unfold increment
  dsimp only
  rw [if_neg hzero]
  exact isNaN_zero_mul_add (s := .positive) rfl hu

/-- A difference of finite doubles is finite or infinite. -/
theorem exists_infinity_of_not_isFinite (ha : (ofFloat a).value? = some x)
    (hb : (ofFloat b).value? = some y) (h : ¬ (ofFloat (b - a)).isFinite = true) :
    ∃ t, (b - a).toModel.unpack = .infinity t := by
  have hrounds := rounds_sub hb ha
  generalize hu : (b - a).toModel.unpack = u at hrounds
  cases hrounds with
  | nearest hy _ =>
    rw [← hu, ← value?_ofFloat] at hy
    exact absurd (isFinite_iff.2 ⟨_, hy⟩) h
  | infinity t => exact ⟨t, rfl⟩

/-- The first value is the first end with something added to it: zero if the difference of the ends
is finite. Otherwise it is undefined. -/
theorem exists_head?_evenly (ha : (ofFloat a).value? = some x)
    (hb : (ofFloat b).value? = some y) (hn : 1 ≤ n) (hroom : n ≤ 2 ^ 51) :
    ∃ z, (evenly a b n).head? = some (z + a) ∧
      ((ofFloat (b - a)).isFinite = true → (ofFloat z).value? = some 0) ∧
      (¬ (ofFloat (b - a)).isFinite = true → (z + a).isNaN = true) := by
  obtain rfl | hn := hn.eq_or_lt
  · refine ⟨0 * (b - a), rfl, fun h => ?_, fun h => ?_⟩
    · obtain ⟨d, hd⟩ := isFinite_iff.1 h
      have hzero : (ofFloat 0).value? = some 0 := (value?_ofFloat 0).trans rfl
      have hproduct := rounds_mul hzero hd
      rw [zero_mul] at hproduct
      exact value?_of_rounds_zero hproduct
    · obtain ⟨t, ht⟩ := exists_infinity_of_not_isFinite ha hb h
      exact isNaN_zero_mul_add (s := .positive) rfl ht
  · refine ⟨increment a b n 0, ?_, fun h => ?_, fun h => ?_⟩
    · obtain ⟨k, rfl⟩ : ∃ k, n = k + 2 := ⟨n - 2, by omega⟩
      rw [evenly_eq hn, List.range_succ_eq_map]
      rfl
    · obtain ⟨d, hd⟩ := isFinite_iff.1 h
      exact value?_increment_zero hd hn hroom
    · obtain ⟨t, ht⟩ := exists_infinity_of_not_isFinite ha hb h
      exact isNaN_increment_add ht hn hroom

/-- What is undefined is not finite, and equals nothing. -/
theorem not_isFinite_of_isNaN {v : Float} (h : v.isNaN = true) :
    ¬ (ofFloat v).isFinite = true ∧ ¬ (v == a) = true := by
  constructor
  · intro hfinite
    obtain ⟨z, hz⟩ := isFinite_iff.1 hfinite
    have hnan : v.toModel.unpack.isNaN = true := h
    have hholds := holds_of_value? hz
    cases hv : v.toModel.unpack with
    | notANumber => rw [hv] at hholds; cases hholds
    | infinity | zero | finite => rw [hv] at hnan; cases hnan
  · rw [beq_iff_rank, rank?_eq_none_iff.2 h]
    rintro ⟨r, hr, -⟩
    cases hr

/-- The last of two or more values is the end itself. -/
theorem getLast?_evenly (hn : 2 ≤ n) : (evenly a b n).getLast? = some b := by
  obtain ⟨k, rfl⟩ : ∃ k, n = k + 1 := ⟨n - 1, by omega⟩
  rw [evenly_eq hn, List.range_succ]
  simp

/-- Evenly spaced values between finite ends are finite if the difference of the ends is. -/
theorem isFinite_of_mem_evenly (ha : (ofFloat a).value? = some x) (hb : (ofFloat b).value? = some y)
    (hd : (ofFloat (b - a)).isFinite = true) (hn : 1 ≤ n) (hroom : n ≤ 2 ^ 51) {v : Float}
    (hv : v ∈ evenly a b n) : (ofFloat v).isFinite = true := by
  obtain ⟨d, hd'⟩ := isFinite_iff.1 hd
  obtain rfl | hn := hn.eq_or_lt
  · obtain ⟨z, hhead, hzero, -⟩ := exists_head?_evenly ha hb le_rfl hroom
    obtain ⟨w, hw⟩ := List.length_eq_one_iff.1 (Ramp.length_evenly a b 1)
    rw [hw] at hhead hv
    obtain rfl : w = z + a := by simpa using hhead
    obtain rfl := List.mem_singleton.1 hv
    have hlt : |0 + x| < overflow := (holds_of_value? ha).abs_lt_overflow (by simp)
    obtain ⟨u, hu, -⟩ := (rounds_add (hzero hd) ha).exists_nearest hlt
    exact isFinite_iff.2 ⟨u, hu⟩
  · rw [evenly_eq hn] at hv
    obtain ⟨i, hi, rfl⟩ := List.mem_map.1 hv
    have hi := List.mem_range.1 hi
    split_ifs with hlast
    · exact isFinite_iff.2 ⟨y, hb⟩
    · exact isFinite_increment_add ha hb hd' (by omega) hroom

end

/-! ## Ramps -/

namespace Ramp

section
variable [Machine] {r : Ramp Float}

/-- The values of a ramp that does not end before it starts are its samples, if there is room for
them. -/
theorem table_eq_ok_iff (hle : r.start ≤ r.stop) {vs : List Float} : r.table = .ok vs ↔
    8 * r.length ≤ Machine.room ∧ evenly r.first r.last r.length.toNat = vs := by
  obtain ⟨n, hn⟩ : ∃ n : ℕ, r.length = n := ⟨r.length.toNat, by unfold length; omega⟩
  have hpos : 0 < n := by unfold length at hn; omega
  have hcount : ∀ k, spacedCount n "float64" = .ok k ↔ _ := fun k => spacedCount_eq_ok hpos
  have hlimit := Machine.room_lt
  unfold table
  rw [samples_of_le hle, hn, if_pos (by exact_mod_cast hpos), Int.toNat_natCast]
  cases hspaced : spacedCount n "float64" with
  | error fault =>
    refine ⟨fun h => (nomatch h), ?_⟩
    rintro ⟨hroom, -⟩
    cases hspaced.symm.trans ((hcount n).2 (.inl ⟨by exact_mod_cast hroom, rfl⟩))
  | ok k =>
    rcases (hcount k).1 hspaced with ⟨hroom, rfl⟩ | ⟨hlarge, -, rfl⟩
    · show (if k = 0 then _ else _) = _ ↔ _
      rw [if_neg hpos.ne']
      constructor
      · intro h
        cases h
        exact ⟨by exact_mod_cast hroom, rfl⟩
      · rintro ⟨-, rfl⟩
        rfl
    · refine ⟨fun h => (nomatch h), ?_⟩
      rintro ⟨hroom, -⟩
      omega

/-- Interpolation stays finite and hits its ends exactly if the difference of the ends is finite.
For every ramp between finite values that does not end before it starts, however many frames it has:
its values are there if there is room for them, one for each frame, and they are the samples. All of
them are finite exactly if the difference of the ends is, and the first one is the first end exactly
then; so are the step and the increments that the values are made with. The last of two or more
values is the last end in any case. The difference is finite if the exact one is not beyond all
doubles. -/
theorem table_finite_iff (r : Ramp Float) (hfirst : (ofFloat r.first).isFinite = true)
    (hlast : (ofFloat r.last).isFinite = true) (hle : r.start ≤ r.stop) :
    (8 * r.length ≤ Machine.room → ∃ vs, r.table = .ok vs) ∧
    (∀ x y, (ofFloat r.first).value? = some x → (ofFloat r.last).value? = some y →
      |y - x| < overflow → (ofFloat (r.last - r.first)).isFinite = true) ∧
    ∀ vs, r.table = .ok vs →
      r.samples = .ok vs ∧ (vs.length : ℤ) = r.stop - r.start + 1 ∧
      ((∀ v ∈ vs, (ofFloat v).isFinite = true) ↔ (ofFloat (r.last - r.first)).isFinite = true) ∧
      ((∃ v, vs.head? = some v ∧ (v == r.first) = true) ↔
        (ofFloat (r.last - r.first)).isFinite = true) ∧
      (r.start < r.stop → vs.getLast? = some r.last ∧
        ((ofFloat (r.last - r.first)).isFinite = true →
          (ofFloat ((r.last - r.first) / Float.ofInt (r.stop - r.start))).isFinite = true ∧
          ∀ i : ℕ, r.start + i < r.stop →
            (ofFloat (increment r.first r.last vs.length i)).isFinite = true ∧
            vs[i]? = some (increment r.first r.last vs.length i + r.first))) := by
  obtain ⟨x, hx⟩ := isFinite_iff.1 hfirst
  obtain ⟨y, hy⟩ := isFinite_iff.1 hlast
  have hlimit : Machine.room ≤ 2 ^ 53 := Machine.room_le
  refine ⟨fun hroom => ⟨_, (table_eq_ok_iff hle).2 ⟨hroom, rfl⟩⟩, fun x y hx hy hlt => ?_,
    fun vs hvs => ?_⟩
  · obtain ⟨d, hd, -⟩ := (rounds_sub hy hx).exists_nearest hlt
    exact isFinite_iff.2 ⟨d, hd⟩
  · obtain ⟨hroom, rfl⟩ := (table_eq_ok_iff hle).1 hvs
    obtain ⟨n, hn⟩ : ∃ n : ℕ, r.length = n := ⟨r.length.toNat, by unfold length; omega⟩
    rw [hn] at hroom
    have hn' : (n : ℤ) = r.stop - r.start + 1 := by rw [← hn, length]
    have hone : 1 ≤ n := by omega
    have hroom : n ≤ 2 ^ 51 := by omega
    rw [samples_of_le hle, hn, Int.toNat_natCast, length_evenly]
    obtain ⟨z, hhead, hzero, hnan⟩ := exists_head?_evenly hx hy hone hroom
    refine ⟨rfl, hn',
      ⟨fun hall => ?_, fun hd v hv => isFinite_of_mem_evenly hx hy hd hone hroom hv⟩,
      ⟨?_, fun hd => ⟨_, hhead, zero_add_beq (hzero hd) hx⟩⟩, fun hlt => ?_⟩
    · by_contra hd
      have hnot := (not_isFinite_of_isNaN (a := r.first) (hnan hd)).1
      exact hnot (hall _ (List.mem_of_mem_head? hhead))
    · rintro ⟨v, hv, hbeq⟩
      cases hv.symm.trans hhead
      by_contra hd
      exact (not_isFinite_of_isNaN (hnan hd)).2 hbeq
    · have htwo : 2 ≤ n := by omega
      refine ⟨getLast?_evenly htwo, fun hd => ?_⟩
      obtain ⟨d, hd⟩ := isFinite_iff.1 hd
      have hgaps : (n : ℤ) - 1 = r.stop - r.start := by omega
      obtain ⟨s, hs, -⟩ := exists_step hd htwo hroom
      rw [hgaps] at hs
      refine ⟨isFinite_iff.2 ⟨s, hs⟩, fun i hi => ⟨?_, ?_⟩⟩
      · obtain ⟨z, hz, -⟩ := exists_increment (n := n) (i := i) hx hy hd (by omega) hroom
        exact isFinite_iff.2 ⟨z, hz⟩
      · have hi' : i < n := by omega
        have hne : ¬ i + 1 = n := by omega
        rw [evenly_eq htwo, List.getElem?_map, List.getElem?_range hi', Option.map_some, if_neg hne]

end

/-- A ramp in four frames, of which no value but the ends is a sum that is exact. -/
theorem table_finite_iff_fourFrames :
    ∃ vs, (⟨"k", 0, 3, 0, 1⟩ : Ramp Float).table = .ok vs ∧ vs.length = 4 ∧
      (∀ v ∈ vs, (ofFloat v).isFinite = true) ∧ (∃ v, vs.head? = some v ∧ (v == 0) = true) ∧
      vs.getLast? = some 1 := by
  obtain ⟨hroom, -, hvalues⟩ := table_finite_iff ⟨"k", 0, 3, 0, 1⟩ rfl rfl (by decide)
  obtain ⟨vs, hvs⟩ := hroom (by decide)
  obtain ⟨-, hlength, hfinite, hfirst, hlast⟩ := hvalues vs hvs
  have hlength : (vs.length : ℤ) = 4 := hlength
  exact ⟨vs, hvs, by exact_mod_cast hlength, hfinite.2 rfl, hfirst.2 rfl, (hlast (by decide)).1⟩

/-- The ramp from the least double to the greatest in two frames. -/
def widest : Ramp Float :=
  ⟨"k", 0, 1, Float.ofBits 0xFFEFFFFFFFFFFFFF, Float.ofBits 0x7FEFFFFFFFFFFFFF⟩

/-- The difference of its ends is infinite, so its first value is undefined although both ends are
finite. -/
theorem table_undefined : (ofFloat widest.first).isFinite = true ∧
    (ofFloat widest.last).isFinite = true ∧ widest.start ≤ widest.stop ∧
    ∃ v, widest.table = .ok [v, widest.last] ∧ v.isNaN = true ∧ (ofFloat v).isFinite = false ∧
      (v == widest.first) = false := by
  refine ⟨rfl, rfl, by decide, _, rfl, rfl, rfl, rfl⟩

end Ramp

end SceneScript
