import Mathlib
import SceneScript.Binary64

/-!
# Doubles and their parts

A finite double is packed from a sign, a significand and an exponent, and stands for a number
(`Binary64.value?`). Those that a double can hold are canonical (`IsCanonical`): all digits of the
significand are in use, unless the exponent is the least one. What is unpacked is what is read off
the bits (`ofFloat_eq`) and canonical (`isCanonical_of_unpack`), and what is canonical is unpacked
as it was packed, or as an infinity if the exponent is above the greatest one (`unpack_pack`).
-/

namespace SceneScript

/-- The number that a finite double stands for. -/
def Binary64.value? : Binary64 → Option ℚ
  | .finite negative significand exponent =>
    let (num, den) := quotient significand exponent
    some (if negative then -((num : ℚ) / den) else num / den)
  | _ => none

namespace Binary64

open Float.Model (Format UnpackedFloat)
open Float.Model.UnpackedFloat (Sign packComponents unpackSign unpackExponent unpackMantissa
  unpackExponent_packComponents unpackMantissa_packComponents)

/-- The significand and the exponent are what rounding makes: the significand has at most 53 digits,
and fewer only if the exponent is the least one. -/
structure IsCanonical (m : ℕ) (e : ℤ) : Prop where
  lt : m < 2 ^ 53
  least : -1074 ≤ e
  full : 2 ^ 52 ≤ m ∨ e = -1074

/-- The sign of a packed double is read back. -/
theorem unpackSign_packComponents (s : Sign) (e : BitVec 11) (m : BitVec 52) :
    Sign.ofBitVec (unpackSign (packComponents .binary64 s e m)) = s := by
  have hsign : unpackSign (packComponents .binary64 s e m) = s.toBitVec := by
    show (s.toBitVec ++ e ++ m).extractLsb' 63 1 = s.toBitVec
    rw [BitVec.extractLsb'_append_eq_of_le (by decide),
      BitVec.extractLsb'_append_eq_of_le (by decide)]
    exact BitVec.extractLsb'_eq_self
  rw [hsign]
  cases s <;> rfl

/-- The significand of a normal double has one digit in front of the packed ones. -/
theorem toNat_one_append (m : BitVec 52) : (1#1 ++ m).toNat = 2 ^ 52 + m.toNat := by
  rw [BitVec.toNat_append, ← Nat.shiftLeft_add_eq_or_of_lt m.isLt]
  rfl

/-- The parts that are unpacked of a double, as they are read off its bits. -/
def ofParts : UnpackedFloat → Binary64
  | .notANumber => .nan
  | .infinity s => .infinite (s == .negative)
  | .zero s => .finite (s == .negative) 0 (-1074)
  | .finite s m e _ => .finite (s == .negative) m e

/-- The packed exponent is read off the bits. -/
theorem toNat_unpackExponent (b : BitVec 64) :
    (@unpackExponent .binary64 b).toNat = (b.toNat >>> 52) % 2048 := by
  show (b.extractLsb 62 52).toNat = _
  simp

/-- The packed digits of the significand are read off the bits. -/
theorem toNat_unpackMantissa (b : BitVec 64) :
    (@unpackMantissa .binary64 b).toNat = b.toNat % fullSignificand := by
  show (b.extractLsb 51 0).toNat = b.toNat % 2 ^ 52
  simp

/-- The packed sign is the first bit. -/
theorem unpackSign_beq (b : BitVec 64) :
    (Sign.ofBitVec (@unpackSign .binary64 b) == .negative) = (b.toNat >>> 63 == 1) := by
  have hdigit : (@unpackSign .binary64 b).toNat = b.toNat >>> 63 := by
    have hlt := b.isLt
    show (b.extractLsb 63 63).toNat = _
    simp [Nat.shiftRight_eq_div_pow]
    omega
  rw [← hdigit]
  generalize @unpackSign .binary64 b = d
  revert d
  decide

/-- Bits are compared as numbers. -/
theorem eq_iff_toNat_beq {k : ℕ} (v w : BitVec k) : v = w ↔ (v.toNat == w.toNat) = true :=
  BitVec.toNat_eq.trans beq_iff_eq.symm

/-- What the bits of a double stand for are its parts. -/
theorem ofFloat_eq (a : Float) : ofFloat a = ofParts a.toModel.unpack := by
  obtain ⟨b, hb⟩ : ∃ b : BitVec 64, a.toModel.toBits.toBitVec = b := ⟨_, rfl⟩
  have hbits : a.toBits.toNat = b.toNat := congrArg BitVec.toNat hb
  have hbias : ((Format.exponentBias .binary64 : ℕ) : ℤ) = 1023 := rfl
  unfold ofFloat Float.Model.unpack UnpackedFloat.unpack
  rw [hb, hbits]
  dsimp only
  rw [← toNat_unpackExponent, ← toNat_unpackMantissa, ← unpackSign_beq]
  generalize @unpackExponent .binary64 b = x
  obtain ⟨m, hdigits⟩ : ∃ m, @unpackMantissa .binary64 b = m := ⟨_, rfl⟩
  simp only [hdigits]
  have htop : x = -1#11 ↔ (x.toNat == 2047) = true := eq_iff_toNat_beq _ _
  have hzero : x = 0#11 ↔ (x.toNat == 0) = true := eq_iff_toNat_beq _ _
  have hempty : m = 0#52 ↔ (m.toNat == 0) = true := eq_iff_toNat_beq _ _
  by_cases hinf : (x.toNat == 2047) = true
  · rw [if_pos hinf, if_pos (htop.2 hinf)]
    by_cases hm : (m.toNat == 0) = true
    · rw [if_pos hm, if_pos (hempty.2 hm)]
      rfl
    · rw [if_neg hm, if_neg (mt hempty.1 hm)]
      rfl
  · rw [if_neg hinf, if_neg (mt htop.1 hinf)]
    by_cases hsub : (x.toNat == 0) = true
    · rw [if_pos hsub, if_pos (hzero.2 hsub)]
      split_ifs with hm
      · rw [beq_iff_eq.1 (hempty.1 hm)]
        rfl
      · rw [beq_iff_eq.1 hsub]
        rfl
    · rw [if_neg hsub, if_neg (mt hzero.1 hsub), hbias]
      have hpos : x.toNat ≠ 0 := by simpa using hsub
      simp only [ofParts, toNat_one_append, leastExponent, finite.injEq, true_and]
      refine ⟨rfl, ?_⟩
      push_cast
      omega

/-- The parts of a double that is neither zero nor infinite are canonical, and its exponent is at
most the greatest one. -/
theorem isCanonical_of_unpack {x : Float.Model} {s : Sign} {m : ℕ} {e : ℤ} {h : 0 < m}
    (hx : x.unpack = .finite s m e h) : IsCanonical m e ∧ e ≤ 971 := by
  have hm : (@unpackMantissa .binary64 x.toBits.toBitVec).toNat < 2 ^ 52 :=
    (@unpackMantissa .binary64 x.toBits.toBitVec).isLt
  have he : (@unpackExponent .binary64 x.toBits.toBitVec).toNat < 2 ^ 11 :=
    (@unpackExponent .binary64 x.toBits.toBitVec).isLt
  have hbias : ((Format.exponentBias .binary64 : ℕ) : ℤ) = 1023 := rfl
  unfold Float.Model.unpack UnpackedFloat.unpack at hx
  dsimp only at hx
  split at hx
  · split at hx <;> cases hx
  · rename_i htop
    replace htop : (@unpackExponent .binary64 x.toBits.toBitVec).toNat ≠ 2047 :=
      fun h => htop (BitVec.eq_of_toNat_eq h)
    split at hx
    · -- subnormal
      rename_i hzero
      split at hx
      · cases hx
      · cases hx
        have hzero := congrArg BitVec.toNat hzero
        simp only [BitVec.toNat_ofNat, Nat.zero_mod] at hzero
        rw [hzero, hbias]
        exact ⟨⟨by omega, by norm_num, .inr (by norm_num)⟩, by norm_num⟩
    · rename_i hzero
      replace hzero : (@unpackExponent .binary64 x.toBits.toBitVec).toNat ≠ 0 :=
        fun h => hzero (BitVec.eq_of_toNat_eq h)
      cases hx
      rw [toNat_one_append, hbias]
      push_cast
      exact ⟨⟨by omega, by omega, .inl (by omega)⟩, by omega⟩

/-- A double with all its digits is read back from its packed exponent and the digits behind the
first. -/
theorem unpack_normal (s : Sign) {biased m : ℕ} (hpos : 0 < biased) (htop : biased < 2047)
    (hm : m < 2 ^ 52) :
    UnpackedFloat.unpack .binary64
        (packComponents .binary64 s (BitVec.ofNat 11 biased) (BitVec.ofNat 52 m)) =
      .finite s (2 ^ 52 + m) ((biased : ℤ) - 1075) (by omega) := by
  have hbiased : (BitVec.ofNat 11 biased).toNat = biased := by
    rw [BitVec.toNat_ofNat, Nat.mod_eq_of_lt (by omega)]
  have htop : BitVec.ofNat 11 biased ≠ -1#11 := fun h => by
    have h := congrArg BitVec.toNat h
    rw [hbiased] at h
    exact absurd h (by simp; omega)
  have hzero : BitVec.ofNat 11 biased ≠ 0#11 := fun h => by
    have h := congrArg BitVec.toNat h
    rw [hbiased] at h
    exact absurd h (by simp; omega)
  have hdigits : (1#1 ++ BitVec.ofNat 52 m).toNat = 2 ^ 52 + m := by
    rw [toNat_one_append, BitVec.toNat_ofNat, Nat.mod_eq_of_lt hm]
  unfold UnpackedFloat.unpack
  simp only [unpackExponent_packComponents, unpackMantissa_packComponents,
    unpackSign_packComponents, if_neg htop, if_neg hzero, hdigits, hbiased]
  rfl

/-- A double below those with all digits is read back from its digits. -/
theorem unpack_subnormal (s : Sign) {m : ℕ} (hpos : 0 < m) (hm : m < 2 ^ 52) :
    UnpackedFloat.unpack .binary64 (packComponents .binary64 s 0#11 (BitVec.ofNat 52 m)) =
      .finite s m (-1074) hpos := by
  have hdigits : (BitVec.ofNat 52 m).toNat = m := by
    rw [BitVec.toNat_ofNat, Nat.mod_eq_of_lt hm]
  have hzero : BitVec.ofNat 52 m ≠ 0#52 := fun h => by
    have h := congrArg BitVec.toNat h
    rw [hdigits] at h
    exact hpos.ne' h
  unfold UnpackedFloat.unpack
  simp only [unpackExponent_packComponents, unpackMantissa_packComponents,
    unpackSign_packComponents]
  rw [if_neg (by decide), if_pos trivial, dif_neg hzero]
  simp only [hdigits]
  rfl

/-- Canonical parts are unpacked as they were packed, if the exponent is at most the greatest one.
With an exponent above it an infinity is packed. -/
theorem unpack_pack {s : Sign} {m : ℕ} {e : ℤ} {h : 0 < m} (hc : IsCanonical m e) :
    (Float.Model.pack (.finite s m e h)).unpack =
      if e ≤ 971 then .finite s m e h else .infinity s := by
  obtain ⟨hlt, hleast, hfull⟩ := hc
  have hbiased : (e + ((Format.exponentBias .binary64 : ℕ) : ℤ) + ((52 : ℕ) : ℤ)).toNat =
      (e + 1075).toNat := by
    show (e + 1023 + 52).toNat = _
    omega
  have hbits : Format.mantissaBits .binary64 = 53 := rfl
  show UnpackedFloat.unpack .binary64 (UnpackedFloat.pack .binary64 _) = _
  unfold UnpackedFloat.pack
  simp only [hbiased, hbits]
  split_ifs with htop he hlog he
  · omega
  · cases s <;> rfl
  · -- the first digit is not packed
    have hfirst : 2 ^ 52 ≤ m := (Nat.le_log2 h.ne').1 (by omega)
    have hdigits : BitVec.ofNat 52 m = BitVec.ofNat 52 (m - 2 ^ 52) :=
      BitVec.eq_of_toNat_eq (by simp only [BitVec.toNat_ofNat]; omega)
    rw [hdigits, unpack_normal s (by omega) (by omega) (by omega)]
    simp only [UnpackedFloat.finite.injEq, true_and]
    exact ⟨by omega, by omega⟩
  · omega
  · have hfirst : m < 2 ^ 52 := by
      have := Nat.lt_log2_self (n := m)
      have := (Nat.log2_lt h.ne').2 hlt
      exact (Nat.log2_lt h.ne').1 (by omega)
    obtain rfl : e = -1074 := hfull.resolve_left (by omega)
    exact unpack_subnormal s h hfirst
  · omega

/-- Zeros are unpacked as they were packed. -/
theorem unpack_pack_zero (s : Sign) : (Float.Model.pack (.zero s)).unpack = .zero s := by
  cases s <;> rfl

/-- Infinities are unpacked as they were packed. -/
theorem unpack_pack_infinity (s : Sign) :
    (Float.Model.pack (.infinity s)).unpack = .infinity s := by
  cases s <;> rfl

/-- What is undefined is unpacked as it was packed. -/
theorem unpack_pack_notANumber : (Float.Model.pack .notANumber).unpack = .notANumber := rfl

end Binary64

end SceneScript
