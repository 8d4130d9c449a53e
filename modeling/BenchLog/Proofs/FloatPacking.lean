import BenchLog.Proofs.FloatRounding

/-!
# How floating-point numbers are packed into 64 bits

Packing loses nothing of a finite number in canonical form that is below `2 ^ 1024`, and makes infinity of
one that is not. What is read from 64 bits is in canonical form.
-/

namespace BenchLog.Binary64

open Float.Model Float.Model.UnpackedFloat

/-! ## Components -/

theorem toNat_append_one (mantissa : BitVec 52) : (1#1 ++ mantissa).toNat = 2 ^ 52 + mantissa.toNat := by
  rw [BitVec.toNat_append, ← Nat.shiftLeft_add_eq_or_of_lt mantissa.isLt]
  rfl

theorem exponentBias_binary64 : Format.binary64.exponentBias = 1023 := rfl

theorem mantissaBits_binary64 : Format.binary64.mantissaBits = 53 := rfl

theorem unpack_packedInfinity (sign : Sign) :
    UnpackedFloat.unpack .binary64 (packedInfinity .binary64 sign) = .infinity sign := by
  unfold UnpackedFloat.unpack packedInfinity
  simp only [unpackMantissa_packComponents, unpackExponent_packComponents, unpackSign_packComponents,
    Sign.ofBitVec_toBitVec]
  rfl

theorem unpack_packComponents_subnormal (sign : Sign) {mantissa : ℕ} (hpos : 0 < mantissa)
    (hlt : mantissa < 2 ^ 52) :
    UnpackedFloat.unpack .binary64 (packComponents .binary64 sign 0#11 (BitVec.ofNat 52 mantissa)) =
      .finite sign mantissa (-1074) hpos := by
  have htoNat : (BitVec.ofNat 52 mantissa).toNat = mantissa := Nat.mod_eq_of_lt hlt
  have hne : BitVec.ofNat 52 mantissa ≠ 0#52 := by
    intro h
    rw [h] at htoNat
    exact hpos.ne htoNat
  unfold UnpackedFloat.unpack
  simp only [unpackMantissa_packComponents, unpackExponent_packComponents, unpackSign_packComponents,
    Sign.ofBitVec_toBitVec, hne, htoNat]
  rfl

theorem unpack_packComponents_normal (sign : Sign) {biased mantissa : ℕ} (hbiased : 0 < biased)
    (hbiased' : biased < 2047) (hpos : 0 < mantissa) (hle : 2 ^ 52 ≤ mantissa)
    (hlt : mantissa < 2 ^ 53) :
    UnpackedFloat.unpack .binary64
        (packComponents .binary64 sign (BitVec.ofNat 11 biased) (BitVec.ofNat 52 mantissa)) =
      .finite sign mantissa (biased - 1075) hpos := by
  have hexponent : (BitVec.ofNat 11 biased).toNat = biased := Nat.mod_eq_of_lt (by omega)
  have hmantissa : (1#1 ++ BitVec.ofNat 52 mantissa).toNat = mantissa := by
    rw [toNat_append_one, BitVec.toNat_ofNat]
    omega
  have hones : BitVec.ofNat 11 biased ≠ -1#11 := by
    intro h
    rw [h] at hexponent
    have : (-1#11).toNat = 2047 := rfl
    omega
  have hzero : BitVec.ofNat 11 biased ≠ 0#11 := by
    intro h
    rw [h] at hexponent
    exact hbiased.ne hexponent
  unfold UnpackedFloat.unpack
  simp only [unpackMantissa_packComponents, unpackExponent_packComponents, unpackSign_packComponents,
    Sign.ofBitVec_toBitVec, hones, hzero, hexponent, hmantissa]
  rfl

/-! ## Packing -/

theorem magnitude_lt_iff {sign : Sign} {mantissa : ℕ} {exponent : ℤ} {hpos : 0 < mantissa}
    (h : Canonical (.finite sign mantissa exponent hpos)) :
    magnitude (.finite sign mantissa exponent hpos) < 2 ^ 1024 ↔ exponent ≤ 971 := by
  obtain ⟨hlt, -, hfull⟩ := h
  have hpower (k : ℕ) (e : ℤ) (hsum : (k : ℤ) + e = (1024 : ℕ)) : (2 : ℚ) ^ k * 2 ^ e = 2 ^ 1024 := by
    rw [two_pow_mul_two_zpow, hsum, zpow_natCast]
  constructor
  · intro hmagnitude
    by_contra hexponent
    rw [not_le] at hexponent
    have hmantissa : (2 : ℚ) ^ 52 ≤ mantissa := by
      exact_mod_cast hfull.resolve_right (by omega)
    have hreach : (2 : ℚ) ^ 1024 ≤ mantissa * 2 ^ exponent := by
      calc (2 : ℚ) ^ 1024 = 2 ^ 52 * 2 ^ (972 : ℤ) := (hpower 52 972 (by norm_num)).symm
        _ ≤ 2 ^ 52 * 2 ^ exponent :=
          mul_le_mul_of_nonneg_left (zpow_le_zpow_right₀ (by norm_num) (by omega)) (by norm_num)
        _ ≤ mantissa * 2 ^ exponent := mul_le_mul_of_nonneg_right hmantissa (two_zpow_pos exponent).le
    exact absurd hmagnitude (not_lt.mpr hreach)
  · intro hexponent
    have hmantissa : (mantissa : ℚ) < 2 ^ 53 := by exact_mod_cast hlt
    calc (mantissa : ℚ) * 2 ^ exponent < 2 ^ 53 * 2 ^ exponent :=
          mul_lt_mul_of_pos_right hmantissa (two_zpow_pos exponent)
      _ ≤ 2 ^ 53 * 2 ^ (971 : ℤ) :=
          mul_le_mul_of_nonneg_left (zpow_le_zpow_right₀ (by norm_num) hexponent) (by norm_num)
      _ = 2 ^ 1024 := hpower 53 971 (by norm_num)

theorem pack_finite (sign : Sign) (mantissa : ℕ) (exponent : ℤ) (hpos : 0 < mantissa) :
    UnpackedFloat.pack .binary64 (.finite sign mantissa exponent hpos) =
      if 2048 ≤ (exponent + 1075).toNat + 1 then packedInfinity .binary64 sign
      else if mantissa.log2 + 1 = 53 then
        packComponents .binary64 sign (BitVec.ofNat 11 (exponent + 1075).toNat) (BitVec.ofNat 52 mantissa)
      else packComponents .binary64 sign 0#11 (BitVec.ofNat 52 mantissa) := by
  have hbiased : (exponent + Format.binary64.exponentBias +
      Format.binary64.mantissaBitsWithoutImplicit).toNat = (exponent + 1075).toNat := by
    rw [exponentBias_binary64]
    congr 1
    push_cast
    ring
  simp only [UnpackedFloat.pack, hbiased]
  rfl

/-- Packing loses nothing of a finite number that is not too large. -/
theorem unpack_pack_of_lt {x : UnpackedFloat} (h : Canonical x) (hlt : magnitude x < 2 ^ 1024) :
    (Float.Model.pack x).unpack = x := by
  show UnpackedFloat.unpack .binary64 (UnpackedFloat.pack .binary64 x) = x
  cases x with
  | zero sign => exact unpack_packedZero
  | infinity sign => exact h.elim
  | notANumber => exact h.elim
  | finite sign mantissa exponent hpos =>
    have hexponent := (magnitude_lt_iff h).mp hlt
    obtain ⟨hmantissa, hmin, hfull⟩ := h
    rw [pack_finite, if_neg (by omega)]
    by_cases hnormal : 2 ^ 52 ≤ mantissa
    · have hlog : mantissa.log2 + 1 = 53 := by
        rw [(Nat.log2_eq_iff hpos.ne').mpr ⟨hnormal, hmantissa⟩]
      rw [if_pos hlog, unpack_packComponents_normal sign (by omega) (by omega) hpos hnormal hmantissa]
      congr 1
      omega
    · have hlog : mantissa.log2 < 52 := (Nat.log2_lt hpos.ne').mpr (by omega)
      rw [if_neg (by omega), unpack_packComponents_subnormal sign hpos (by omega),
        hfull.resolve_left hnormal]

/-- What is too large is packed like infinity. -/
theorem pack_of_le {x : UnpackedFloat} (h : Canonical x) (hle : 2 ^ 1024 ≤ magnitude x) :
    Float.Model.pack x = .pack (.infinity (signOf x)) := by
  cases x with
  | zero sign => exact absurd hle (by simp [magnitude])
  | infinity sign => exact h.elim
  | notANumber => exact h.elim
  | finite sign mantissa exponent hpos =>
    have hexponent := (not_congr (magnitude_lt_iff h)).mp (not_lt.mpr hle)
    have hpack : UnpackedFloat.pack .binary64 (.finite sign mantissa exponent hpos) =
        UnpackedFloat.pack .binary64 (.infinity sign) := by
      rw [pack_finite, if_pos (by omega)]
      rfl
    simp only [Float.Model.pack, hpack]
    rfl

theorem unpack_pack_of_le {x : UnpackedFloat} (h : Canonical x) (hle : 2 ^ 1024 ≤ magnitude x) :
    (Float.Model.pack x).unpack = .infinity (signOf x) := by
  rw [pack_of_le h hle]
  exact unpack_packedInfinity (signOf x)

theorem canonical_and_lt_of_exponent {sign : Sign} {mantissa : ℕ} {exponent : ℤ} {hpos : 0 < mantissa}
    (h : Canonical (.finite sign mantissa exponent hpos)) (hexponent : exponent ≤ 971) :
    Canonical (.finite sign mantissa exponent hpos) ∧
      magnitude (.finite sign mantissa exponent hpos) < 2 ^ 1024 :=
  ⟨h, (magnitude_lt_iff h).mpr hexponent⟩

/-- What is read from 64 bits is in canonical form and not too large, unless it is not finite. -/
theorem canonical_unpack {x : Float.Model} (h : x.isFinite = true) :
    Canonical x.unpack ∧ magnitude x.unpack < 2 ^ 1024 := by
  have hmantissa : (@unpackMantissa .binary64 x.toBits.toBitVec).toNat < 2 ^ 52 := BitVec.isLt _
  have hexponent : (@unpackExponent .binary64 x.toBits.toBitVec).toNat < 2048 := BitVec.isLt _
  revert h
  show (UnpackedFloat.unpack .binary64 x.toBits.toBitVec).isFinite = true →
    Canonical (UnpackedFloat.unpack .binary64 x.toBits.toBitVec) ∧
      magnitude (UnpackedFloat.unpack .binary64 x.toBits.toBitVec) < 2 ^ 1024
  -- An exponent of ones is infinity or no number, one of zeros is zero or a number of fewer bits.
  fun_cases UnpackedFloat.unpack .binary64 x.toBits.toBitVec with
  | case1 => exact fun h => Bool.noConfusion h
  | case2 => exact fun h => Bool.noConfusion h
  | case3 => exact fun _ => ⟨trivial, by norm_num [magnitude]⟩
  | case4 m e biased s sign hones hzero hm =>
    intro _
    have hsubnormal : biased + 1 = -1074 := by
      show (e.toNat : ℤ) - (Format.binary64.exponentBias + (52 : ℕ)) + 1 = _
      rw [hzero, exponentBias_binary64]
      rfl
    apply canonical_and_lt_of_exponent
    · exact ⟨lt_trans hmantissa (by norm_num), hsubnormal.ge, Or.inr hsubnormal⟩
    · omega
  | case5 m e biased s sign hones hzero =>
    intro _
    have hbiased : biased = (e.toNat : ℤ) - 1075 := by
      show (e.toNat : ℤ) - (Format.binary64.exponentBias + (52 : ℕ)) = _
      rw [exponentBias_binary64]
      norm_num
    have hnormal : e.toNat ≠ 0 := by
      intro hfirst
      exact hzero (BitVec.eq_of_toNat_eq hfirst)
    have hlast : e.toNat ≠ 2047 := by
      intro hlast
      exact hones (BitVec.eq_of_toNat_eq hlast)
    have hlt : e.toNat < 2048 := hexponent
    have hm : m.toNat < 2 ^ 52 := hmantissa
    apply canonical_and_lt_of_exponent
    · refine ⟨?_, by omega, Or.inl ?_⟩
      · rw [toNat_append_one]
        omega
      · rw [toNat_append_one]
        omega
    · omega

end BenchLog.Binary64
