import BenchLog.Proofs.Nearest
import Mathlib

/-!
# How floating-point numbers are rounded

The model of floating-point numbers shifts a mantissa to the right, remembers of what falls off whether it
is more or less than a half, and rounds at the end. What is remembered is enough: the result is the
nearest number of 53 bits (`rounds_roundWithAccuracy`), in the one form in which packing it into 64 bits
loses nothing (`Canonical`).
-/

namespace BenchLog.Binary64

open Float.Model Float.Model.UnpackedFloat

/-! ## Mantissas with residual bits -/

/-- A mantissa and its accuracy stand for a number. -/
def Approximates (mantissa : ℕ) : Accuracy → ℚ → Prop
  | .exact, y => y = mantissa
  | .inexact .lt, y => mantissa < y ∧ y < mantissa + 1 / 2
  | .inexact .eq, y => y = mantissa + 1 / 2
  | .inexact .gt, y => mantissa + 1 / 2 < y ∧ y < mantissa + 1

/-- A mantissa with its residual bits stands for a number. -/
def Represents (extended : ExtendedMantissa) (y : ℚ) : Prop :=
  Approximates extended.mantissa extended.accuracy y

variable {mantissa : ℕ} {accuracy : Accuracy} {extended : ExtendedMantissa} {y : ℚ}

theorem approximates_exact (mantissa : ℕ) : Approximates mantissa .exact mantissa := rfl

theorem Approximates.le (h : Approximates mantissa accuracy y) : mantissa ≤ y := by
  rcases accuracy with _ | ⟨⟨⟩⟩ <;> simp only [Approximates] at h <;> linarith

theorem Approximates.lt (h : Approximates mantissa accuracy y) : y < mantissa + 1 := by
  rcases accuracy with _ | ⟨⟨⟩⟩ <;> simp only [Approximates] at h <;> linarith

theorem Approximates.floor_eq (h : Approximates mantissa accuracy y) : ⌊y⌋ = mantissa := by
  apply Int.floor_eq_iff.mpr
  rw [Int.cast_natCast]
  exact ⟨h.le, h.lt⟩

theorem represents_ofMantissaAndAccuracy (h : Approximates mantissa accuracy y) :
    Represents (.ofMantissaAndAccuracy mantissa accuracy) y := by
  rcases accuracy with _ | ⟨⟨⟩⟩ <;> exact h

theorem Represents.roundedMantissa_eq (h : Represents extended y) :
    (extended.roundedMantissa : ℤ) = roundEven y := by
  have hfloor := Approximates.floor_eq h
  obtain ⟨m, roundBit, stickyBit⟩ := extended
  rw [roundEven, hfloor]
  cases roundBit <;> cases stickyBit <;>
    simp only [Represents, Approximates, ExtendedMantissa.accuracy, ExtendedMantissa.roundedMantissa,
      Accuracy.roundToNearestEven, Int.cast_natCast] at h ⊢
  · rw [if_pos (by linarith)]
  · rw [if_pos (by linarith)]
  · rw [if_neg (by linarith), if_neg (by linarith)]
    push_cast
    rfl
  · rw [if_neg (by linarith), if_pos (by linarith)]
    push_cast
    rfl

theorem Represents.shiftRightOne (h : Represents extended y) :
    Represents extended.shiftRightOne (y / 2) := by
  obtain ⟨m, roundBit, stickyBit⟩ := extended
  have hsplit : (m : ℚ) = 2 * (m / 2 : ℕ) + (m % 2 : ℕ) := by
    exact_mod_cast (Nat.div_add_mod m 2).symm
  rcases Nat.mod_two_eq_zero_or_one m with hmod | hmod <;> rw [hmod] at hsplit <;>
    cases roundBit <;> cases stickyBit <;>
    simp [Represents, Approximates, ExtendedMantissa.accuracy, ExtendedMantissa.shiftRightOne,
      hmod, -Nat.cast_ofNat] at h hsplit ⊢ <;> (try constructor) <;> linarith

theorem Represents.shiftRight (h : Represents extended y) (n : ℕ) :
    Represents (extended >>> n) (y / 2 ^ n) := by
  show Represents (n.repeat ExtendedMantissa.shiftRightOne extended) _
  induction n with
  | zero => simpa [Nat.repeat] using h
  | succ n ih =>
    rw [pow_succ, ← div_div]
    exact ih.shiftRightOne

/-! ## Canonical form -/

/-- The sign of a number. -/
def signOf : UnpackedFloat → Sign
  | .zero sign | .infinity sign | .finite sign _ _ _ => sign
  | .notANumber => .positive

/-- A finite number without its sign. -/
def magnitude : UnpackedFloat → ℚ
  | .finite _ mantissa exponent _ => mantissa * 2 ^ exponent
  | _ => 0

/-- A finite number whose mantissa has 53 bits, or fewer if its exponent is the least one. -/
def Canonical : UnpackedFloat → Prop
  | .zero _ => True
  | .finite _ mantissa exponent _ =>
    mantissa < 2 ^ 53 ∧ -1074 ≤ exponent ∧ (2 ^ 52 ≤ mantissa ∨ exponent = -1074)
  | _ => False

/-- A finite number of 53 bits that is nearest to `x`, with this sign. -/
structure Rounds (sign : Sign) (x : ℚ) (rounded : UnpackedFloat) : Prop where
  canonical : Canonical rounded
  sign_eq : signOf rounded = sign
  magnitude_eq : magnitude rounded = nearest x

theorem Canonical.grid {x : UnpackedFloat} (h : Canonical x) : Grid (magnitude x) := by
  cases x with
  | finite sign mantissa exponent hpos => exact ⟨mantissa, exponent, h.1.le, h.2.1, rfl⟩
  | zero sign => exact ⟨0, 0, by norm_num, by norm_num, by simp [magnitude]⟩
  | infinity sign => exact h.elim
  | notANumber => exact h.elim

theorem magnitude_nonneg (x : UnpackedFloat) : 0 ≤ magnitude x := by
  cases x <;> simp only [magnitude, le_refl]
  positivity

theorem totalExponent_target (mantissa : ℕ) (exponent : ℤ) :
    Format.binary64.targetExponent (totalExponent mantissa exponent) =
      max (mantissa.log2 + exponent - 52) (-1074) := by
  simp only [Format.targetExponent, totalExponent, Format.minExponent, Format.mantissaBits]
  omega

theorem log_mul_two_zpow (happrox : Approximates mantissa accuracy y) (hpos : 0 < mantissa)
    (exponent : ℤ) : Int.log 2 (y * 2 ^ exponent) = mantissa.log2 + exponent := by
  have hunit := two_zpow_pos exponent
  have hlow : (2 : ℚ) ^ mantissa.log2 ≤ mantissa := by
    exact_mod_cast Nat.log2_self_le hpos.ne'
  have hhigh : (mantissa : ℚ) + 1 ≤ 2 ^ (mantissa.log2 + 1) := by
    exact_mod_cast Nat.lt_log2_self
  have hy : 0 < y * 2 ^ exponent := mul_pos (lt_of_lt_of_le (by positivity) happrox.le) hunit
  apply le_antisymm
  · rw [← Int.lt_add_one_iff, ← Int.lt_zpow_iff_log_lt (by norm_num) hy]
    calc y * 2 ^ exponent < 2 ^ (mantissa.log2 + 1) * 2 ^ exponent :=
          mul_lt_mul_of_pos_right (happrox.lt.trans_le hhigh) hunit
      _ = ((2 : ℕ) : ℚ) ^ ((mantissa.log2 : ℤ) + exponent + 1) := by
          rw [two_pow_mul_two_zpow]
          push_cast
          congr 1
          omega
  · rw [← Int.zpow_le_iff_le_log (by norm_num) hy]
    calc ((2 : ℕ) : ℚ) ^ ((mantissa.log2 : ℤ) + exponent) = 2 ^ mantissa.log2 * 2 ^ exponent := by
          rw [two_pow_mul_two_zpow, Nat.cast_ofNat]
      _ ≤ y * 2 ^ exponent := mul_le_mul_of_nonneg_right (hlow.trans happrox.le) hunit.le

theorem lastExponent_magnitude {sign : Sign} {m : ℕ} {e : ℤ} {hpos : 0 < m}
    (h : Canonical (.finite sign m e hpos)) : lastExponent (m * 2 ^ e) = e := by
  obtain ⟨hlt, hmin, hfull⟩ := h
  have hlog : m.log2 ≤ 52 := Nat.le_of_lt_succ ((Nat.log2_lt hpos.ne').mpr hlt)
  rw [lastExponent, log_mul_two_zpow (approximates_exact m) hpos]
  rcases hfull with hfull | rfl
  · have := (Nat.le_log2 hpos.ne').mpr hfull
    omega
  · omega

/-- A number in canonical form is known from its sign and its magnitude. -/
theorem eq_of_canonical {x y : UnpackedFloat} (hx : Canonical x) (hy : Canonical y)
    (hsign : signOf x = signOf y) (hmagnitude : magnitude x = magnitude y) : x = y := by
  have hpositive {m : ℕ} (hm : 0 < m) (e : ℤ) : (m : ℚ) * 2 ^ e ≠ 0 := by positivity
  cases x with
  | infinity _ => exact hx.elim
  | notANumber => exact hx.elim
  | zero s =>
      cases y with
      | infinity _ => exact hy.elim
      | notANumber => exact hy.elim
      | zero t => exact congrArg _ hsign
      | finite t n f hn => exact absurd hmagnitude.symm (hpositive hn f)
  | finite s m e hm =>
      cases y with
      | infinity _ => exact hy.elim
      | notANumber => exact hy.elim
      | zero t => exact absurd hmagnitude (hpositive hm e)
      | finite t n f hn =>
          obtain rfl : s = t := hsign
          have hmagnitude : (m : ℚ) * 2 ^ e = n * 2 ^ f := hmagnitude
          obtain rfl : e = f := by
            rw [← lastExponent_magnitude hx, hmagnitude, lastExponent_magnitude hy]
          obtain rfl : m = n := by
            exact_mod_cast mul_right_cancel₀ (two_zpow_pos e).ne' hmagnitude
          rfl

/-- The exponent that a rounding aims at is that of the last place, be the mantissa zero or not. -/
theorem target_eq_lastExponent (happrox : Approximates mantissa accuracy y) (hy : 0 < y)
    {exponent : ℤ} (henough : 52 ≤ mantissa.log2 ∨ exponent ≤ -1074) :
    Format.binary64.targetExponent (totalExponent mantissa exponent) =
      lastExponent (y * 2 ^ exponent) := by
  rw [totalExponent_target, lastExponent]
  rcases Nat.eq_zero_or_pos mantissa with hzero | hpos
  -- The logarithm of zero tells nothing about `y`, but then both sides are the least exponent.
  · have hlt : y < 1 := by
      have := happrox.lt
      rw [hzero] at this
      simpa using this
    have hlog : Int.log 2 (y * 2 ^ exponent) < exponent := by
      rw [← Int.lt_zpow_iff_log_lt (by norm_num) (mul_pos hy (two_zpow_pos exponent))]
      have := mul_lt_mul_of_pos_right hlt (two_zpow_pos exponent)
      simpa using this
    have hlow : exponent ≤ -1074 := by
      rcases henough with h | h
      · rw [hzero] at h
        exact absurd h (by decide)
      · exact h
    rw [hzero, show Nat.log2 0 = 0 by decide]
    omega
  · rw [log_mul_two_zpow happrox hpos]

/-! ## Rounding -/

theorem shiftToTargetExponent_eq (mantissa : ℕ) (exponent : ℤ) (accuracy : Accuracy) {shift : ℕ}
    (h : (Format.binary64.targetExponent (totalExponent mantissa exponent) - exponent).toNat = shift) :
    shiftToTargetExponent .binary64 mantissa exponent accuracy =
      (ExtendedMantissa.ofMantissaAndAccuracy mantissa accuracy >>> shift, exponent + shift) := by
  subst h
  rfl

/-- A rounded mantissa that is still a mantissa stays as it is, and the first one that is too large is
    halved. -/
theorem shiftToTargetExponent_exact {m : ℕ} {e : ℤ} (hm : m ≤ 2 ^ 53) (he : -1074 ≤ e) :
    (m < 2 ^ 53 ∧
        shiftToTargetExponent .binary64 m e .exact = (.ofMantissaAndAccuracy m .exact, e)) ∨
      (m = 2 ^ 53 ∧
        shiftToTargetExponent .binary64 m e .exact = (.ofMantissaAndAccuracy (2 ^ 52) .exact, e + 1)) := by
  rcases hm.lt_or_eq with hlt | rfl
  · have hlog : m.log2 ≤ 52 := by
      rcases Nat.eq_zero_or_pos m with rfl | hpos
      · decide
      · exact Nat.le_of_lt_succ ((Nat.log2_lt hpos.ne').mpr hlt)
    have hstay : (Format.binary64.targetExponent (totalExponent m e) - e).toNat = 0 := by
      rw [totalExponent_target]
      omega
    rw [shiftToTargetExponent_eq m e .exact hstay]
    exact Or.inl ⟨hlt, by simp [HShiftRight.hShiftRight, Nat.repeat]⟩
  · have hone : (Format.binary64.targetExponent (totalExponent (2 ^ 53) e) - e).toNat = 1 := by
      rw [totalExponent_target, Nat.log2_two_pow]
      omega
    rw [shiftToTargetExponent_eq _ e .exact hone]
    exact Or.inr ⟨rfl, rfl⟩

/-- The first shift of a rounding leaves a mantissa of the last place. -/
theorem shiftToTargetExponent_rounded (happrox : Approximates mantissa accuracy y) (hy : 0 < y)
    {exponent : ℤ} (henough : 52 ≤ mantissa.log2 ∨ exponent ≤ -1074) :
    ∃ extended,
      shiftToTargetExponent .binary64 mantissa exponent accuracy =
        (extended, lastExponent (y * 2 ^ exponent)) ∧
      (extended.roundedMantissa : ℤ) =
        roundEven (y * 2 ^ exponent / 2 ^ lastExponent (y * 2 ^ exponent)) := by
  have htarget := target_eq_lastExponent happrox hy henough
  have hle : exponent ≤ lastExponent (y * 2 ^ exponent) := by
    rw [← htarget, totalExponent_target]
    omega
  set last := lastExponent (y * 2 ^ exponent) with hlast
  obtain ⟨shift, hshift⟩ := Int.le.dest hle
  refine ⟨ExtendedMantissa.ofMantissaAndAccuracy mantissa accuracy >>> shift, ?_, ?_⟩
  · have htoNat :
        (Format.binary64.targetExponent (totalExponent mantissa exponent) - exponent).toNat = shift := by
      omega
    rw [shiftToTargetExponent_eq mantissa exponent accuracy htoNat, hshift]
  · have hrepresents := (represents_ofMantissaAndAccuracy happrox).shiftRight shift
    rw [hrepresents.roundedMantissa_eq, ← hshift, zpow_add₀ (by norm_num), zpow_natCast]
    congr 1
    have := (two_zpow_pos exponent).ne'
    field_simp

/-- What remembers enough of a number is rounded to a nearest number of 53 bits. -/
theorem rounds_roundWithAccuracy (sign : Sign) (happrox : Approximates mantissa accuracy y)
    (hy : 0 < y) {exponent : ℤ} (henough : 52 ≤ mantissa.log2 ∨ exponent ≤ -1074) :
    Rounds sign (y * 2 ^ exponent)
      (roundWithAccuracy .binary64 sign mantissa exponent accuracy) := by
  obtain ⟨extended, hfirst, hrounded⟩ := shiftToTargetExponent_rounded happrox hy henough
  have hupper := roundEven_lastExponent_le (y * 2 ^ exponent)
  have hlower := le_roundEven_lastExponent (mul_pos hy (two_zpow_pos exponent))
  have hmin : -1074 ≤ lastExponent (y * 2 ^ exponent) := le_max_right _ _
  have hvalue : nearest (y * 2 ^ exponent) =
      extended.roundedMantissa * 2 ^ lastExponent (y * 2 ^ exponent) := by
    rw [nearest, ← hrounded, Int.cast_natCast]
  rw [← hrounded] at hupper hlower
  set x := y * 2 ^ exponent
  set last := lastExponent x
  unfold roundWithAccuracy
  rw [hfirst]
  -- Rounding up can carry into a 54th bit, and the second shift takes it off again.
  rcases shiftToTargetExponent_exact (by exact_mod_cast hupper) hmin with ⟨hlt, hsecond⟩ | ⟨hcarry, hsecond⟩
  · simp only [hsecond]
    show Rounds sign x (if h : extended.roundedMantissa = 0 then .zero sign
      else .finite sign extended.roundedMantissa last (Nat.pos_of_ne_zero h))
    split_ifs with hzero
    · refine ⟨trivial, rfl, ?_⟩
      rw [hvalue, hzero]
      simp [magnitude]
    · have hfull : 2 ^ 52 ≤ extended.roundedMantissa ∨ last = -1074 := by
        rcases hlower with hlast | hfull
        · exact Or.inr hlast
        · exact Or.inl (by exact_mod_cast hfull)
      exact ⟨⟨hlt, hmin, hfull⟩, rfl, hvalue.symm⟩
  · simp only [hsecond]
    show Rounds sign x (.finite sign (2 ^ 52) (last + 1) (by decide))
    refine ⟨⟨by decide, by omega, Or.inl le_rfl⟩, rfl, ?_⟩
    rw [hvalue, hcarry, magnitude, zpow_add₀ (by norm_num)]
    push_cast
    ring

theorem shiftLeft_pos (hpos : 0 < mantissa) (shift : ℕ) : 0 < mantissa <<< shift := by
  rw [Nat.shiftLeft_eq]
  positivity

theorem log2_shiftLeft (hpos : 0 < mantissa) (shift : ℕ) :
    (mantissa <<< shift).log2 = mantissa.log2 + shift := by
  rw [Nat.log2_eq_iff (shiftLeft_pos hpos shift).ne', Nat.shiftLeft_eq, add_right_comm, pow_add, pow_add]
  constructor
  · exact Nat.mul_le_mul_right _ (Nat.log2_self_le hpos.ne')
  · exact Nat.mul_lt_mul_of_pos_right Nat.lt_log2_self (by positivity)

theorem rounds_round (sign : Sign) (hpos : 0 < mantissa) (exponent : ℤ) :
    Rounds sign (mantissa * 2 ^ exponent) (UnpackedFloat.round .binary64 sign mantissa exponent) := by
  -- Bits are put behind the last one until there are 53 of them or the exponent is the least one.
  have hround (shift : ℕ)
      (h : (exponent - Format.binary64.targetExponent (totalExponent mantissa exponent)).toNat = shift) :
      UnpackedFloat.round .binary64 sign mantissa exponent =
        roundWithAccuracy .binary64 sign (mantissa <<< shift) (exponent - shift) .exact := by
    subst h
    rfl
  rw [totalExponent_target] at hround
  obtain ⟨shift, hshift⟩ : ∃ shift : ℕ,
      (exponent - max ((mantissa.log2 : ℤ) + exponent - 52) (-1074)).toNat = shift := ⟨_, rfl⟩
  have hvalue : (mantissa : ℚ) * 2 ^ exponent =
      ((mantissa <<< shift : ℕ) : ℚ) * 2 ^ (exponent - shift) := by
    rw [Nat.shiftLeft_eq, Nat.cast_mul, mul_assoc]
    push_cast
    rw [two_pow_mul_two_zpow, add_sub_cancel]
  have hshifted := shiftLeft_pos hpos shift
  rw [hround shift hshift, hvalue]
  apply rounds_roundWithAccuracy sign (approximates_exact _) (by exact_mod_cast hshifted)
  rw [log2_shiftLeft hpos]
  omega

theorem rounds_normalize {mantissa : ℤ} (hpos : 0 < mantissa) (exponent : ℤ) (zeroSign : Sign) :
    Rounds .positive (mantissa * 2 ^ exponent)
      (UnpackedFloat.normalize .binary64 mantissa exponent zeroSign) := by
  have hcompare : compare mantissa 0 = .gt := Int.compare_eq_gt.mpr hpos
  have hcast : (mantissa : ℚ) = (mantissa.toNat : ℚ) := by
    exact_mod_cast (Int.toNat_of_nonneg hpos.le).symm
  rw [UnpackedFloat.normalize, hcompare, hcast]
  exact rounds_round .positive (by omega) exponent

end BenchLog.Binary64
