import BenchLog.Proofs.FloatArithmetic

/-!
# Decimals as floating-point numbers

An integer times a power of ten, of either sign, becomes the number of 64 bits nearest to it, or infinity
if it is too large (`isNearest_ofScientific`). Few digits are multiplied or divided by a power of ten that
needs no rounding itself, all others are rounded from the exact product or quotient; so no decimal is
rounded twice. A natural number is a decimal without a power (`ofNat_nonneg`).
-/

namespace BenchLog.Binary64

open Float.Model Float.Model.UnpackedFloat

/-- `x` is the number of 64 bits that a number which is not negative is rounded to. -/
def IsNearest (x : Float) (q : ℚ) : Prop :=
  ∃ rounded, Rounds .positive q rounded ∧ x = .ofModel (.pack rounded)

variable {q : ℚ}

/-! ## What is rounded to -/

theorem IsNearest.unique {x y : Float} (hx : IsNearest x q) (hy : IsNearest y q) : x = y := by
  obtain ⟨rounded, hrounded, rfl⟩ := hx
  obtain ⟨other, hother, rfl⟩ := hy
  rw [eq_of_canonical hrounded.canonical hother.canonical (hrounded.sign_eq.trans hother.sign_eq.symm)
    (hrounded.magnitude_eq.trans hother.magnitude_eq.symm)]

theorem exists_rounds (sign : Sign) (h : 0 < q) : ∃ rounded, Rounds sign q rounded := by
  have hnum : 0 < q.num.toNat := by
    have := Rat.num_pos.mpr h
    omega
  have hvalue : (q.num.toNat : ℚ) * 2 ^ (0 : ℤ) / (q.den * 2 ^ (0 : ℤ)) = q := by
    have hcast : ((q.num.toNat : ℤ) : ℚ) = q.num := by
      rw [Int.toNat_of_nonneg (Rat.num_pos.mpr h).le]
    rw [zpow_zero, mul_one, mul_one, ← Int.cast_natCast, hcast, Rat.num_div_den]
  have hdiv := rounds_div sign hnum q.den_pos 0 0
  rw [hvalue] at hdiv
  exact ⟨_, hdiv⟩

/-- Infinity is what is rounded to beyond the range. -/
theorem isNearest_infinity (hpos : 0 < q) (h : ¬Fits q) : IsNearest (1 / 0) q := by
  obtain ⟨rounded, hrounded⟩ := exists_rounds .positive hpos
  refine ⟨rounded, hrounded, ?_⟩
  rw [pack_of_le hrounded.canonical (hrounded.magnitude_eq.symm ▸ not_lt.mp h), hrounded.sign_eq]
  rfl

theorem isNearest_zero (h : 0 ≤ q) (hlt : q < 2 ^ (-1075 : ℤ)) : IsNearest 0 q :=
  ⟨.zero .positive, ⟨trivial, rfl, (nearest_of_lt h hlt).symm⟩, rfl⟩

/-- From `10 ^ 309` on there is only infinity. -/
theorem isNearest_infinity_of_le {k : ℤ} (hk : 309 ≤ k) (h : 10 ^ k ≤ q) : IsNearest (1 / 0) q := by
  have hpower : (2 : ℚ) ^ 1024 ≤ 10 ^ k := by
    have hnat : 2 ^ 1024 ≤ 10 ^ 309 := by decide +kernel
    calc (2 : ℚ) ^ 1024 ≤ 10 ^ 309 := by exact_mod_cast hnat
      _ = 10 ^ ((309 : ℕ) : ℤ) := (zpow_natCast _ _).symm
      _ ≤ 10 ^ k := zpow_le_zpow_right₀ (by norm_num) hk
  exact isNearest_infinity (lt_of_lt_of_le (by positivity) h) (not_fits_of_le (hpower.trans h))

/-- Up to `10 ^ -324` there is only zero. -/
theorem isNearest_zero_of_lt {k : ℤ} (hk : k ≤ -324) (hq : 0 ≤ q) (h : q < 10 ^ k) :
    IsNearest 0 q := by
  have hnat : 2 ^ 1075 ≤ 10 ^ 324 := by decide +kernel
  have hpower : (2 : ℚ) ^ ((1075 : ℕ) : ℤ) ≤ 10 ^ ((324 : ℕ) : ℤ) := by
    rw [zpow_natCast, zpow_natCast]
    exact_mod_cast hnat
  apply isNearest_zero hq
  calc q < 10 ^ k := h
    _ ≤ 10 ^ (-((324 : ℕ) : ℤ)) := zpow_le_zpow_right₀ (by norm_num) hk
    _ = (10 ^ ((324 : ℕ) : ℤ))⁻¹ := zpow_neg _ _
    _ ≤ (2 ^ ((1075 : ℕ) : ℤ))⁻¹ := inv_anti₀ (by positivity) hpower
    _ = 2 ^ (-1075 : ℤ) := (zpow_neg _ _).symm

/-! ## Decimals -/

/-- Whether a number in full length is this integer. -/
def isInteger (n : ℕ) : UnpackedFloat → Bool
  | .finite .positive m e _ => 2 ^ 52 ≤ m && -52 ≤ e && m * 2 ^ (e + 52).toNat == n * 2 ^ 52
  | _ => false

theorem exists_of_isInteger {n : ℕ} {x : UnpackedFloat} (h : isInteger n x = true) :
    ∃ m e hm, x = .finite .positive m e hm ∧ 2 ^ 52 ≤ m ∧ (m : ℚ) * 2 ^ e = n := by
  unfold isInteger at h
  split at h
  · rename_i m e hm
    simp only [Bool.and_eq_true, decide_eq_true_eq, beq_iff_eq] at h
    obtain ⟨⟨hbits, hexponent⟩, hvalue⟩ := h
    refine ⟨m, e, hm, rfl, hbits, ?_⟩
    have hsplit : e = ((e + 52).toNat : ℤ) - (52 : ℕ) := by omega
    have hcast : (m : ℚ) * 2 ^ (e + 52).toNat = n * 2 ^ 52 := by exact_mod_cast hvalue
    rw [hsplit, zpow_sub₀ (by norm_num), zpow_natCast, zpow_natCast, ← mul_div_assoc, hcast]
    field_simp
  · cases h

/-- The powers of ten that need no rounding. -/
theorem isInteger_powersOfTen : ∀ k (h : k < Float.exactlyRepresentablePowersOfTen.size),
    isInteger (10 ^ k) Float.exactlyRepresentablePowersOfTen[k].toModel.unpack = true := by
  decide +kernel

theorem unpack_toUInt64 {m : ℕ} (hpos : 0 < m) (h : m < 2 ^ 53) :
    ∃ n e hn, m.toUInt64.toFloat.toModel.unpack = .finite .positive n e hn ∧ (n : ℚ) * 2 ^ e = m := by
  have htoNat : m.toUInt64.toNat = m := Nat.mod_eq_of_lt (h.trans (by norm_num))
  have hinteger : Rounds .positive m (UnpackedFloat.ofNat .binary64 m) := by
    have hnormalize := rounds_normalize (Int.natCast_pos.mpr hpos) 0 .positive
    rwa [zpow_zero, mul_one, Int.cast_natCast] at hnormalize
  have hvalue : magnitude (UnpackedFloat.ofNat .binary64 m) = m := by
    rw [hinteger.magnitude_eq, nearest_of_grid (grid_natCast h.le)]
  have hsmall : (m : ℚ) < 2 ^ 1024 := by
    calc (m : ℚ) < 2 ^ 53 := by exact_mod_cast h
      _ ≤ 2 ^ 1024 := pow_le_pow_right₀ (by norm_num) (by norm_num)
  have hunpack : m.toUInt64.toFloat.toModel.unpack = UnpackedFloat.ofNat .binary64 m := by
    show (Float.Model.pack (UnpackedFloat.ofNat .binary64 m.toUInt64.toNat)).unpack = _
    rw [htoNat, unpack_pack_of_lt hinteger.canonical (hvalue.trans_lt hsmall)]
  obtain ⟨n, e, hn, hfinite⟩ := exists_finite_of_magnitude_pos hinteger.unsigned
    (hvalue.symm ▸ by exact_mod_cast hpos)
  refine ⟨n, e, hn, hunpack.trans hfinite, ?_⟩
  rw [← hvalue, hfinite]
  rfl

/-- A short number of digits is multiplied or divided by a power of ten that needs no rounding. -/
theorem isNearest_fast {m k : ℕ} (hpos : 0 < m) (h : m < 2 ^ 53)
    (hk : k < Float.exactlyRepresentablePowersOfTen.size) :
    IsNearest (m.toUInt64.toFloat * Float.exactlyRepresentablePowersOfTen[k]) (m * 10 ^ k) ∧
      IsNearest (m.toUInt64.toFloat / Float.exactlyRepresentablePowersOfTen[k]) (m / 10 ^ k) := by
  obtain ⟨n, e, hn, hunpack, hvalue⟩ := unpack_toUInt64 hpos h
  obtain ⟨p, f, hp, hunpack', hbits, hpower⟩ := exists_of_isInteger (isInteger_powersOfTen k hk)
  rw [Nat.cast_pow, Nat.cast_ofNat] at hpower
  constructor
  · have hmul := rounds_mul .positive .positive hn hp (e := e) (f := f) (by
      rw [Nat.le_log2 (Nat.mul_pos hn hp).ne']
      exact hbits.trans (Nat.le_mul_of_pos_left p hn))
    have hexact : (n : ℚ) * p * 2 ^ (e + f) = m * 10 ^ k := by
      rw [← hvalue, ← hpower, zpow_add₀ (by norm_num)]
      ring
    rw [hexact] at hmul
    refine ⟨_, hmul, ?_⟩
    show Float.ofModel (.pack (UnpackedFloat.mul .binary64 _ _)) = _
    rw [hunpack, hunpack']
  · have hdiv := rounds_div .positive hn hp e f
    rw [hvalue, hpower] at hdiv
    refine ⟨_, hdiv, ?_⟩
    rw [div_eq, hunpack, hunpack']
    rfl

/-- Without the short cut a decimal is one product or one quotient. -/
theorem isNearest_model {m : ℕ} (hpos : 0 < m) (e : ℤ) :
    IsNearest (.ofModel (Float.Model.ofScientific m e)) (m * 10 ^ e) := by
  have hone : (1 : ℚ) ≤ m := by exact_mod_cast hpos
  have hten : (0 : ℚ) < 10 ^ e := by positivity
  show IsNearest (.ofModel (.pack (UnpackedFloat.ofScientific .binary64 m e))) _
  unfold UnpackedFloat.ofScientific
  rw [dif_neg hpos.ne']
  split_ifs with hhigh hlow hnonneg
  · apply isNearest_infinity_of_le (k := e)
    · have : (2 : ℤ) ^ Format.binary64.exponentBits = 2048 := rfl
      omega
    · exact le_mul_of_one_le_left hten.le hone
  · have hexponent : e + (m.log2 + 1 : ℕ) ≤ -324 := by
      have : (2 : ℤ) ^ Format.binary64.exponentBits = 2048 := rfl
      omega
    apply isNearest_zero_of_lt hexponent (by positivity)
    have hm : (m : ℚ) < 10 ^ (m.log2 + 1) := by
      exact_mod_cast (Nat.lt_log2_self (n := m)).trans_le (Nat.pow_le_pow_left (by norm_num) _)
    rw [zpow_add₀ (by norm_num), zpow_natCast, mul_comm]
    exact mul_lt_mul_of_pos_left hm hten
  · obtain ⟨k, rfl⟩ := Int.eq_ofNat_of_zero_le hnonneg
    have hmul := rounds_mul .positive .positive (shiftLeft_pos hpos 53) (Nat.pow_pos (n := k) (by norm_num : 0 < 10))
      (e := -53) (f := 0) (by
        have hten : 0 < 10 ^ k := Nat.pow_pos (by norm_num)
        rw [Nat.le_log2 (Nat.mul_pos (shiftLeft_pos hpos 53) hten).ne', Nat.shiftLeft_eq]
        nlinarith [Nat.mul_pos hpos hten])
    have hexact : ((m <<< 53 : ℕ) : ℚ) * (10 ^ k : ℕ) * 2 ^ ((-53 : ℤ) + 0) = m * 10 ^ (k : ℤ) := by
      rw [Nat.shiftLeft_eq, zpow_natCast]
      push_cast
      norm_num
      ring
    rw [hexact] at hmul
    exact ⟨_, hmul, rfl⟩
  · obtain ⟨k, hk⟩ : ∃ k : ℕ, (-e).toNat = k := ⟨_, rfl⟩
    obtain rfl : e = -k := by omega
    have hdiv := rounds_div .positive hpos (Nat.pow_pos (n := k) (by norm_num : 0 < 10)) 0 0
    have hexact : (m : ℚ) * 2 ^ (0 : ℤ) / ((10 ^ k : ℕ) * 2 ^ (0 : ℤ)) = m * 10 ^ (-k : ℤ) := by
      rw [zpow_neg, zpow_natCast, zpow_zero, mul_one, mul_one, div_eq_mul_inv, Nat.cast_pow, Nat.cast_ofNat]
    rw [hexact] at hdiv
    refine ⟨_, hdiv, ?_⟩
    simp only [hk]
    rfl

/-- The number of 64 bits that a decimal with an exponent of either sign is read as. -/
theorem isNearest_ofScientific {m : ℕ} (hpos : 0 < m) (k : ℕ) :
    IsNearest (Float.ofScientific m false k) (m * 10 ^ (k : ℤ)) ∧
      IsNearest (Float.ofScientific m true k) (m * 10 ^ (-k : ℤ)) := by
  unfold Float.ofScientific
  by_cases h : m < 2 ^ 53 ∧ k ≤ 22
  · have hk : k < Float.exactlyRepresentablePowersOfTen.size := Nat.lt_succ_of_le h.2
    obtain ⟨hmul, hdiv⟩ := isNearest_fast hpos h.1 hk
    rw [dif_pos h, dif_pos h, zpow_neg, zpow_natCast, ← div_eq_mul_inv]
    exact ⟨hmul, hdiv⟩
  · rw [dif_neg h, dif_neg h]
    have hneg : Int.negOfNat k = -k := by cases k <;> rfl
    refine ⟨isNearest_model hpos k, ?_⟩
    have := isNearest_model hpos (-k)
    rw [← hneg] at this
    rw [← hneg]
    exact this

/-! ## Natural numbers -/

theorem rounds_ofNat {n : ℕ} (hpos : 0 < n) :
    ∃ rounded, Rounds .positive n rounded ∧ Float.ofNat n = .ofModel (.pack rounded) := by
  have hdecimal := (isNearest_ofScientific hpos 0).1
  rwa [Nat.cast_zero, zpow_zero, mul_one] at hdecimal

theorem ofNat_nonneg {n : ℕ} (h : Fits n) :
    Nonneg (Float.ofNat n) ∧ size (Float.ofNat n) = nearest n := by
  rcases Nat.eq_zero_or_pos n with rfl | hpos
  · rw [Nat.cast_zero, nearest_zero]
    exact ⟨⟨rfl, unsigned_zero .positive⟩, rfl⟩
  · obtain ⟨rounded, hrounds, hn⟩ := rounds_ofNat hpos
    rw [hn, ← hrounds.magnitude_eq]
    exact nonneg_ofModel_pack hrounds.canonical hrounds.unsigned (hrounds.magnitude_eq.trans_lt h)

theorem ofNat_infinity {n : ℕ} (h : ¬Fits n) :
    (Float.ofNat n).toModel.unpack = .infinity .positive := by
  have hlarge : 2 ^ 1024 ≤ nearest n := not_lt.mp h
  have hpos : 0 < n := by
    rcases Nat.eq_zero_or_pos n with rfl | hpos
    · rw [Nat.cast_zero, nearest_zero] at hlarge
      exact absurd hlarge (by norm_num)
    · exact hpos
  obtain ⟨rounded, hrounds, hn⟩ := rounds_ofNat hpos
  rw [hn, ← hrounds.sign_eq]
  exact unpack_pack_of_le hrounds.canonical (hrounds.magnitude_eq.symm ▸ hlarge)

theorem isFinite_ofNat_iff {n : ℕ} : (Float.ofNat n).isFinite = true ↔ Fits n := by
  constructor
  · intro hfinite
    by_contra hlarge
    replace hfinite : (Float.ofNat n).toModel.unpack.isFinite = true := hfinite
    rw [ofNat_infinity hlarge] at hfinite
    cases hfinite
  · intro hfits
    exact (ofNat_nonneg hfits).1.finite

end BenchLog.Binary64
