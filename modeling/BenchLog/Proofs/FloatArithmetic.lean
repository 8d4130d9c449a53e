import BenchLog.Proofs.FloatPacking

/-!
# Arithmetic of floating-point numbers

What a quotient, a sum of numbers that are not negative and a product come to: the exact result, rounded
(`nearest`), as long as that is below `2 ^ 1024`, and no finite number otherwise.
-/

namespace BenchLog.Binary64

open Float.Model Float.Model.UnpackedFloat

/-! ## Division -/

theorem approximates_div (m : ℕ) {n : ℕ} (hn : 0 < n) :
    Approximates (m / n) (accuracyOfFraction (m % n) n) ((m : ℚ) / n) := by
  have hcast : (0 : ℚ) < n := by exact_mod_cast hn
  have hsplit : (m : ℚ) / n = (m / n : ℕ) + (m % n : ℕ) / n := by
    rw [eq_comm, ← sub_eq_zero]
    have hdiv : (n : ℚ) * (m / n : ℕ) + (m % n : ℕ) = m := by exact_mod_cast Nat.div_add_mod m n
    field_simp
    linarith
  have hlt : ((m % n : ℕ) : ℚ) / n < 1 := by
    rw [div_lt_one hcast]
    exact_mod_cast Nat.mod_lt m hn
  rw [hsplit]
  unfold accuracyOfFraction
  by_cases hzero : m % n = 0
  · rw [if_pos hzero, hzero]
    simp [Approximates]
  · have hrest : (0 : ℚ) < (m % n : ℕ) / n := by
      have : (0 : ℚ) < (m % n : ℕ) := by exact_mod_cast Nat.pos_of_ne_zero hzero
      positivity
    rw [if_neg hzero]
    rcases lt_trichotomy (2 * (m % n)) n with hcmp | hcmp | hcmp
    · rw [Nat.compare_eq_lt.mpr hcmp]
      have hhalf : ((m % n : ℕ) : ℚ) / n < 1 / 2 := by
        rw [div_lt_div_iff₀ hcast (by norm_num)]
        have : (2 : ℚ) * (m % n : ℕ) < n := by exact_mod_cast hcmp
        linarith
      constructor <;> linarith
    · rw [Nat.compare_eq_eq.mpr hcmp]
      have hhalf : ((m % n : ℕ) : ℚ) / n = 1 / 2 := by
        rw [div_eq_div_iff hcast.ne' (by norm_num)]
        have : (2 : ℚ) * (m % n : ℕ) = n := by exact_mod_cast hcmp
        linarith
      show _ = _
      rw [hhalf]
    · rw [Nat.compare_eq_gt.mpr hcmp]
      have hhalf : 1 / 2 < ((m % n : ℕ) : ℚ) / n := by
        rw [div_lt_div_iff₀ (by norm_num) hcast]
        have : (n : ℚ) < 2 * (m % n : ℕ) := by exact_mod_cast hcmp
        linarith
      constructor <;> linarith

/-- The numerator is shifted until the quotient has 53 bits, or the exponent is the least one. -/
theorem rounds_div (sign : Sign) {m n : ℕ} (hm : 0 < m) (hn : 0 < n) (e f : ℤ) :
    Rounds sign (m * 2 ^ e / (n * 2 ^ f))
      (roundWithAccuracy .binary64 sign (divCore .binary64 m e n f).1 (divCore .binary64 m e n f).2.1
        (divCore .binary64 m e n f).2.2) := by
  have hcore (target : ℤ) (shift : ℕ)
      (htarget : min (e - f)
        (Format.binary64.targetExponent (totalExponent m e - totalExponent n f)) = target)
      (hshift : (e - f - target).toNat = shift) :
      divCore .binary64 m e n f =
        ((m <<< shift) / n, target, accuracyOfFraction ((m <<< shift) % n) n) := by
    subst htarget hshift
    rfl
  obtain ⟨target, htarget⟩ : ∃ target : ℤ, min (e - f)
      (Format.binary64.targetExponent (totalExponent m e - totalExponent n f)) = target := ⟨_, rfl⟩
  obtain ⟨shift, hshift⟩ : ∃ shift : ℕ, (e - f - target).toNat = shift := ⟨_, rfl⟩
  -- The shift makes the numerator 53 bits longer than the denominator, unless that goes too low.
  have hbound : target ≤ e - f ∧
      (target ≤ -1074 ∨ (n.log2 : ℤ) + 53 ≤ m.log2 + (e - f - target)) := by
    simp only [Format.targetExponent, totalExponent, Format.minExponent, mantissaBits_binary64] at htarget
    omega
  have hvalue : (m : ℚ) * 2 ^ e / (n * 2 ^ f) = ((m <<< shift : ℕ) : ℚ) / n * 2 ^ target := by
    have hexponent : target = e - f - shift := by omega
    have hm2 : (2 : ℚ) ^ shift ≠ 0 := by positivity
    have hf2 := (two_zpow_pos f).ne'
    rw [hexponent, Nat.shiftLeft_eq, zpow_sub₀ (by norm_num), zpow_sub₀ (by norm_num), zpow_natCast]
    push_cast
    field_simp
  rw [hcore target shift htarget hshift, hvalue]
  apply rounds_roundWithAccuracy sign (approximates_div _ hn)
  · have hpos : (0 : ℚ) < (m <<< shift : ℕ) := by exact_mod_cast shiftLeft_pos hm shift
    positivity
  · rcases hbound.2 with hleast | hbits
    · exact Or.inr hleast
    · left
      have hfull : 2 ^ 52 ≤ (m <<< shift) / n := by
        rw [Nat.le_div_iff_mul_le hn]
        calc 2 ^ 52 * n ≤ 2 ^ 52 * 2 ^ (n.log2 + 1) := Nat.mul_le_mul_left _ Nat.lt_log2_self.le
          _ = 2 ^ (n.log2 + 53) := by rw [← pow_add]; congr 1; omega
          _ ≤ 2 ^ (m <<< shift).log2 := by
            rw [log2_shiftLeft hm]
            exact Nat.pow_le_pow_right (by norm_num) (by omega)
          _ ≤ m <<< shift := Nat.log2_self_le (shiftLeft_pos hm shift).ne'
      have hne : (m <<< shift) / n ≠ 0 := by
        have : 0 < 2 ^ 52 := by norm_num
        omega
      exact (Nat.le_log2 hne).mpr hfull

/-! ## Sums -/

/-- No negative number, and a number at all. -/
def Unsigned (x : UnpackedFloat) : Prop :=
  ∀ sign mantissa exponent hpos, x = .finite sign mantissa exponent hpos → sign = .positive

theorem decreaseExponent_value (m : ℕ) {e f : ℤ} (h : f ≤ e) :
    ((decreaseExponent m e f).1 : ℚ) * 2 ^ f = m * 2 ^ e := by
  obtain ⟨shift, rfl⟩ := Int.le.dest h
  show ((m <<< (f + shift - f).toNat : ℕ) : ℚ) * 2 ^ f = _
  rw [add_sub_cancel_left, Int.toNat_natCast, Nat.shiftLeft_eq, add_comm, ← two_pow_mul_two_zpow]
  push_cast
  ring

theorem unsigned_zero (sign : Sign) : Unsigned (.zero sign) := by
  intro _ _ _ _ h
  cases h

theorem Rounds.unsigned {x : ℚ} {rounded : UnpackedFloat} (h : Rounds .positive x rounded) :
    Unsigned rounded := by
  rintro sign mantissa exponent hpos rfl
  exact h.sign_eq

theorem rounds_add {m n : ℕ} (hm : 0 < m) (hn : 0 < n) (e f : ℤ) :
    Rounds .positive (m * 2 ^ e + n * 2 ^ f)
      (UnpackedFloat.add .binary64 (.finite .positive m e hm) (.finite .positive n f hn)) := by
  have hleft := decreaseExponent_value m (min_le_left e f)
  have hright := decreaseExponent_value n (min_le_right e f)
  set left := (decreaseExponent m e (min e f)).1
  set right := (decreaseExponent n f (min e f)).1
  have hpos : 0 < left := shiftLeft_pos hm _
  have hvalue : (m : ℚ) * 2 ^ e + n * 2 ^ f = ((left + right : ℤ) : ℚ) * 2 ^ min e f := by
    rw [← hleft, ← hright]
    push_cast
    ring
  rw [hvalue]
  exact rounds_normalize (by omega) (min e f) .positive

/-- The sum of two numbers that are not negative. -/
theorem add_unsigned {x y : UnpackedFloat} (hx : Canonical x) (hy : Canonical y) (hux : Unsigned x)
    (huy : Unsigned y) :
    Canonical (UnpackedFloat.add .binary64 x y) ∧ Unsigned (UnpackedFloat.add .binary64 x y) ∧
      magnitude (UnpackedFloat.add .binary64 x y) = nearest (magnitude x + magnitude y) := by
  have zero_magnitude (s : Sign) : magnitude (.zero s) = 0 := rfl
  cases x with
  | infinity _ => exact hx.elim
  | notANumber => exact hx.elim
  | zero s =>
    rw [zero_magnitude, zero_add, nearest_of_grid hy.grid]
    cases y with
    | infinity _ => exact hy.elim
    | notANumber => exact hy.elim
    | zero t => cases s <;> cases t <;> exact ⟨trivial, unsigned_zero _, rfl⟩
    | finite t n f hn => exact ⟨hy, huy, rfl⟩
  | finite s m e hm =>
    cases y with
    | infinity _ => exact hy.elim
    | notANumber => exact hy.elim
    | zero t =>
      rw [zero_magnitude, add_zero, nearest_of_grid hx.grid]
      exact ⟨hx, hux, rfl⟩
    | finite t n f hn =>
      obtain rfl := hux s m e hm rfl
      obtain rfl := huy t n f hn rfl
      have hsum := rounds_add hm hn e f
      exact ⟨hsum.canonical, hsum.unsigned, hsum.magnitude_eq⟩

/-! ## Numbers of 64 bits -/

/-- A number without its sign; zero if it is not finite. -/
def size (x : Float) : ℚ := magnitude x.toModel.unpack

/-- A finite number that is not negative. -/
structure Nonneg (x : Float) : Prop where
  finite : x.isFinite = true
  unsigned : Unsigned x.toModel.unpack

theorem size_nonneg (x : Float) : 0 ≤ size x := magnitude_nonneg _

theorem canonical_of_isFinite {x : Float} (h : x.isFinite = true) : Canonical x.toModel.unpack :=
  (canonical_unpack h).1

theorem size_lt_of_isFinite {x : Float} (h : x.isFinite = true) : size x < 2 ^ 1024 :=
  (canonical_unpack h).2

theorem grid_size {x : Float} (h : x.isFinite = true) : Grid (size x) :=
  (canonical_of_isFinite h).grid

theorem isFinite_of_canonical {x : UnpackedFloat} (h : Canonical x) : x.isFinite = true := by
  cases x <;> first | rfl | exact h.elim

theorem isFinite_ofModel_pack_iff {x : UnpackedFloat} (h : Canonical x) :
    (Float.ofModel (Float.Model.pack x)).isFinite = true ↔ magnitude x < 2 ^ 1024 := by
  show (Float.Model.pack x).unpack.isFinite = true ↔ _
  constructor
  · intro hfinite
    by_contra hlarge
    rw [unpack_pack_of_le h (not_lt.mp hlarge)] at hfinite
    cases hfinite
  · intro hlt
    rw [unpack_pack_of_lt h hlt]
    exact isFinite_of_canonical h

theorem nonneg_ofModel_pack {x : UnpackedFloat} (h : Canonical x) (hu : Unsigned x)
    (hlt : magnitude x < 2 ^ 1024) :
    Nonneg (.ofModel (Float.Model.pack x)) ∧ size (.ofModel (Float.Model.pack x)) = magnitude x := by
  have hunpack : (Float.ofModel (Float.Model.pack x)).toModel.unpack = x := unpack_pack_of_lt h hlt
  refine ⟨⟨(isFinite_ofModel_pack_iff h).mpr hlt, ?_⟩, ?_⟩
  · rw [hunpack]
    exact hu
  · rw [size, hunpack]

/-- The sum of two numbers that are not negative is the exact sum, rounded, unless that is too large. -/
theorem Nonneg.add {a b : Float} (ha : Nonneg a) (hb : Nonneg b)
    (hfits : Fits (size a + size b)) :
    Nonneg (a + b) ∧ size (a + b) = nearest (size a + size b) := by
  obtain ⟨hcanonical, hunsigned, hvalue⟩ := add_unsigned (canonical_of_isFinite ha.finite)
    (canonical_of_isFinite hb.finite) ha.unsigned hb.unsigned
  have hsum : a + b = .ofModel (.pack (UnpackedFloat.add .binary64 a.toModel.unpack b.toModel.unpack)) :=
    rfl
  obtain ⟨hnonneg, hsize⟩ := nonneg_ofModel_pack hcanonical hunsigned (hvalue.trans_lt hfits)
  rw [hsum]
  exact ⟨hnonneg, hsize.trans hvalue⟩

theorem div_eq (a b : Float) :
    a / b = .ofModel (.pack (UnpackedFloat.div .binary64 a.toModel.unpack b.toModel.unpack)) := rfl

theorem unpack_pack_infinity (sign : Sign) :
    (Float.Model.pack (.infinity sign)).unpack = .infinity sign :=
  unpack_packedInfinity sign

theorem unpack_pack_notANumber : (Float.Model.pack .notANumber).unpack = .notANumber :=
  unpack_packedNaN

/-- A quotient is finite if the dividend is and the exact quotient, rounded, is not too large. -/
theorem isFinite_div_iff {a b : Float} (hb : 0 < size b) :
    (a / b).isFinite = true ↔ a.isFinite = true ∧ Fits (size a / size b) := by
  rw [div_eq]
  unfold size at hb ⊢
  unfold Fits
  show _ ↔ a.toModel.unpack.isFinite = true ∧ _
  generalize a.toModel.unpack = x
  generalize b.toModel.unpack = y at hb
  cases y with
  | infinity _ => exact absurd hb (lt_irrefl _)
  | notANumber => exact absurd hb (lt_irrefl _)
  | zero _ => exact absurd hb (lt_irrefl _)
  | finite t n f hn =>
    cases x with
    | notANumber =>
      show (Float.Model.pack .notANumber).unpack.isFinite = true ↔ _
      rw [unpack_pack_notANumber]
      simp [UnpackedFloat.isFinite]
    | infinity s =>
      show (Float.Model.pack (.infinity (s / t))).unpack.isFinite = true ↔ _
      rw [unpack_pack_infinity]
      simp [UnpackedFloat.isFinite]
    | zero s =>
      have hzero : Canonical (.zero (s / t)) := trivial
      refine (isFinite_ofModel_pack_iff hzero).trans ?_
      simp [magnitude, UnpackedFloat.isFinite]
    | finite s m e hm =>
      have hrounds := rounds_div (s / t) hm hn e f
      refine (isFinite_ofModel_pack_iff hrounds.canonical).trans ?_
      rw [hrounds.magnitude_eq]
      simp [magnitude, UnpackedFloat.isFinite]

/-- A finite number divided by infinity is zero, and any other has no finite quotient. -/
theorem isFinite_div_infinity_iff {a b : Float} {sign : Sign} (hb : b.toModel.unpack = .infinity sign) :
    (a / b).isFinite = true ↔ a.isFinite = true := by
  have hzero (s : Sign) : (Float.Model.pack (.zero s)).unpack.isFinite = true :=
    (isFinite_ofModel_pack_iff (x := .zero s) trivial).mpr (by norm_num [magnitude])
  have hnan : (Float.Model.pack .notANumber).unpack.isFinite = false := by
    rw [unpack_pack_notANumber]
    rfl
  rw [div_eq, hb]
  show _ ↔ a.toModel.unpack.isFinite = true
  generalize a.toModel.unpack = x
  cases x with
  | notANumber => exact iff_of_eq (congrArg (· = true) hnan)
  | infinity s => exact iff_of_eq (congrArg (· = true) hnan)
  | zero s => exact iff_of_true (hzero (s / sign)) rfl
  | finite s m e hm => exact iff_of_true (hzero (s / sign)) rfl

/-! ## Products -/

theorem rounds_mul (s t : Sign) {m n : ℕ} (hm : 0 < m) (hn : 0 < n) {e f : ℤ}
    (henough : 52 ≤ (m * n).log2) :
    Rounds (s * t) (m * n * 2 ^ (e + f))
      (UnpackedFloat.mul .binary64 (.finite s m e hm) (.finite t n f hn)) := by
  have hpos : (0 : ℚ) < (m * n : ℕ) := by exact_mod_cast Nat.mul_pos hm hn
  rw [← Nat.cast_mul]
  exact rounds_roundWithAccuracy (s * t) (approximates_exact _) hpos (Or.inl henough)

theorem exists_finite_of_magnitude_pos {x : UnpackedFloat} (hu : Unsigned x) (h : 0 < magnitude x) :
    ∃ m e hm, x = .finite .positive m e hm := by
  cases x with
  | finite s m e hm =>
    obtain rfl := hu s m e hm rfl
    exact ⟨m, e, hm, rfl⟩
  | _ => exact absurd h (lt_irrefl _)

end BenchLog.Binary64
