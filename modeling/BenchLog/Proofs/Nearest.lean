import Mathlib.Algebra.Order.Field.Power
import Mathlib.Data.Int.Log
import Mathlib.Data.Rat.Floor
import Mathlib.Tactic.Linarith
import Mathlib.Tactic.Positivity
import Mathlib.Tactic.Ring

/-!
# Rounding to 53 bits

The numbers with 53 significant bits and exponents from -1074 up make a grid (`Grid`). A rational number
that is not negative is rounded to a nearest point of it, and of two such points to the even one
(`nearest`). Rounding knows no upper end: a number is too large for 64 bits if what it is rounded to
reaches `2 ^ 1024`, and otherwise it fits (`Fits`).
-/

namespace BenchLog.Binary64

/-! ## Integers -/

/-- The nearest integer; of two the even one. -/
def roundEven (y : ℚ) : ℤ :=
  if y - ⌊y⌋ < 1 / 2 then ⌊y⌋
  else if 1 / 2 < y - ⌊y⌋ then ⌊y⌋ + 1
  else ⌊y⌋ + ⌊y⌋ % 2

theorem abs_sub_roundEven_le (y : ℚ) : |y - roundEven y| ≤ 1 / 2 := by
  have hlow := Int.floor_le y
  have hhigh := Int.lt_floor_add_one y
  unfold roundEven
  split_ifs with h h'
  · rw [abs_le]
    constructor <;> linarith
  · rw [abs_le]
    push_cast
    constructor <;> linarith
  · have hodd : ⌊y⌋ % 2 = 0 ∨ ⌊y⌋ % 2 = 1 := by omega
    rw [abs_le]
    rcases hodd with hodd | hodd <;> rw [hodd] <;> push_cast <;> constructor <;> linarith

theorem abs_sub_roundEven_le_of_int (y : ℚ) (n : ℤ) : |y - roundEven y| ≤ |y - n| := by
  by_cases h : roundEven y = n
  · rw [h]
  · have hdist : (1 : ℚ) ≤ |((roundEven y - n : ℤ) : ℚ)| := by
      rw [← Int.cast_abs]
      exact_mod_cast Int.one_le_abs (sub_ne_zero.mpr h)
    have hnear := abs_sub_roundEven_le y
    have htriangle := abs_sub_abs_le_abs_sub ((roundEven y - n : ℤ) : ℚ) (roundEven y - y : ℚ)
    rw [abs_sub_comm (roundEven y : ℚ) y] at htriangle
    have hdiff : ((roundEven y - n : ℤ) : ℚ) - (roundEven y - y) = y - n := by
      push_cast
      ring
    rw [hdiff] at htriangle
    linarith

theorem floor_le_roundEven (y : ℚ) : ⌊y⌋ ≤ roundEven y := by
  unfold roundEven
  split_ifs <;> omega

theorem roundEven_nonneg {y : ℚ} (h : 0 ≤ y) : 0 ≤ roundEven y :=
  (Int.floor_nonneg.mpr h).trans (floor_le_roundEven y)

theorem roundEven_le_of_lt {y : ℚ} {n : ℤ} (h : y < n) : roundEven y ≤ n := by
  have hnear := (abs_le.mp (abs_sub_roundEven_le y)).1
  have hlt : (roundEven y : ℚ) < n + 1 := by linarith
  have hlt' : roundEven y < n + 1 := by exact_mod_cast hlt
  omega

/-! ## The grid -/

/-- The numbers with 53 significant bits that are not negative. -/
def Grid (g : ℚ) : Prop :=
  ∃ (n : ℕ) (e : ℤ), n ≤ 2 ^ 53 ∧ -1074 ≤ e ∧ g = n * 2 ^ e

/-- The exponent of the last of 53 bits. -/
def lastExponent (x : ℚ) : ℤ := max (Int.log 2 x - 52) (-1074)

/-- The nearest number of 53 bits. -/
def nearest (x : ℚ) : ℚ := roundEven (x / 2 ^ lastExponent x) * 2 ^ lastExponent x

theorem Grid.nonneg {g : ℚ} (h : Grid g) : 0 ≤ g := by
  obtain ⟨n, e, -, -, rfl⟩ := h
  positivity

theorem grid_two_pow (k : ℕ) : Grid (2 ^ k) :=
  ⟨1, k, by norm_num, by omega, by simp⟩

theorem grid_natCast {n : ℕ} (h : n ≤ 2 ^ 53) : Grid n :=
  ⟨n, 0, h, by norm_num, by simp⟩

theorem two_pow_mul_two_zpow (k : ℕ) (e : ℤ) : (2 : ℚ) ^ k * 2 ^ e = 2 ^ (k + e) := by
  rw [zpow_add₀ (by norm_num), zpow_natCast]

theorem lt_two_pow_mul_lastExponent (x : ℚ) : x < 2 ^ 53 * 2 ^ lastExponent x := by
  have hexponent : Int.log 2 x + 1 ≤ ((53 : ℕ) : ℤ) + lastExponent x := by
    unfold lastExponent
    omega
  rw [two_pow_mul_two_zpow]
  calc x < ((2 : ℕ) : ℚ) ^ (Int.log 2 x + 1) := Int.lt_zpow_succ_log_self (by norm_num) x
    _ ≤ 2 ^ (((53 : ℕ) : ℤ) + lastExponent x) := zpow_le_zpow_right₀ (by norm_num) hexponent

theorem two_pow_mul_lastExponent_le {x : ℚ} (h : 0 < x) :
    lastExponent x = -1074 ∨ 2 ^ 52 * 2 ^ lastExponent x ≤ x := by
  by_cases hsubnormal : lastExponent x = -1074
  · exact Or.inl hsubnormal
  · have hexponent : ((52 : ℕ) : ℤ) + lastExponent x = Int.log 2 x := by
      unfold lastExponent at hsubnormal ⊢
      omega
    rw [two_pow_mul_two_zpow, hexponent]
    exact Or.inr (Int.zpow_log_le_self (by norm_num) h)

theorem abs_sub_mul {unit : ℚ} (hunit : 0 < unit) (x a : ℚ) :
    |x / unit - a| * unit = |x - a * unit| := by
  calc |x / unit - a| * unit = |(x / unit - a) * unit| := by rw [abs_mul, abs_of_pos hunit]
    _ = |x - a * unit| := by
      congr 1
      field_simp

theorem two_zpow_pos (e : ℤ) : (0 : ℚ) < 2 ^ e := by positivity

/-- What is rounded to is nearest among the multiples of its last place. -/
theorem abs_sub_nearest_le_of_multiple (x : ℚ) (n : ℤ) :
    |x - nearest x| ≤ |x - n * 2 ^ lastExponent x| := by
  have hunit := two_zpow_pos (lastExponent x)
  rw [nearest, ← abs_sub_mul hunit, ← abs_sub_mul hunit]
  exact mul_le_mul_of_nonneg_right (abs_sub_roundEven_le_of_int _ n) hunit.le

/-- In units of its last place a number is rounded to at most 53 bits. -/
theorem roundEven_lastExponent_le (x : ℚ) : roundEven (x / 2 ^ lastExponent x) ≤ 2 ^ 53 := by
  apply roundEven_le_of_lt
  rw [div_lt_iff₀ (two_zpow_pos _)]
  exact_mod_cast lt_two_pow_mul_lastExponent x

theorem le_roundEven_lastExponent {x : ℚ} (h : 0 < x) :
    lastExponent x = -1074 ∨ 2 ^ 52 ≤ roundEven (x / 2 ^ lastExponent x) := by
  apply (two_pow_mul_lastExponent_le h).imp_right
  intro hreach
  refine le_trans ?_ (floor_le_roundEven _)
  rw [Int.le_floor, le_div_iff₀ (two_zpow_pos _)]
  exact_mod_cast hreach

theorem grid_nearest {x : ℚ} (h : 0 ≤ x) : Grid (nearest x) := by
  have hbound := roundEven_lastExponent_le x
  have hnonneg := roundEven_nonneg (div_nonneg h (two_zpow_pos (lastExponent x)).le)
  refine ⟨(roundEven (x / 2 ^ lastExponent x)).toNat, lastExponent x, by omega, le_max_right _ _, ?_⟩
  rw [nearest, ← Int.cast_natCast (R := ℚ), Int.toNat_of_nonneg hnonneg]

/-- A point of the grid is a multiple of the last place of a number, or no greater than a multiple that
    the number reaches. -/
theorem Grid.multiple_or_le {x g : ℚ} (hx : 0 < x) (hg : Grid g) :
    (∃ n : ℤ, g = n * 2 ^ lastExponent x) ∨
      g ≤ 2 ^ 52 * 2 ^ lastExponent x ∧ 2 ^ 52 * 2 ^ lastExponent x ≤ x := by
  obtain ⟨n, e, hn, he, rfl⟩ := hg
  rcases le_or_gt (lastExponent x) e with hle | hlt
  · left
    refine ⟨n * 2 ^ (e - lastExponent x).toNat, ?_⟩
    have hsplit : e = (((e - lastExponent x).toNat : ℕ) : ℤ) + lastExponent x := by omega
    push_cast
    rw [mul_assoc, two_pow_mul_two_zpow, ← hsplit]
  · right
    refine ⟨?_, (two_pow_mul_lastExponent_le hx).resolve_left (by omega)⟩
    have hcast : (n : ℚ) ≤ 2 ^ 53 := by exact_mod_cast hn
    calc (n : ℚ) * 2 ^ e ≤ 2 ^ 53 * 2 ^ e := mul_le_mul_of_nonneg_right hcast (two_zpow_pos e).le
      _ = 2 ^ (((53 : ℕ) : ℤ) + e) := two_pow_mul_two_zpow 53 e
      _ ≤ 2 ^ (((52 : ℕ) : ℤ) + lastExponent x) := zpow_le_zpow_right₀ (by norm_num) (by omega)
      _ = 2 ^ 52 * 2 ^ lastExponent x := (two_pow_mul_two_zpow 52 _).symm

@[simp] theorem nearest_zero : nearest 0 = 0 := by
  simp [nearest, roundEven]

/-- What is rounded to is nearest among all points of the grid. -/
theorem abs_sub_nearest_le {x g : ℚ} (h : 0 ≤ x) (hg : Grid g) : |x - nearest x| ≤ |x - g| := by
  rcases h.eq_or_lt with rfl | hx
  · simp
  · rcases hg.multiple_or_le hx with ⟨n, rfl⟩ | ⟨hbelow, hreach⟩
    · exact abs_sub_nearest_le_of_multiple x n
    · have hmultiple := abs_sub_nearest_le_of_multiple x (2 ^ 52)
      rw [Int.cast_pow, Int.cast_ofNat] at hmultiple
      rw [abs_of_nonneg (sub_nonneg.mpr hreach)] at hmultiple
      rw [abs_of_nonneg (by linarith : 0 ≤ x - g)]
      linarith

theorem nearest_of_grid {g : ℚ} (hg : Grid g) : nearest g = g := by
  have hzero := abs_sub_nearest_le hg.nonneg hg
  rw [sub_self, abs_zero] at hzero
  have := abs_eq_zero.mp (le_antisymm hzero (abs_nonneg _))
  linarith

theorem nearest_le_of_grid {x g : ℚ} (h : 0 ≤ x) (hg : Grid g) (hle : x ≤ g) : nearest x ≤ g := by
  by_contra hlt
  rw [not_le] at hlt
  have hnear := abs_sub_nearest_le h hg
  rw [abs_of_nonpos (by linarith), abs_of_nonpos (by linarith)] at hnear
  linarith

theorem le_nearest_of_grid {x g : ℚ} (h : 0 ≤ x) (hg : Grid g) (hle : g ≤ x) : g ≤ nearest x := by
  by_contra hlt
  rw [not_le] at hlt
  have hnear := abs_sub_nearest_le h hg
  rw [abs_of_nonneg (by linarith), abs_of_nonneg (by linarith)] at hnear
  linarith

theorem nearest_mono {x y : ℚ} (h : 0 ≤ x) (hle : x ≤ y) : nearest x ≤ nearest y := by
  rcases hle.eq_or_lt with rfl | hlt
  · exact le_rfl
  · by_contra hgt
    rw [not_le] at hgt
    have hy : 0 ≤ y := h.trans hle
    -- The two points would be nearer to the numbers the other way round.
    have hnear := abs_sub_nearest_le h (grid_nearest hy)
    have hnear' := abs_sub_nearest_le hy (grid_nearest h)
    rcases abs_cases (x - nearest x) with hx | hx <;> rcases abs_cases (x - nearest y) with hx' | hx' <;>
      rcases abs_cases (y - nearest x) with hy' | hy' <;>
        rcases abs_cases (y - nearest y) with hy'' | hy'' <;> linarith

/-- Below half of the least number everything is rounded to zero. -/
theorem nearest_of_lt {x : ℚ} (h : 0 ≤ x) (hlt : x < 2 ^ (-1075 : ℤ)) : nearest x = 0 := by
  rcases h.eq_or_lt with rfl | hpos
  · exact nearest_zero
  · have hlog : Int.log 2 x < -1075 := by
      rw [← Int.lt_zpow_iff_log_lt (by norm_num) hpos]
      exact_mod_cast hlt
    have hlast : lastExponent x = -1074 := by
      unfold lastExponent
      omega
    have hunit : (2 : ℚ) ^ (-1075 : ℤ) = 1 / 2 * 2 ^ (-1074 : ℤ) := by
      rw [show (-1075 : ℤ) = -1 + -1074 by norm_num, zpow_add₀ (by norm_num), zpow_neg_one, one_div]
    have hhalf : x / 2 ^ (-1074 : ℤ) < 1 / 2 := by
      rw [div_lt_iff₀ (two_zpow_pos _), ← hunit]
      exact hlt
    have hfloor : ⌊x / 2 ^ (-1074 : ℤ)⌋ = 0 := by
      rw [Int.floor_eq_zero_iff]
      exact ⟨by positivity, by linarith⟩
    rw [nearest, hlast, roundEven, hfloor, Int.cast_zero, sub_zero, if_pos hhalf]
    simp

/-- What a number is rounded to is below the end of the range. -/
def Fits (x : ℚ) : Prop := nearest x < 2 ^ 1024

theorem Fits.of_le {x y : ℚ} (h : Fits y) (hx : 0 ≤ x) (hle : x ≤ y) : Fits x :=
  lt_of_le_of_lt (nearest_mono hx hle) h

theorem fits_of_le_two_pow {x : ℚ} (hx : 0 ≤ x) {k : ℕ} (hk : k < 1024) (hle : x ≤ 2 ^ k) : Fits x := by
  have hnearest := nearest_le_of_grid hx (grid_two_pow k) hle
  exact hnearest.trans_lt (pow_lt_pow_right₀ (by norm_num) hk)

theorem not_fits_of_le {x : ℚ} (h : 2 ^ 1024 ≤ x) : ¬Fits x :=
  not_lt.mpr (le_nearest_of_grid (le_trans (by positivity) h) (grid_two_pow 1024) h)

/-- Above a power of two the next point of the grid is a last place away. -/
theorem Grid.two_pow_lt {g : ℚ} (hg : Grid g) {k : ℕ} (hk : 52 ≤ k) (h : 2 ^ k < g) :
    2 ^ k + 2 ^ (k - 52) ≤ g := by
  obtain ⟨n, e, hn, -, rfl⟩ := hg
  have hcast : (n : ℚ) ≤ 2 ^ 53 := by exact_mod_cast hn
  have hexponent : ((k - 52 : ℕ) : ℤ) ≤ e := by
    by_contra hlt
    have hle : (n : ℚ) * 2 ^ e ≤ 2 ^ k := by
      calc (n : ℚ) * 2 ^ e ≤ 2 ^ 53 * 2 ^ e := mul_le_mul_of_nonneg_right hcast (two_zpow_pos e).le
        _ = 2 ^ (((53 : ℕ) : ℤ) + e) := two_pow_mul_two_zpow 53 e
        _ ≤ 2 ^ ((k : ℕ) : ℤ) := zpow_le_zpow_right₀ (by norm_num) (by omega)
        _ = 2 ^ k := zpow_natCast _ _
    linarith
  obtain ⟨shift, hshift⟩ := Int.le.dest hexponent
  have hvalue : (n : ℚ) * 2 ^ e = ((n * 2 ^ shift : ℕ) : ℚ) * 2 ^ (k - 52) := by
    rw [← hshift, zpow_add₀ (by norm_num), zpow_natCast, zpow_natCast]
    push_cast
    ring
  have hpower : (2 : ℚ) ^ k = ((2 ^ 52 : ℕ) : ℚ) * 2 ^ (k - 52) := by
    rw [Nat.cast_pow, Nat.cast_ofNat, ← pow_add, Nat.add_sub_cancel' hk]
  have hunit : (0 : ℚ) < 2 ^ (k - 52) := by positivity
  rw [hvalue, hpower, mul_lt_mul_iff_of_pos_right hunit, Nat.cast_lt] at h
  have hnext : ((2 ^ 52 + 1 : ℕ) : ℚ) ≤ ((n * 2 ^ shift : ℕ) : ℚ) := Nat.cast_le.mpr h
  have hscaled := mul_le_mul_of_nonneg_right hnext hunit.le
  rw [hvalue, hpower]
  push_cast at hscaled ⊢
  linarith

/-- What is less than half a last place above a power of two is rounded to that power at most. -/
theorem nearest_le_two_pow {x : ℚ} (h : 0 ≤ x) {k : ℕ} (hk : 53 ≤ k)
    (hlt : x < 2 ^ k + 2 ^ (k - 53)) : nearest x ≤ 2 ^ k := by
  by_contra hgt
  rw [not_le] at hgt
  have hnext := (grid_nearest h).two_pow_lt (by omega) hgt
  have hhalf : (2 : ℚ) ^ (k - 52) = 2 * 2 ^ (k - 53) := by
    rw [← pow_succ']
    congr 1
    omega
  have hnear := abs_sub_nearest_le h (grid_two_pow k)
  have hpos : (0 : ℚ) < 2 ^ (k - 53) := by positivity
  rw [abs_of_nonpos (by linarith)] at hnear
  rcases abs_cases (x - 2 ^ k) with habs | habs <;> linarith

end BenchLog.Binary64
