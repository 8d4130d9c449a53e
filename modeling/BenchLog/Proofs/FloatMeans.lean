import BenchLog.Proofs.FloatDecimal
import BenchLog.Proofs.FloatOrder
import BenchLog.TransactionSummary

/-!
# Means, shares and rates

When what is computed of latencies and counts is finite. A mean of integers of 64 bits always is, however
many there are: their sum stays where it is once it has reached `2 ^ 118` (`add_le_two_pow`). A count
divided by a duration is if the result fits, and then so is any smaller count.
-/

namespace BenchLog.Binary64

/-! ## Sums and means -/

theorem ofNat_le_word {n : ℕ} (h : n ≤ 2 ^ 64) :
    Nonneg (Float.ofNat n) ∧ size (Float.ofNat n) ≤ 2 ^ 64 := by
  have hcast : (n : ℚ) ≤ 2 ^ 64 := by exact_mod_cast h
  have hnonneg : (0 : ℚ) ≤ n := Nat.cast_nonneg n
  obtain ⟨hofNat, hsize⟩ := ofNat_nonneg (fits_of_le_two_pow hnonneg (by norm_num) hcast)
  exact ⟨hofNat, hsize.trans_le (nearest_le_of_grid hnonneg (grid_two_pow 64) hcast)⟩

/-- A sum that has reached `2 ^ 118` grows no more: what is added is less than half of its last place. -/
theorem add_le_two_pow {a b : Float} (ha : Nonneg a) (hsum : size a ≤ 2 ^ 118) (hb : Nonneg b)
    (hword : size b ≤ 2 ^ 64) : Nonneg (a + b) ∧ size (a + b) ≤ 2 ^ 118 := by
  have hexact : 0 ≤ size a + size b := add_nonneg (size_nonneg a) (size_nonneg b)
  have hnearest : nearest (size a + size b) ≤ 2 ^ 118 := by
    apply nearest_le_two_pow hexact (by norm_num)
    have hhalf : (2 : ℚ) ^ 64 < 2 ^ (118 - 53) := pow_lt_pow_right₀ (by norm_num) (by norm_num)
    linarith
  have hfits : Fits (size a + size b) :=
    hnearest.trans_lt (pow_lt_pow_right₀ (by norm_num) (by norm_num))
  obtain ⟨hnonneg, hsize⟩ := ha.add hb hfits
  exact ⟨hnonneg, hsize.trans_le hnearest⟩

theorem foldl_add_le_two_pow {numbers : List Float} {sum : Float} (hnonneg : Nonneg sum)
    (hsum : size sum ≤ 2 ^ 118) (words : ∀ x ∈ numbers, Nonneg x ∧ size x ≤ 2 ^ 64) :
    Nonneg (numbers.foldl (· + ·) sum) := by
  -- The bound on the sum so far is what carries over; the number of summands does not matter.
  induction numbers generalizing sum with
  | nil => exact hnonneg
  | cons x numbers ih =>
    obtain ⟨hx, hword⟩ := words x (List.mem_cons_self ..)
    obtain ⟨hnext, hbound⟩ := add_le_two_pow hnonneg hsum hx hword
    exact ih hnext hbound fun y hy => words y (List.mem_cons_of_mem _ hy)

theorem nonneg_sumFloats {numbers : List Float} (words : ∀ x ∈ numbers, Nonneg x ∧ size x ≤ 2 ^ 64) :
    Nonneg (sumFloats numbers) := by
  have hzero : Nonneg (-0.0) := ⟨rfl, unsigned_zero .negative⟩
  have hsize : size (-0.0) ≤ 2 ^ 118 := by
    show (0 : ℚ) ≤ _
    positivity
  exact foldl_add_le_two_pow hzero hsize words

/-! ## Quotients -/

/-- Dividing by a number of things neither makes a number infinite nor an infinite one finite. -/
theorem isFinite_div_ofNat_iff {a : Float} {n : ℕ} (hpos : 0 < n) :
    (a / Float.ofNat n).isFinite = true ↔ a.isFinite = true := by
  by_cases hfits : Fits n
  · obtain ⟨-, hsize⟩ := ofNat_nonneg hfits
    have hone : 1 ≤ size (Float.ofNat n) := by
      rw [hsize]
      exact le_nearest_of_grid (Nat.cast_nonneg n) (by simpa using grid_two_pow 0)
        (by exact_mod_cast hpos)
    rw [isFinite_div_iff (by linarith)]
    constructor
    · exact fun h => h.1
    · intro ha
      refine ⟨ha, lt_of_le_of_lt ?_ (size_lt_of_isFinite ha)⟩
      exact nearest_le_of_grid (div_nonneg (size_nonneg a) (size_nonneg _)) (grid_size ha)
        (div_le_self (size_nonneg a) hone)
  · exact isFinite_div_infinity_iff (ofNat_infinity hfits)

theorem isFinite_meanOf {numbers : List ℕ} (words : ∀ n ∈ numbers, n ≤ 2 ^ 64) :
    (meanOf numbers).isFinite = true := by
  unfold meanOf
  split
  · rfl
  · rename_i h
    have hpos : 0 < numbers.length := List.length_pos_iff.mpr (by simpa using h)
    apply (isFinite_div_ofNat_iff hpos).mpr
    refine (nonneg_sumFloats ?_).finite
    intro x hx
    obtain ⟨n, hn, rfl⟩ := List.mem_map.mp hx
    exact ofNat_le_word (words n hn)

theorem isFinite_ofNat_of_le {m n : ℕ} (h : m ≤ n) (hfinite : (Float.ofNat n).isFinite = true) :
    (Float.ofNat m).isFinite = true := by
  rw [isFinite_ofNat_iff] at hfinite ⊢
  exact hfinite.of_le (Nat.cast_nonneg m) (by exact_mod_cast h)

/-- A count can be divided if it fits and so does what dividing the rounded count gives. -/
theorem isFinite_ofNat_div_iff {n : ℕ} {d : Float} (hd : 0 < size d) :
    (Float.ofNat n / d).isFinite = true ↔ Fits n ∧ Fits (nearest n / size d) := by
  rw [isFinite_div_iff hd, isFinite_ofNat_iff]
  apply and_congr_right
  intro hn
  rw [(ofNat_nonneg hn).2]

theorem isFinite_ofNat_div_of_le {m n : ℕ} (h : m ≤ n) {d : Float} (hd : 0 < size d)
    (hfinite : (Float.ofNat n / d).isFinite = true) : (Float.ofNat m / d).isFinite = true := by
  rw [isFinite_ofNat_div_iff hd] at hfinite ⊢
  have hcast : (m : ℚ) ≤ n := by exact_mod_cast h
  have hnearest := nearest_mono (Nat.cast_nonneg m) hcast
  have hnonneg : 0 ≤ nearest m := (grid_nearest (Nat.cast_nonneg m)).nonneg
  refine ⟨hfinite.1.of_le (Nat.cast_nonneg m) hcast, hfinite.2.of_le (div_nonneg hnonneg hd.le) ?_⟩
  exact div_le_div_of_nonneg_right hnearest hd.le

/-- A number of seconds that can divide a count is not zero. -/
theorem size_pos_of_isDuration {d : Float} (h : isDuration d = true) : 0 < size d := by
  obtain ⟨hfinite, hpos⟩ : d.isFinite = true ∧ 0 < d := by simpa [isDuration] using h
  have hplace := (FloatOrder.lt_iff.mp hpos).2.2
  replace hfinite : d.toModel.unpack.isFinite = true := hfinite
  rw [show FloatOrder.rank 0 = toLex (0, toLex (0, 0)) from rfl] at hplace
  unfold FloatOrder.rank at hplace
  unfold size
  cases hd : d.toModel.unpack with
  | notANumber =>
    rw [hd] at hfinite
    cases hfinite
  | infinity s =>
    rw [hd] at hfinite
    cases hfinite
  | zero s =>
    rw [hd] at hplace
    exact absurd hplace (lt_irrefl _)
  | finite s m e hm =>
    have hmantissa : (0 : ℚ) < m := by exact_mod_cast hm
    exact mul_pos hmantissa (two_zpow_pos e)

end BenchLog.Binary64
