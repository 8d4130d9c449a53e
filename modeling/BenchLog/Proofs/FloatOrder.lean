import BenchLog.Window
import Mathlib.Data.Int.Order.Basic
import Mathlib.Data.Prod.Lex

/-!
# The order of floating-point numbers

Each number has a rank in a linear order, and comparing numbers is comparing ranks as long as neither of
them is NaN (`lt_iff`, `le_iff`, `beq_iff`). Two numbers are alike if they have the same rank: the two
zeros are, and so are all that is not a number. Nothing that an analysis does with a time tells alike
numbers apart (`Alike.add`).
-/

namespace BenchLog.FloatOrder

open Float.Model Float.Model.UnpackedFloat

/-! ## Ranks -/

/-- The place of a number by sign, exponent and mantissa. The two zeros share one, and NaN gets theirs
    for want of a place of its own. -/
def place : UnpackedFloat → ℤ ×ₗ ℤ ×ₗ ℤ
  | .infinity .negative => toLex (-2, toLex (0, 0))
  | .finite .negative mantissa exponent _ => toLex (-1, toLex (-exponent, -mantissa))
  | .finite .positive mantissa exponent _ => toLex (1, toLex (exponent, mantissa))
  | .infinity .positive => toLex (2, toLex (0, 0))
  | _ => toLex (0, toLex (0, 0))

/-- The place of a number in the order. -/
def rank (a : Float) : ℤ ×ₗ ℤ ×ₗ ℤ := place a.toModel.unpack

theorem compare_toLex (a b c d e f : ℤ) :
    compare (toLex (a, toLex (b, c))) (toLex (d, toLex (e, f))) =
      (compare a d).then ((compare b e).then (compare c f)) := rfl

theorem compare_neg (a b : ℤ) : compare (-a) (-b) = (compare a b).swap := by
  rw [← Std.OrientedOrd.eq_swap]
  rcases lt_trichotomy a b with h | h | h
  · rw [compare_gt_iff_gt.mpr h, compare_gt_iff_gt.mpr (by omega)]
  · rw [h, compare_eq_iff_eq.mpr rfl, compare_eq_iff_eq.mpr rfl]
  · rw [compare_lt_iff_lt.mpr h, compare_lt_iff_lt.mpr (by omega)]

theorem compare_natCast (m n : ℕ) : compare (m : ℤ) (n : ℤ) = compare m n := by
  rcases lt_trichotomy m n with h | h | h
  · rw [compare_lt_iff_lt.mpr h, compare_lt_iff_lt.mpr (by omega)]
  · rw [h, compare_eq_iff_eq.mpr rfl, compare_eq_iff_eq.mpr rfl]
  · rw [compare_gt_iff_gt.mpr h, compare_gt_iff_gt.mpr (by omega)]

theorem compare_of_not_isNaN {x y : UnpackedFloat} (hx : x.isNaN = false) (hy : y.isNaN = false) :
    x.compare y = some (compare (place x) (place y)) := by
  -- Of two negative numbers the greater exponent and mantissa make the smaller one.
  rcases x with ⟨⟨⟩⟩ | _ | ⟨⟨⟩⟩ | ⟨⟨⟩, m, e, hm⟩ <;> try cases hx
  all_goals
    rcases y with ⟨⟨⟩⟩ | _ | ⟨⟨⟩⟩ | ⟨⟨⟩, n, f, hn⟩ <;> try cases hy
  all_goals
    dsimp only [UnpackedFloat.compare, place]
    rw [compare_toLex]
    try simp only [compare_neg, compare_natCast, Ordering.swap_then]
    rfl

/-- Comparing gives nothing if one side is NaN, and compares the ranks otherwise. -/
theorem compare_eq (a b : Float) :
    a.toModel.unpack.compare b.toModel.unpack =
      if a.isNaN = false ∧ b.isNaN = false then some (compare (rank a) (rank b)) else none := by
  have unpacked (x y : UnpackedFloat) : x.compare y =
      if x.isNaN = false ∧ y.isNaN = false then some (compare (place x) (place y)) else none := by
    split
    · rename_i h
      exact compare_of_not_isNaN h.1 h.2
    · rename_i h
      cases x <;> cases y <;> first | rfl | exact absurd ⟨rfl, rfl⟩ h
  exact unpacked _ _

theorem lt_iff {a b : Float} : a < b ↔ a.isNaN = false ∧ b.isNaN = false ∧ rank a < rank b := by
  have unfolded : a < b ↔ a.toModel.unpack.compare b.toModel.unpack = some .lt :=
    (decide_eq_true_iff (p := a.toModel.unpack.lt b.toModel.unpack = true)).trans beq_iff_eq
  rw [unfolded, compare_eq]
  split
  · simp_all only [Option.some.injEq, compare_lt_iff_lt, true_and]
  · simp_all

theorem le_iff {a b : Float} : a ≤ b ↔ a.isNaN = false ∧ b.isNaN = false ∧ rank a ≤ rank b := by
  have unfolded : a ≤ b ↔ (a.toModel.unpack.compare b.toModel.unpack).any (·.isLE) = true :=
    decide_eq_true_iff (p := a.toModel.unpack.le b.toModel.unpack = true)
  rw [unfolded, compare_eq]
  split
  · simp_all [← compare_le_iff_le, Ordering.isLE_iff_ne_gt]
  · simp_all

theorem beq_iff {a b : Float} :
    (a == b) = true ↔ a.isNaN = false ∧ b.isNaN = false ∧ rank a = rank b := by
  have unfolded : (a == b) = true ↔ a.toModel.unpack.compare b.toModel.unpack = some .eq := by
    show (a.toModel.unpack.compare b.toModel.unpack == some .eq) = true ↔ _
    exact beq_iff_eq
  rw [unfolded, compare_eq]
  split
  · simp_all only [Option.some.injEq, compare_eq_iff_eq, true_and]
  · simp_all

/-- A number is known from its place, but for the sign of a zero. -/
theorem eq_or_zero_of_place_eq {x y : UnpackedFloat} (hnan : x.isNaN = y.isNaN)
    (hplace : place x = place y) : x = y ∨ ∃ s t, x = .zero s ∧ y = .zero t := by
  have finite_eq {s : Sign} {m n : ℕ} {e f : ℤ} {hm : 0 < m} {hn : 0 < n}
      (h : e = f ∧ (m : ℤ) = n) : UnpackedFloat.finite s m e hm = .finite s n f hn := by
    obtain ⟨rfl, hmantissa⟩ := h
    obtain rfl := Int.ofNat.inj hmantissa
    rfl
  rcases x with ⟨⟨⟩⟩ | _ | s | ⟨⟨⟩, m, e, hm⟩ <;>
    rcases y with ⟨⟨⟩⟩ | _ | t | ⟨⟨⟩, n, f, hn⟩ <;>
    dsimp only [place] at hplace <;>
    first
      | exact Or.inl rfl
      | exact Or.inr ⟨_, _, rfl, rfl⟩
      | exact Bool.noConfusion hnan
      | (simp at hplace; done)
      | exact Or.inl (finite_eq (by simpa using hplace))

/-! ## The order -/

theorem le_refl {a : Float} (h : a.isNaN = false) : a ≤ a :=
  le_iff.mpr ⟨h, h, le_rfl⟩

theorem le_trans {a b c : Float} (hab : a ≤ b) (hbc : b ≤ c) : a ≤ c := by
  obtain ⟨ha, -, hab⟩ := le_iff.mp hab
  obtain ⟨-, hc, hbc⟩ := le_iff.mp hbc
  exact le_iff.mpr ⟨ha, hc, hab.trans hbc⟩

theorem le_of_lt {a b : Float} (h : a < b) : a ≤ b := by
  obtain ⟨ha, hb, hab⟩ := lt_iff.mp h
  exact le_iff.mpr ⟨ha, hb, hab.le⟩

theorem le_of_not_lt {a b : Float} (ha : a.isNaN = false) (hb : b.isNaN = false) (h : ¬a < b) :
    b ≤ a := by
  refine le_iff.mpr ⟨hb, ha, not_lt.mp ?_⟩
  intro hab
  exact h (lt_iff.mpr ⟨ha, hb, hab⟩)

/-! ## Alike numbers -/

/-- Two numbers are alike if they are equal as numbers, or if neither is one. -/
def Alike (a b : Float) : Prop := a.isNaN = b.isNaN ∧ rank a = rank b

namespace Alike

variable {a b c : Float}

theorem refl (a : Float) : Alike a a := ⟨rfl, rfl⟩

theorem symm (h : Alike a b) : Alike b a := ⟨h.1.symm, h.2.symm⟩

theorem trans (hab : Alike a b) (hbc : Alike b c) : Alike a c :=
  ⟨hab.1.trans hbc.1, hab.2.trans hbc.2⟩

theorem of_le_of_le (hab : a ≤ b) (hba : b ≤ a) : Alike a b := by
  obtain ⟨ha, hb, hab⟩ := le_iff.mp hab
  obtain ⟨-, -, hba⟩ := le_iff.mp hba
  exact ⟨ha.trans hb.symm, hab.antisymm hba⟩

theorem of_isNaN (ha : a.isNaN = true) (hb : b.isNaN = true) : Alike a b := by
  have place_eq {x : UnpackedFloat} (hx : x.isNaN = true) : place x = toLex (0, toLex (0, 0)) := by
    cases x <;> first | rfl | cases hx
  exact ⟨ha.trans hb.symm, (place_eq ha).trans (place_eq hb).symm⟩

theorem beq (h : Alike a b) (ha : a.isNaN = false) : (a == b) = true :=
  beq_iff.mpr ⟨ha, h.1 ▸ ha, h.2⟩

theorem le_iff_left (h : Alike a b) : a ≤ c ↔ b ≤ c := by
  rw [le_iff, le_iff, h.1, h.2]

theorem le_iff_right (h : Alike a b) : c ≤ a ↔ c ≤ b := by
  rw [le_iff, le_iff, h.1, h.2]

/-- Alike numbers are the same one, or a zero each. -/
theorem unpack_eq_or_zero (h : Alike a b) :
    a.toModel.unpack = b.toModel.unpack ∨
      ∃ s t, a.toModel.unpack = .zero s ∧ b.toModel.unpack = .zero t := by
  exact eq_or_zero_of_place_eq h.1 h.2

/-- Adding to alike numbers gives alike sums: what a zero adds does not depend on its sign. -/
theorem add (h : Alike a b) (c : Float) : Alike (a + c) (b + c) := by
  have sum_eq (x : Float) : x + c =
      .ofModel (pack (UnpackedFloat.add .binary64 x.toModel.unpack c.toModel.unpack)) := rfl
  rcases h.unpack_eq_or_zero with heq | ⟨s, t, ha, hb⟩
  · rw [sum_eq a, sum_eq b, heq]
    exact refl _
  · rw [sum_eq a, sum_eq b, ha, hb]
    cases c.toModel.unpack with
    | zero r => cases r <;> cases s <;> cases t <;> exact ⟨rfl, rfl⟩
    | notANumber => exact refl _
    | infinity r => exact refl _
    | finite r m e hm => exact refl _

end Alike

end BenchLog.FloatOrder
