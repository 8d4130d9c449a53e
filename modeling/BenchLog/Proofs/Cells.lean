import BenchLog.Report

/-!
# What a value leaves out

A floating-point number that is not finite has no value in a document, and no other number is left out:
each is written with at least one digit. The cell of a value is empty for nothing else but the empty text
(`Csv.cell_eq_empty_iff`).
-/

namespace BenchLog

namespace Json

@[simp] theorem ofFloat_eq_null_iff {x : Float} : ofFloat x = .null ↔ x.isFinite = false := by
  unfold ofFloat
  split <;> simp_all

@[simp] theorem ofNat_ne_null (n : Nat) : ofNat n ≠ .null := by
  intro h
  cases h

end Json

namespace Decimal

theorem writePositional_ne_empty (digits : List Char) (point : Int) :
    writePositional true digits point ≠ "" := by
  unfold writePositional
  by_cases hpoint : point ≤ 0
  · simp [hpoint]
  · by_cases hlength : digits.length ≤ point.natAbs
    · simp [hpoint, hlength]
    · simp [hpoint, hlength]

theorem writeExponent_ne_empty (digits : List Char) (point : Int) :
    writeExponent digits point ≠ "" := by
  simp [writeExponent, String.append_eq_empty_iff]

theorem Style.magnitude_ne_empty {style : Style} (h : style.wholeFraction = true) (significand : Nat)
    (exponent : Int) : style.magnitude significand exponent ≠ "" := by
  simp only [Style.magnitude, h, if_true]
  split
  · decide
  · split
    · exact writePositional_ne_empty _ _
    · exact writeExponent_ne_empty _ _

theorem Style.write_ne_empty {style : Style} (h : style.wholeFraction = true) (x : Float) :
    style.write x ≠ "" := by
  unfold Style.write
  split
  · decide
  · simp [String.append_eq_empty_iff]
  · simp [String.append_eq_empty_iff, magnitude_ne_empty h]

end Decimal

theorem Json.Number.write_ne_empty (number : Json.Number) : number.write ≠ "" := by
  cases number with
  | integer value =>
    show toString value ≠ ""
    cases value with
    | ofNat n => exact Nat.repr_ne_empty
    | negSucc n =>
      show "-" ++ Nat.repr (n + 1) ≠ ""
      simp [String.append_eq_empty_iff]
  | real value finite => exact Decimal.Style.write_ne_empty rfl value

namespace Csv

theorem escape_eq_nil_iff {text : List Char} : escape text = [] ↔ text = [] := by
  unfold escape
  split
  · rename_i h
    simp only [List.cons_append, reduceCtorEq, false_iff]
    rintro rfl
    cases h
  · rfl

/-- A cell is empty for the null value and for the empty text, and for no other value. -/
theorem cell_eq_empty_iff {value : Json} :
    cell value = .ok "" ↔ value = .null ∨ value = .text "" := by
  cases value with
  | null => simp [cell]
  | bool value => cases value <;> simp [cell]
  | number value => simp [cell, Json.Number.write_ne_empty]
  | text value => simp [cell, escape_eq_nil_iff]
  | array items => simp [cell]
  | object members => simp [cell]

theorem cell_ofNat_ne_empty (n : Nat) : cell (.ofNat n) ≠ .ok "" := by
  rw [ne_eq, cell_eq_empty_iff]
  simp [Json.ofNat]

theorem cell_ofFloat_eq_empty_iff {x : Float} : cell (.ofFloat x) = .ok "" ↔ x.isFinite = false := by
  have htext : Json.ofFloat x ≠ .text "" := by
    unfold Json.ofFloat
    split <;> simp
  rw [cell_eq_empty_iff, or_iff_left htext, Json.ofFloat_eq_null_iff]

end Csv

end BenchLog
