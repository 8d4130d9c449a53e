import BenchLog.Json
import BenchLog.Proofs.FloatPacking

/-!
# The text of a number

A number in a document is written with digits, signs, a point and an `e`, and with nothing else: a finite
number has a significand and an exponent (`Decimal.Parts.exists_ofFloat_eq_finite`), so that no name such as
`inf` stands for it. Such a text needs no quotes in a row of cells and cannot be taken for the name of
another value.
-/

namespace BenchLog

namespace Decimal

open Float.Model Float.Model.UnpackedFloat

/-- Whether a character may stand in a numeral. -/
def isMark (c : Char) : Bool :=
  c.isDigit || ['+', '-', '.', 'e'].contains c

/-- Only digits, signs, points and the letter of the exponent. -/
def IsNumeral (text : List Char) : Prop :=
  ∀ c ∈ text, isMark c = true

/-! ## Numerals -/

variable {text part front back digits : List Char}

theorem IsNumeral.not_mem {c : Char} (h : IsNumeral text) (hc : isMark c = false) : c ∉ text := by
  intro hmem
  rw [h c hmem] at hc
  cases hc

theorem IsNumeral.of_subset (h : IsNumeral text) (hsub : part ⊆ text) : IsNumeral part := by
  intro c hc
  exact h c (hsub hc)

@[simp] theorem isNumeral_append : IsNumeral (front ++ back) ↔ IsNumeral front ∧ IsNumeral back := by
  simp only [IsNumeral, List.mem_append, or_imp, forall_and]

@[simp] theorem isNumeral_cons {c : Char} :
    IsNumeral (c :: text) ↔ isMark c = true ∧ IsNumeral text := by
  simp only [IsNumeral, List.forall_mem_cons]

@[simp] theorem isNumeral_nil : IsNumeral [] := by
  simp [IsNumeral]

@[simp] theorem isNumeral_zeros (n : Nat) : IsNumeral (List.replicate n '0') := by
  intro c hc
  rw [List.eq_of_mem_replicate hc]
  rfl

@[simp] theorem isNumeral_toDigits (n : Nat) : IsNumeral (Nat.toDigits 10 n) := by
  intro c hc
  have hdigit := Nat.isDigit_of_mem_toDigits (by decide) (by decide) hc
  simp [isMark, hdigit]

@[simp] theorem isNumeral_repr (n : Nat) : IsNumeral n.repr.toList := by
  rw [Nat.repr, String.toList_ofList]
  exact isNumeral_toDigits n

@[simp] theorem isNumeral_sign (negative : Bool) : IsNumeral (sign negative).toList := by
  cases negative with
  | false => simp [sign]
  | true => simp [sign, isMark]

/-! ## What a style writes -/

theorem isNumeral_writePositional (h : IsNumeral digits) (wholeFraction : Bool) (point : Int) :
    IsNumeral (writePositional wholeFraction digits point).toList := by
  have hdot : isMark '.' = true := rfl
  have hzero : isMark '0' = true := rfl
  rw [writePositional, String.toList_ofList]
  split
  · simp [hzero, hdot, h]
  · split
    · cases wholeFraction with
      | false => simp [h]
      | true => simp [hzero, hdot, h]
    · have htake := h.of_subset (List.take_subset point.natAbs digits)
      have hdrop := h.of_subset (List.drop_subset point.natAbs digits)
      simp [hdot, htake, hdrop]

theorem isNumeral_writeExponent (h : IsNumeral digits) (point : Int) :
    IsNumeral (writeExponent digits point).toList := by
  have hpower : IsNumeral (if point - 1 < 0 then "-" else "+").toList := by
    split <;> simp [isMark]
  have hletter : IsNumeral "e".toList := by simp [isMark]
  simp only [writeExponent, String.toList_append, String.toList_ofList, isNumeral_append]
  refine ⟨⟨⟨?_, hletter⟩, hpower⟩, isNumeral_repr _⟩
  split
  · simp only [isNumeral_cons] at h ⊢
    exact ⟨h.1, rfl, h.2⟩
  · exact h

theorem Style.isNumeral_magnitude (style : Style) (significand : Nat) (exponent : Int) :
    IsNumeral (style.magnitude significand exponent).toList := by
  simp only [Style.magnitude]
  split
  · split <;> simp [isMark]
  · split
    · exact isNumeral_writePositional (isNumeral_toDigits _) _ _
    · exact isNumeral_writeExponent (isNumeral_toDigits _) _

/-! ## Finite numbers -/

theorem toNat_unpackExponent (bits : BitVec 64) :
    (@unpackExponent .binary64 bits).toNat = bits.toNat / Nat.pow 2 52 % Nat.pow 2 11 := by
  show (bits.extractLsb 62 52).toNat = _
  rw [BitVec.extractLsb_toNat, Nat.shiftRight_eq_div_pow]

/-- An exponent of ones is what makes a number infinite or none at all. -/
theorem Parts.exists_ofFloat_eq_finite {x : Float} (h : x.isFinite = true) :
    ∃ negative significand exponent, Parts.ofFloat x = .finite negative significand exponent := by
  have hones : x.toBits.toNat / Nat.pow 2 52 % Nat.pow 2 11 ≠ 2047 := by
    intro hones
    have hexponent : @unpackExponent .binary64 x.toBits.toBitVec = -1#11 := by
      apply BitVec.eq_of_toNat_eq
      exact (toNat_unpackExponent x.toBits.toBitVec).trans hones
    have hunpack : (UnpackedFloat.unpack .binary64 x.toBits.toBitVec).isFinite = true := h
    simp only [UnpackedFloat.unpack] at hunpack
    rw [if_pos hexponent] at hunpack
    split at hunpack
    · cases hunpack
    · cases hunpack
  simp only [Parts.ofFloat, if_neg hones]
  split
  · exact ⟨_, _, _, rfl⟩
  · exact ⟨_, _, _, rfl⟩

theorem Style.isNumeral_write (style : Style) {x : Float} (h : x.isFinite = true) :
    IsNumeral (style.write x).toList := by
  obtain ⟨negative, significand, exponent, hparts⟩ := Parts.exists_ofFloat_eq_finite h
  rw [Style.write, hparts]
  simp [isNumeral_magnitude]

end Decimal

theorem Json.Number.isNumeral_write (number : Json.Number) :
    Decimal.IsNumeral number.write.toList := by
  cases number with
  | integer value =>
      cases value with
      | ofNat n => exact Decimal.isNumeral_repr n
      | negSucc n =>
          show Decimal.IsNumeral ("-" ++ Nat.repr (n + 1)).toList
          rw [String.toList_append, Decimal.isNumeral_append]
          exact ⟨by simp [Decimal.isMark], Decimal.isNumeral_repr (n + 1)⟩
  | real value finite => exact Json.realStyle.isNumeral_write finite

end BenchLog
