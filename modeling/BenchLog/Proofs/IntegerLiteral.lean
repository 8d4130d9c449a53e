import BenchLog.Decimal.Integer
import BenchLog.Proofs.Loop
import Mathlib.Algebra.Order.Ring.Int
import Mathlib.Data.List.Induction

/-!
# What integer literals write

A literal is a run of digits, an unsigned one with a plus sign in front if need be (`WritesNat`), a signed
one with either sign (`WritesInt`). Leading zeros do not matter. A literal is read if and only if what it
writes lies in the range, and then that is what is read (`readUnsigned_eq_ok_iff`, `readSigned_eq_ok_iff`).
-/

namespace BenchLog.Decimal

/-- A run of decimal digits, at least one. -/
def IsRun (text : List Char) : Prop := text ≠ [] ∧ ∀ c ∈ text, c.isDigit = true

/-- An unsigned literal and the number that it writes. -/
inductive WritesNat : List Char → Nat → Prop where
  | plain {digits : List Char} (h : IsRun digits) : WritesNat digits (Nat.ofDigitChars 10 digits 0)
  | plus {digits : List Char} (h : IsRun digits) :
      WritesNat ('+' :: digits) (Nat.ofDigitChars 10 digits 0)

/-- A signed literal and the number that it writes. -/
inductive WritesInt : List Char → Int → Prop where
  | unsigned {text : List Char} {n : Nat} (h : WritesNat text n) : WritesInt text n
  | minus {digits : List Char} (h : IsRun digits) :
      WritesInt ('-' :: digits) (-Nat.ofDigitChars 10 digits 0)

/-- An unsigned literal of 64 bits. -/
def WritesWord (text : List Char) (n : Nat) : Prop := WritesNat text n ∧ n < 2 ^ 64

/-- A signed literal of 64 bits. -/
def WritesSigned (text : List Char) (z : Int) : Prop := WritesInt text z ∧ -2 ^ 63 ≤ z ∧ z < 2 ^ 63

/-! ## Digits -/

theorem digit?_eq_some_iff {c : Char} {d : Nat} :
    digit? c = some d ↔ c.isDigit = true ∧ c.toNat - '0'.toNat = d := by
  have hrange : ('0' ≤ c ∧ c ≤ '9') ↔ c.isDigit = true := by
    simp [Char.isDigit, Char.le_def]
  simp only [digit?, hrange]
  split <;> simp_all

theorem appendDigit_eq_ok_iff {limit total n : Nat} {overflow : IntegerFault} {c : Char} :
    appendDigit limit overflow total c = .ok n ↔
      c.isDigit = true ∧ 10 * total + (c.toNat - '0'.toNat) = n ∧ n ≤ limit := by
  rw [appendDigit]
  cases hdigit : digit? c with
  | none =>
      have hnone : c.isDigit ≠ true := fun h => by
        have := digit?_eq_some_iff.mpr ⟨h, rfl⟩
        rw [hdigit] at this
        cases this
      simp [hnone]
  | some d =>
      obtain ⟨hc, rfl⟩ := digit?_eq_some_iff.mp hdigit
      dsimp only
      rw [Nat.mul_comm]
      split <;> simp_all <;> omega

/-- Digits are read if the number stays in the range: then so does the number that any first part of them
    writes. -/
theorem readDigits_eq_ok_iff {limit n : Nat} {overflow : IntegerFault} {digits : List Char} :
    readDigits limit overflow digits = .ok n ↔
      (∀ c ∈ digits, c.isDigit = true) ∧ Nat.ofDigitChars 10 digits 0 = n ∧ n ≤ limit := by
  induction digits using List.reverseRecOn generalizing n with
  | nil =>
      simp [readDigits]
      omega
  | append_singleton digits c ih =>
      rw [readDigits, List.foldlM_append, Loop.bind_eq_ok_iff, Nat.ofDigitChars_append]
      simp only [List.foldlM_cons, List.foldlM_nil, bind_pure, appendDigit_eq_ok_iff,
        Nat.ofDigitChars_cons, Nat.ofDigitChars_nil]
      constructor
      · rintro ⟨total, htotal, hc, hn, hle⟩
        obtain ⟨hdigits, rfl, -⟩ := ih.mp htotal
        exact ⟨by simpa [or_imp, forall_and] using ⟨hdigits, hc⟩, hn, hle⟩
      · rintro ⟨hdigits, hn, hle⟩
        have hfits : Nat.ofDigitChars 10 digits 0 ≤ limit := by omega
        exact ⟨_, ih.mpr ⟨fun d hd => hdigits d (by simp [hd]), rfl, hfits⟩,
          hdigits c (by simp), hn, hle⟩

/-! ## Literals -/

theorem IsRun.ne_sign {digits : List Char} (h : IsRun digits) (rest : List Char) :
    digits ≠ '+' :: rest ∧ digits ≠ '-' :: rest := by
  constructor <;> rintro rfl <;> exact absurd (h.2 _ (List.mem_cons_self ..)) (by decide)

theorem readUnsigned_of_isRun (limit : Nat) {digits : List Char} (h : IsRun digits) :
    readUnsigned limit digits = readDigits limit .tooLarge digits := by
  unfold readUnsigned
  split
  · exact absurd rfl h.1
  · exact absurd rfl (h.ne_sign []).1
  · exact absurd rfl (h.ne_sign _).1
  · rfl

theorem readUnsigned_plus (limit : Nat) {digits : List Char} (h : digits ≠ []) :
    readUnsigned limit ('+' :: digits) = readDigits limit .tooLarge digits := by
  cases digits with
  | nil => exact absurd rfl h
  | cons c digits => rfl

theorem readDigits_of_isRun {limit n : Nat} (overflow : IntegerFault) {digits : List Char}
    (h : IsRun digits) : readDigits limit overflow digits = .ok n ↔
      Nat.ofDigitChars 10 digits 0 = n ∧ n ≤ limit := by
  rw [readDigits_eq_ok_iff, and_iff_right h.2]

/-- What is read is what an unsigned literal writes, and it lies in the range. -/
theorem readUnsigned_eq_ok_iff {limit n : Nat} {text : List Char} :
    readUnsigned limit text = .ok n ↔ WritesNat text n ∧ n ≤ limit := by
  constructor
  · intro h
    unfold readUnsigned at h
    split at h
    · cases h
    · cases h
    · rename_i digits hsign
      obtain ⟨hdigits, rfl, hle⟩ := readDigits_eq_ok_iff.mp h
      exact ⟨.plus ⟨by rintro rfl; exact hsign rfl, hdigits⟩, hle⟩
    · rename_i hempty _ _
      obtain ⟨hdigits, rfl, hle⟩ := readDigits_eq_ok_iff.mp h
      exact ⟨.plain ⟨hempty, hdigits⟩, hle⟩
  · rintro ⟨hwrites, hle⟩
    cases hwrites with
    | plain h =>
        rw [readUnsigned_of_isRun limit h, readDigits_of_isRun _ h]
        exact ⟨rfl, hle⟩
    | plus h =>
        rw [readUnsigned_plus limit h.1, readDigits_of_isRun _ h]
        exact ⟨rfl, hle⟩

theorem readSigned_minus (limit : Nat) {digits : List Char} (h : digits ≠ []) :
    readSigned limit ('-' :: digits) =
      (readDigits (limit + 1) .tooSmall digits >>= fun n => .ok (-(n : Int))) := by
  cases digits with
  | nil => exact absurd rfl h
  | cons c digits => rfl

/-- What is read is what a signed literal writes, and it lies in the range. -/
theorem readSigned_eq_ok_iff {limit : Nat} {z : Int} {text : List Char} :
    readSigned limit text = .ok z ↔ WritesInt text z ∧ -(limit + 1 : Int) ≤ z ∧ z ≤ limit := by
  constructor
  · intro h
    unfold readSigned at h
    split at h
    · cases h
    · rename_i digits hsign
      obtain ⟨n, hn, hz⟩ := Loop.bind_eq_ok_iff.mp h
      obtain ⟨hdigits, rfl, hle⟩ := readDigits_eq_ok_iff.mp hn
      cases hz
      exact ⟨.minus ⟨by rintro rfl; exact hsign rfl, hdigits⟩, by omega, by omega⟩
    · obtain ⟨n, hn, hz⟩ := Loop.bind_eq_ok_iff.mp h
      obtain ⟨hwrites, hle⟩ := readUnsigned_eq_ok_iff.mp hn
      cases hz
      exact ⟨.unsigned hwrites, by omega, by omega⟩
  · rintro ⟨hwrites, hlow, hhigh⟩
    cases hwrites with
    | @unsigned _ n hnat =>
        have hn : readUnsigned limit text = .ok n := readUnsigned_eq_ok_iff.mpr ⟨hnat, by omega⟩
        unfold readSigned
        split
        · cases hn
        · cases hn
        · rw [hn]
          rfl
    | @minus digits h =>
        rw [readSigned_minus limit h.1, (readDigits_of_isRun _ h).mpr ⟨rfl, by omega⟩]
        rfl

/-- The digits of a number are a literal of it. -/
theorem writesNat_toDigits (n : Nat) : WritesNat (Nat.toDigits 10 n) n := by
  have hrun : IsRun (Nat.toDigits 10 n) :=
    ⟨Nat.toDigits_ne_nil, fun _ hc => Nat.isDigit_of_mem_toDigits (by decide) (by decide) hc⟩
  have hwrites := WritesNat.plain hrun
  rwa [Nat.ofDigitChars_ten_toDigits] at hwrites

/-! ## Machine words -/

theorem readUnsigned_wordLimit_iff {n : Nat} {text : List Char} :
    readUnsigned wordLimit text = .ok n ↔ WritesWord text n := by
  have hlimit : wordLimit + 1 = 2 ^ 64 := rfl
  rw [readUnsigned_eq_ok_iff, WritesWord, ← hlimit, Nat.lt_succ_iff]

theorem readSigned_signedLimit_iff {z : Int} {text : List Char} :
    readSigned signedLimit text = .ok z ↔ WritesSigned text z := by
  have hlimit : (signedLimit + 1 : Int) = 2 ^ 63 := rfl
  rw [readSigned_eq_ok_iff, WritesSigned, ← hlimit, Int.lt_add_one_iff]

end BenchLog.Decimal
