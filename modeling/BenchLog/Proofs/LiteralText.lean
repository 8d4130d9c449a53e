import BenchLog.Proofs.FloatLiteral
import BenchLog.Proofs.Words

/-!
# What literals look like

A literal is a word: it has no blanks (`WritesFloat.isWord`). A number ends in a digit or in its point
(`WritesNumber.exists_concat`), and a literal that ends in its point writes the same without it
(`WritesFloat.of_append_point`).
-/

namespace BenchLog

open Decimal Text

/-! ## Literals are words -/

namespace Text

theorem isBlank_of_isDigit {c : Char} (h : c.isDigit = true) : isBlank c = false := by
  simp only [Char.isDigit, Bool.and_eq_true, decide_eq_true_eq, ge_iff_le, UInt32.le_iff_toNat_le,
    Char.toNat_val] at h
  obtain ⟨hlow, hhigh⟩ := h
  have hzero : '0'.toNat = 48 := rfl
  have hnine : '9'.toNat = 57 := rfl
  simp only [isBlank, Bool.or_eq_false_iff, Bool.and_eq_false_iff, decide_eq_false_iff_not,
    beq_eq_false_iff_ne]
  omega

theorem toLower_of_isBlank {c : Char} (h : isBlank c = true) : c.toLower = c := by
  rw [Char.toLower, dif_neg]
  simp only [ge_iff_le, UInt32.le_iff_toNat_le, Char.toNat_val]
  rintro ⟨hlow, hhigh⟩
  have hfirst : 'A'.toNat = 65 := rfl
  have hlast : 'Z'.toNat = 90 := rfl
  simp only [isBlank, Bool.or_eq_true, Bool.and_eq_true, decide_eq_true_eq, beq_iff_eq] at h
  omega

theorem isWord_cons {c : Char} {text : List Char} (hc : isBlank c = false) (h : IsWord text) :
    IsWord (c :: text) :=
  ⟨List.cons_ne_nil _ _, List.forall_mem_cons.mpr ⟨hc, h.2⟩⟩

theorem IsWord.append {text : List Char} (h : IsWord text) {rest : List Char}
    (hrest : ∀ c ∈ rest, isBlank c = false) : IsWord (text ++ rest) :=
  ⟨List.append_ne_nil_of_left_ne_nil h.1 _, List.forall_mem_append.mpr ⟨h.2, hrest⟩⟩

end Text

namespace Decimal

variable {text : List Char}

theorem IsRun.isWord (h : IsRun text) : IsWord text :=
  ⟨h.1, fun c hc => isBlank_of_isDigit (h.2 c hc)⟩

theorem WritesNat.isWord {n : ℕ} (h : WritesNat text n) : IsWord text := by
  cases h with
  | plain h => exact h.isWord
  | plus h => exact isWord_cons (by decide) h.isWord

theorem WritesInt.isWord {z : ℤ} (h : WritesInt text z) : IsWord text := by
  cases h with
  | unsigned h => exact h.isWord
  | minus h => exact isWord_cons (by decide) h.isWord

theorem WritesExponent.not_blank {e : ℤ} (h : WritesExponent text e) :
    ∀ c ∈ text, isBlank c = false := by
  cases h with
  | none => exact List.forall_mem_nil _
  | marked hmarker h =>
      rcases hmarker with rfl | rfl
      · exact (isWord_cons (by decide) h.isWord).2
      · exact (isWord_cons (by decide) h.isWord).2

theorem WritesNumber.isWord {q : ℚ} (h : WritesNumber text q) : IsWord text := by
  cases h with
  | whole h htail => exact h.isWord.append htail.not_blank
  | @pointed whole fraction tail e h htail =>
      obtain ⟨hwhole, hfraction⟩ := List.forall_mem_append.mp h.isWord.2
      refine ⟨by simp, List.forall_mem_append.mpr ⟨hwhole, List.forall_mem_cons.mpr ⟨by decide, ?_⟩⟩⟩
      exact List.forall_mem_append.mpr ⟨hfraction, htail.not_blank⟩

theorem Spells.isWord {word : String} (h : Spells word text) (hword : IsWord word.toList) :
    IsWord text := by
  constructor
  · rintro rfl
    exact hword.1 h.symm
  · intro c hc
    cases hblank : isBlank c with
    | false => rfl
    | true =>
        -- No letter is a blank, so that a blank would stand in the word too.
        have hmem : c ∈ word.toList := by
          rw [← h, ← toLower_of_isBlank hblank]
          exact List.mem_map_of_mem hc
        rw [hword.2 c hmem] at hblank
        cases hblank

theorem WritesMagnitude.isWord {x : Float} (h : WritesMagnitude text x) : IsWord text := by
  cases h with
  | number h _ => exact h.isWord
  | infinity h =>
      rcases h with h | h
      · exact h.isWord (by decide +kernel)
      · exact h.isWord (by decide +kernel)
  | nan h => exact h.isWord (by decide +kernel)

theorem WritesFloat.isWord {x : Float} (h : WritesFloat text x) : IsWord text := by
  cases h with
  | plain h => exact h.isWord
  | plus h => exact isWord_cons (by decide) h.isWord
  | minus h => exact isWord_cons (by decide) h.isWord

/-! ## How a literal ends -/

/-- The last character is a digit. -/
def EndsInDigit (text : List Char) : Prop := ∃ front d, text = front ++ [d] ∧ d.isDigit = true

theorem EndsInDigit.append (h : EndsInDigit text) (front : List Char) : EndsInDigit (front ++ text) := by
  obtain ⟨before, d, rfl, hd⟩ := h
  exact ⟨front ++ before, d, by rw [List.append_assoc], hd⟩

theorem not_endsInDigit_point (front : List Char) : ¬EndsInDigit (front ++ ['.']) := by
  rintro ⟨before, d, heq, hd⟩
  obtain ⟨-, hlast⟩ := List.append_inj' heq rfl
  cases hlast
  cases hd

theorem endsInDigit_of_forall (hne : text ≠ []) (hdigits : ∀ c ∈ text, c.isDigit = true) :
    EndsInDigit text :=
  ⟨text.dropLast, text.getLast hne, (List.dropLast_append_getLast hne).symm,
    hdigits _ (List.getLast_mem hne)⟩

theorem WritesInt.endsInDigit {z : ℤ} (h : WritesInt text z) : EndsInDigit text := by
  rcases h with (h | h) | h
  · exact endsInDigit_of_forall h.1 h.2
  · exact (endsInDigit_of_forall h.1 h.2).append ['+']
  · exact (endsInDigit_of_forall h.1 h.2).append ['-']

theorem WritesExponent.endsInDigit {tail : List Char} {e : ℤ} (h : WritesExponent tail e)
    {digits : List Char} (hdigits : ∀ c ∈ digits, c.isDigit = true) (hne : digits ++ tail ≠ []) :
    EndsInDigit (digits ++ tail) := by
  cases h with
  | none =>
      rw [List.append_nil] at hne ⊢
      exact endsInDigit_of_forall hne hdigits
  | @marked marker _ _ _ h => exact (h.endsInDigit.append [marker]).append digits

/-- The last character of a number is a digit or the point. -/
theorem WritesNumber.exists_concat {text : List Char} {q : ℚ} (h : WritesNumber text q) :
    ∃ front c, text = front ++ [c] ∧ (c.isDigit = true ∨ c = '.') := by
  cases h with
  | whole h htail =>
      obtain ⟨front, c, heq, hc⟩ := htail.endsInDigit h.2 (List.append_ne_nil_of_left_ne_nil h.1 _)
      exact ⟨front, c, heq, Or.inl hc⟩
  | @pointed whole fraction tail e h htail =>
      by_cases hrest : fraction ++ tail = []
      · exact ⟨whole, '.', by rw [hrest], Or.inr rfl⟩
      · have hfraction := (List.forall_mem_append.mp h.2).2
        obtain ⟨front, c, heq, hc⟩ := htail.endsInDigit hfraction hrest
        exact ⟨whole ++ '.' :: front, c, by rw [heq]; simp, Or.inl hc⟩

/-- The point at the end of a number has no digits after it, and does not matter. -/
theorem WritesNumber.of_append_point {q : ℚ} (h : WritesNumber (text ++ ['.']) q) :
    WritesNumber text q := by
  generalize hwhole : text ++ ['.'] = pointed at h
  cases h with
  | whole h htail =>
      have hends := htail.endsInDigit h.2 (List.append_ne_nil_of_left_ne_nil h.1 _)
      rw [← hwhole] at hends
      exact absurd hends (not_endsInDigit_point text)
  | @pointed whole fraction tail e h htail =>
      by_cases hrest : fraction ++ tail = []
      · obtain ⟨rfl, rfl⟩ := List.append_eq_nil_iff.mp hrest
        obtain ⟨rfl, -⟩ := List.append_inj' hwhole rfl
        cases htail
        rw [List.append_nil] at h ⊢
        rw [List.length_nil, Nat.cast_zero, sub_zero]
        have hnumber := WritesNumber.whole h .none
        rwa [List.append_nil] at hnumber
      · have hends := (htail.endsInDigit (List.forall_mem_append.mp h.2).2 hrest).append (whole ++ ['.'])
        rw [List.append_assoc, List.singleton_append, ← hwhole] at hends
        exact absurd hends (not_endsInDigit_point text)

theorem WritesMagnitude.of_append_point {x : Float} (h : WritesMagnitude (text ++ ['.']) x) :
    WritesMagnitude text x := by
  have hpoint {word : String} (h : Spells word (text ++ ['.'])) : '.' ∈ word.toList := by
    rw [← h, List.map_append]
    exact List.mem_append_right _ (List.mem_cons_self ..)
  cases h with
  | number h hx => exact .number h.of_append_point hx
  | infinity h => rcases h with h | h <;> exact absurd (hpoint h) (by decide +kernel)
  | nan h => exact absurd (hpoint h) (by decide +kernel)

theorem exists_of_append_point {sign : Char} {later : List Char} (h : text ++ ['.'] = sign :: later)
    (hsign : sign ≠ '.') : ∃ rest, text = sign :: rest ∧ later = rest ++ ['.'] := by
  cases text with
  | nil => exact absurd (List.cons.inj h).1.symm hsign
  | cons c rest =>
      obtain ⟨rfl, rfl⟩ := List.cons.inj h
      exact ⟨rest, rfl, rfl⟩

/-- A literal that ends in its point writes the same without it. -/
theorem WritesFloat.of_append_point {x : Float} (h : WritesFloat (text ++ ['.']) x) :
    WritesFloat text x := by
  generalize hpointed : text ++ ['.'] = pointed at h
  cases h with
  | plain h =>
      subst hpointed
      exact .plain h.of_append_point
  | plus h =>
      obtain ⟨rest, rfl, rfl⟩ := exists_of_append_point hpointed (by decide)
      exact .plus h.of_append_point
  | minus h =>
      obtain ⟨rest, rfl, rfl⟩ := exists_of_append_point hpointed (by decide)
      exact .minus h.of_append_point

end Decimal

end BenchLog
