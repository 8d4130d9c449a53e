import BenchLog.Decimal.Literal
import BenchLog.Proofs.FloatDecimal
import BenchLog.Proofs.IntegerLiteral

/-!
# What floating-point literals write

A literal without sign writes a rational number, infinity or what is not a number (`WritesMagnitude`); it is
read if and only if it is one, and then as the number of 64 bits nearest to what it writes
(`readFloat_eq_ok_iff`). What is beyond the range by its number of digits alone is the nearest one too
(`isNearest_nearest`).
-/

namespace BenchLog.Decimal

open Binary64

/-- The exponent that ends a number: none at all, or a signed literal after a marker. -/
inductive WritesExponent : List Char → ℤ → Prop where
  | none : WritesExponent [] 0
  | marked {marker : Char} {text : List Char} {e : ℤ} (hmarker : marker = 'e' ∨ marker = 'E')
      (h : WritesInt text e) : WritesExponent (marker :: text) e

/-- A number without sign: digits, a point anywhere among them if need be, and an exponent. -/
inductive WritesNumber : List Char → ℚ → Prop where
  | whole {digits tail : List Char} {e : ℤ} (h : IsRun digits) (htail : WritesExponent tail e) :
      WritesNumber (digits ++ tail) (Nat.ofDigitChars 10 digits 0 * 10 ^ e)
  | pointed {whole fraction tail : List Char} {e : ℤ} (h : IsRun (whole ++ fraction))
      (htail : WritesExponent tail e) :
      WritesNumber (whole ++ '.' :: (fraction ++ tail))
        (Nat.ofDigitChars 10 (whole ++ fraction) 0 * 10 ^ (e - fraction.length))

/-- A text is a word, in any case. -/
def Spells (word : String) (text : List Char) : Prop := text.map Char.toLower = word.toList

instance (word : String) (text : List Char) : Decidable (Spells word text) :=
  inferInstanceAs (Decidable (text.map Char.toLower = word.toList))

/-- A literal without sign and the number of 64 bits that it stands for. -/
inductive WritesMagnitude (text : List Char) : Float → Prop where
  | number {q : ℚ} {x : Float} (h : WritesNumber text q) (hx : IsNearest x q) : WritesMagnitude text x
  | infinity (h : Spells "inf" text ∨ Spells "infinity" text) : WritesMagnitude text (1 / 0)
  | nan (h : Spells "nan" text) : WritesMagnitude text (0 / 0)

/-- A literal and the number of 64 bits that it stands for. -/
inductive WritesFloat : List Char → Float → Prop where
  | plain {text : List Char} {x : Float} (h : WritesMagnitude text x) : WritesFloat text x
  | plus {text : List Char} {x : Float} (h : WritesMagnitude text x) : WritesFloat ('+' :: text) x
  | minus {text : List Char} {x : Float} (h : WritesMagnitude text x) : WritesFloat ('-' :: text) (-x)

/-! ## Rounding -/

theorem length_toDigits {m d : ℕ} (hpos : 0 < m) (h : (Nat.toDigits 10 m).length = d + 1) :
    10 ^ d ≤ m ∧ m < 10 ^ (d + 1) := by
  refine ⟨?_, (Nat.length_toDigits_le_iff (by norm_num) (by omega)).mp h.le⟩
  rcases Nat.eq_zero_or_pos d with rfl | hd
  · exact hpos
  · by_contra hlt
    have := (Nat.length_toDigits_le_iff (by norm_num) hd).mpr (not_le.mp hlt)
    omega

/-- The answer that is known from the number of digits is the one that rounding gives. -/
theorem isNearest_nearest (m : ℕ) (e : ℤ) : IsNearest (Decimal.nearest m e) (m * 10 ^ e) := by
  rcases Nat.eq_zero_or_pos m with rfl | hpos
  · rw [Nat.cast_zero, zero_mul]
    exact isNearest_zero le_rfl (by positivity)
  · obtain ⟨d, hd⟩ : ∃ d, (Nat.toDigits 10 m).length = d + 1 :=
      ⟨_, (Nat.succ_pred_eq_of_pos Nat.length_toDigits_pos).symm⟩
    obtain ⟨hlow, hhigh⟩ := length_toDigits hpos hd
    have hten : (0 : ℚ) < 10 ^ e := by positivity
    unfold Decimal.nearest
    simp only [hd, if_neg hpos.ne']
    split_ifs with hinf hzero hneg
    · apply isNearest_infinity_of_le hinf
      have hcast : (10 : ℚ) ^ d ≤ m := by exact_mod_cast hlow
      rw [Nat.cast_succ, add_sub_cancel_right, zpow_add₀ (by norm_num), zpow_natCast]
      exact mul_le_mul_of_nonneg_right hcast hten.le
    · apply isNearest_zero_of_lt hzero (by positivity)
      have hcast : (m : ℚ) < 10 ^ (d + 1) := by exact_mod_cast hhigh
      rw [zpow_add₀ (by norm_num), zpow_natCast]
      exact mul_lt_mul_of_pos_right hcast hten
    · have hquotient := (isNearest_ofScientific hpos e.natAbs).2
      rwa [show -(e.natAbs : ℤ) = e by omega] at hquotient
    · have hproduct := (isNearest_ofScientific hpos e.natAbs).1
      rwa [show (e.natAbs : ℤ) = e by omega] at hproduct

/-! ## Numbers -/

@[simp] theorem isDigit_eq (c : Char) : isDigit c = c.isDigit := by
  rw [Bool.eq_iff_iff, isDigit, Option.isSome_iff_exists]
  simp [digit?_eq_some_iff]

theorem digitsValue_eq {digits : List Char} (h : ∀ c ∈ digits, c.isDigit = true) :
    digitsValue digits = Nat.ofDigitChars 10 digits 0 := by
  have hfold (total : ℕ) : digits.foldl (fun total c => total * 10 + (digit? c).getD 0) total =
      Nat.ofDigitChars 10 digits total := by
    induction digits generalizing total with
    | nil => rfl
    | cons c digits ih =>
        obtain ⟨hc, hdigits⟩ := List.forall_mem_cons.mp h
        rw [List.foldl_cons, digit?_eq_some_iff.mpr ⟨hc, rfl⟩, ih hdigits, Nat.ofDigitChars_cons,
          Option.getD_some, Nat.mul_comm]
  exact hfold 0

theorem isRun_iff {digits : List Char} :
    digits ≠ [] ∧ digits.all isDigit = true ↔ IsRun digits := by
  simp [IsRun]

/-- What stands after the marker is an exponent if it is a run, once the sign is taken off. -/
theorem signedRun_eq_some_iff {negative : Bool} {digits : List Char} {e : ℤ} :
    (if digits ≠ [] ∧ digits.all isDigit = true then
        some (if negative = true then -(digitsValue digits : ℤ) else digitsValue digits) else none) =
      some e ↔ IsRun digits ∧ (if negative = true then -(Nat.ofDigitChars 10 digits 0 : ℤ) else
        Nat.ofDigitChars 10 digits 0) = e := by
  by_cases h : digits ≠ [] ∧ digits.all isDigit = true
  · have hrun := isRun_iff.mp h
    rw [if_pos h, digitsValue_eq hrun.2, Option.some_inj, and_iff_right hrun]
  · rw [if_neg h]
    simp [mt isRun_iff.mpr h]

theorem readExponent?_eq_some_iff {text : List Char} {e : ℤ} :
    readExponent? text = some e ↔ WritesExponent text e := by
  constructor
  · intro h
    unfold readExponent? at h
    split at h
    · cases h
      exact .none
    · split_ifs at h with hmarker
      refine .marked hmarker ?_
      dsimp only at h
      split at h <;> obtain ⟨hrun, rfl⟩ := signedRun_eq_some_iff.mp h
      · exact .minus hrun
      · exact .unsigned (.plus hrun)
      · exact .unsigned (.plain hrun)
  · rintro (_ | ⟨hmarker, h⟩)
    · rfl
    · simp only [readExponent?, if_pos hmarker]
      rcases h with (hrun | hrun) | hrun
      · split
        · exact absurd rfl (hrun.ne_sign _).2
        · exact absurd rfl (hrun.ne_sign _).1
        · exact signedRun_eq_some_iff.mpr ⟨hrun, rfl⟩
      · exact signedRun_eq_some_iff.mpr ⟨hrun, rfl⟩
      · exact signedRun_eq_some_iff.mpr ⟨hrun, rfl⟩

/-- An exponent does not go on with digits. -/
theorem WritesExponent.takeWhile_append {tail : List Char} {e : ℤ} (h : WritesExponent tail e)
    {digits : List Char} (hdigits : ∀ c ∈ digits, c.isDigit = true) :
    (digits ++ tail).takeWhile isDigit = digits ∧ (digits ++ tail).dropWhile isDigit = tail := by
  have hall : ∀ c ∈ digits, isDigit c = true := by simpa using hdigits
  rw [List.takeWhile_append_of_pos hall, List.dropWhile_append_of_pos hall]
  cases h with
  | none => simp
  | marked hmarker _ => rcases hmarker with rfl | rfl <;> simp

/-- Every number has a digit, a word has none. -/
theorem WritesNumber.exists_digit {text : List Char} {q : ℚ} (h : WritesNumber text q) :
    ∃ c ∈ text, c.isDigit = true := by
  cases h with
  | whole h _ =>
      obtain ⟨c, hc⟩ := List.exists_mem_of_ne_nil _ h.1
      exact ⟨c, List.mem_append_left _ hc, h.2 c hc⟩
  | pointed h _ =>
      obtain ⟨c, hc⟩ := List.exists_mem_of_ne_nil _ h.1
      refine ⟨c, ?_, h.2 c hc⟩
      rw [List.mem_append] at hc
      simp only [List.mem_append, List.mem_cons]
      tauto

theorem mem_takeWhile_isDigit (text : List Char) :
    ∀ c ∈ text.takeWhile isDigit, c.isDigit = true := by
  intro c member
  simpa using List.mem_takeWhile_imp member

/-- What the digits on both sides of the point and the exponent are read as. -/
theorem scaled_eq_some_iff {whole fraction tail : List Char} {x : Float}
    (hwhole : ∀ c ∈ whole, c.isDigit = true) (hfraction : ∀ c ∈ fraction, c.isDigit = true) :
    (if whole = [] ∧ fraction = [] then none
      else do
        let exponent ← readExponent? tail
        return Decimal.nearest (digitsValue (whole ++ fraction)) (exponent - fraction.length)) =
      some x ↔ IsRun (whole ++ fraction) ∧ ∃ e, WritesExponent tail e ∧
        IsNearest x (Nat.ofDigitChars 10 (whole ++ fraction) 0 * 10 ^ (e - fraction.length)) := by
  have hdigits : ∀ c ∈ whole ++ fraction, c.isDigit = true :=
    List.forall_mem_append.mpr ⟨hwhole, hfraction⟩
  by_cases hempty : whole = [] ∧ fraction = []
  · simp [IsRun, hempty]
  · have hrun : IsRun (whole ++ fraction) := ⟨mt List.append_eq_nil_iff.mp hempty, hdigits⟩
    rw [if_neg hempty, digitsValue_eq hdigits, and_iff_right hrun]
    simp only [Option.bind_eq_bind, Option.bind_eq_some_iff, Option.pure_def, Option.some_inj,
      readExponent?_eq_some_iff]
    refine exists_congr fun e => and_congr_right fun _ => ?_
    have hnearest := isNearest_nearest (Nat.ofDigitChars 10 (whole ++ fraction) 0) (e - fraction.length)
    constructor
    · rintro rfl
      exact hnearest
    · exact hnearest.unique

theorem readNumber?_eq_some_iff {text : List Char} {x : Float} :
    readNumber? text = some x ↔ ∃ q, WritesNumber text q ∧ IsNearest x q := by
  constructor
  · intro h
    have hwhole := mem_takeWhile_isDigit text
    have htext : text.takeWhile isDigit ++ text.dropWhile isDigit = text :=
      List.takeWhile_append_dropWhile
    unfold readNumber? at h
    dsimp only at h
    rw [← htext]
    split at h
    · rename_i after hafter
      rw [hafter, ← List.takeWhile_append_dropWhile (p := isDigit) (l := after)]
      obtain ⟨hrun, e, htail, hx⟩ := (scaled_eq_some_iff hwhole (mem_takeWhile_isDigit after)).mp h
      exact ⟨_, .pointed hrun htail, hx⟩
    · obtain ⟨hrun, e, htail, hx⟩ := (scaled_eq_some_iff hwhole (List.forall_mem_nil _)).mp h
      rw [List.append_nil, List.length_nil, Nat.cast_zero, sub_zero] at hx
      rw [List.append_nil] at hrun
      exact ⟨_, .whole hrun htail, hx⟩
  · rintro ⟨q, hwrites, hx⟩
    unfold readNumber?
    dsimp only
    cases hwrites with
    | @whole digits tail e h htail =>
        obtain ⟨htake, hdrop⟩ := htail.takeWhile_append h.2
        rw [htake, hdrop]
        split
        · rcases htail with _ | ⟨hmarker, _⟩
          simp at hmarker
        · refine (scaled_eq_some_iff h.2 (List.forall_mem_nil _)).mpr ?_
          rw [List.append_nil, List.length_nil, Nat.cast_zero]
          exact ⟨h, e, htail, by rwa [sub_zero]⟩
    | @pointed whole fraction tail e h htail =>
        obtain ⟨hwhole, hfraction⟩ := List.forall_mem_append.mp h.2
        obtain ⟨htake, hdrop⟩ := htail.takeWhile_append hfraction
        have hall : ∀ c ∈ whole, isDigit c = true := by simpa using hwhole
        rw [List.takeWhile_append_of_pos hall, List.dropWhile_append_of_pos hall,
          List.takeWhile_cons_of_neg (by decide), List.dropWhile_cons_of_neg (by decide), List.append_nil]
        simp only [htake, hdrop]
        exact (scaled_eq_some_iff hwhole hfraction).mpr ⟨h, e, htail, hx⟩

/-! ## Names -/

theorem Spells.unique {word other : String} {text : List Char} (h : Spells word text)
    (hother : Spells other text) : word = other :=
  String.toList_inj.mp (h.symm.trans hother)

theorem toLower_of_isDigit {c : Char} (h : c.isDigit = true) : c.toLower = c := by
  rw [Char.toLower, dif_neg]
  simp only [Char.isDigit, Bool.and_eq_true, decide_eq_true_eq] at h
  rintro ⟨hupper, -⟩
  exact absurd (UInt32.le_trans hupper h.2) (by decide)

/-- A digit in a text is one in the word that the text is. -/
theorem Spells.mem_of_isDigit {word : String} {text : List Char} (h : Spells word text) {c : Char}
    (hc : c ∈ text) (hdigit : c.isDigit = true) : c ∈ word.toList := by
  rw [← h, ← toLower_of_isDigit hdigit]
  exact List.mem_map_of_mem hc

theorem readName?_eq_some_iff {text : List Char} {x : Float} :
    readName? text = some x ↔ (Spells "inf" text ∨ Spells "infinity" text) ∧ x = 1 / 0 ∨
      Spells "nan" text ∧ x = 0 / 0 := by
  have hword (word : String) : String.ofList (text.map Char.toLower) = word ↔ Spells word text := by
    rw [Spells, ← String.toList_inj, String.toList_ofList]
  simp only [readName?, hword]
  by_cases hinfinity : Spells "inf" text ∨ Spells "infinity" text
  · have hnan : ¬Spells "nan" text := by
      intro hnan
      rcases hinfinity with hinf | hinf <;> exact absurd (hinf.unique hnan) (by decide)
    rw [if_pos hinfinity]
    simp [hinfinity, hnan, eq_comm]
  · rw [if_neg hinfinity]
    by_cases hnan : Spells "nan" text
    · rw [if_pos hnan]
      simp [hinfinity, hnan, eq_comm]
    · simp [hinfinity, hnan]

/-! ## Literals -/

theorem readMagnitude?_eq_some_iff {text : List Char} {x : Float} :
    readMagnitude? text = some x ↔ WritesMagnitude text x := by
  rw [readMagnitude?, Option.or_eq_some_iff, readNumber?_eq_some_iff]
  constructor
  · rintro (⟨q, hnumber, hx⟩ | ⟨-, hname⟩)
    · exact .number hnumber hx
    · rcases readName?_eq_some_iff.mp hname with ⟨hinfinity, rfl⟩ | ⟨hnan, rfl⟩
      · exact .infinity hinfinity
      · exact .nan hnan
  · -- A name has no digit, so that it is not read as a number.
    have hnone (hname : ¬∃ c ∈ text, c.isDigit = true) : readNumber? text = none := by
      rw [Option.eq_none_iff_forall_ne_some]
      intro x hread
      obtain ⟨q, hnumber, -⟩ := readNumber?_eq_some_iff.mp hread
      exact hname hnumber.exists_digit
    have hletters {word : String} (h : Spells word text)
        (hword : word.toList.all (!·.isDigit) = true) : ¬∃ c ∈ text, c.isDigit = true := by
      rintro ⟨c, hc, hdigit⟩
      have := List.all_eq_true.mp hword c (h.mem_of_isDigit hc hdigit)
      rw [hdigit] at this
      cases this
    rintro (⟨hnumber, hx⟩ | hinfinity | hnan)
    · exact Or.inl ⟨_, hnumber, hx⟩
    · refine Or.inr ⟨hnone ?_, readName?_eq_some_iff.mpr (Or.inl ⟨hinfinity, rfl⟩)⟩
      rcases hinfinity with h | h
      · exact hletters h (by decide +kernel)
      · exact hletters h (by decide +kernel)
    · refine Or.inr ⟨hnone ?_, readName?_eq_some_iff.mpr (Or.inr ⟨hnan, rfl⟩)⟩
      exact hletters hnan (by decide +kernel)

/-- There is no second sign. -/
theorem readMagnitude?_sign {sign : Char} (hsign : sign = '+' ∨ sign = '-') (rest : List Char) :
    readMagnitude? (sign :: rest) = none := by
  have hnumber : readNumber? (sign :: rest) = none := by
    rcases hsign with rfl | rfl <;> rfl
  have hname : readName? (sign :: rest) = none := by
    rw [Option.eq_none_iff_forall_ne_some]
    intro x hread
    have hhead {word : String} (h : Spells word (sign :: rest)) : sign.toLower ∈ word.toList :=
      h ▸ List.mem_cons_self ..
    rcases hsign with rfl | rfl <;>
      rcases readName?_eq_some_iff.mp hread with ⟨h | h, -⟩ | ⟨h, -⟩ <;>
      exact absurd (hhead h) (by decide +kernel)
  rw [readMagnitude?, hnumber, hname, Option.or_none]

/-- What is read is what a literal stands for, and nothing is read that is no literal. -/
theorem readFloat_eq_ok_iff {text : List Char} {x : Float} :
    readFloat text = .ok x ↔ WritesFloat text x := by
  unfold readFloat
  constructor
  · intro h
    dsimp only at h
    split at h
    · cases h
      rename_i hsome
      split at hsome
      · obtain ⟨y, hy, rfl⟩ := Option.map_eq_some_iff.mp hsome
        exact .minus (readMagnitude?_eq_some_iff.mp hy)
      · exact .plus (readMagnitude?_eq_some_iff.mp hsome)
      · exact .plain (readMagnitude?_eq_some_iff.mp hsome)
    · cases h
  · rintro (h | h | h)
    · have hread := readMagnitude?_eq_some_iff.mpr h
      split
      · rw [readMagnitude?_sign (Or.inr rfl)] at hread
        cases hread
      · rw [readMagnitude?_sign (Or.inl rfl)] at hread
        cases hread
      · dsimp only
        rw [hread]
    · simp only [readMagnitude?_eq_some_iff.mpr h]
    · simp only [readMagnitude?_eq_some_iff.mpr h, Option.map_some]

end BenchLog.Decimal
