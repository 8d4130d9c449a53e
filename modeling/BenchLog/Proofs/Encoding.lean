import BenchLog.Proofs.Scan

/-!
# Text and its bytes

The scan of some bytes begins with a character if and only if the bytes begin with its encoding
(`Utf8.scan_eq_cons_iff`). So what is decoded is what was encoded (`Utf8.decode?_eq_some_iff_encode`), and the
first fault stands right behind the longest part that is text (`Utf8.firstInvalid_of_fault`).
-/

namespace BenchLog.Text.Utf8

/-- The bytes of a text. -/
def encode (text : List Char) : List UInt8 := text.flatMap String.utf8EncodeChar

/-- Bytes that are the bytes of a text. -/
def IsText (bytes : List UInt8) : Prop := ∃ text, bytes = encode text

/-- Bytes with which a character is whole that some bytes have begun. -/
inductive Completes : Unfinished → List UInt8 → Char → Prop where
  | last {value bytes low high : ℕ} {byte : UInt8} (hrange : low ≤ byte.toNat ∧ byte.toNat ≤ high) :
      Completes ⟨value, bytes, 0, low, high⟩ [byte] (Char.ofNat (value * 64 + byte.toNat % 64))
  | next {value bytes more low high : ℕ} {byte : UInt8} {tail : List UInt8} {c : Char}
      (hrange : low ≤ byte.toNat ∧ byte.toNat ≤ high)
      (htail : Completes ⟨value * 64 + byte.toNat % 64, bytes + 1, more, 0x80, 0xBF⟩ tail c) :
      Completes ⟨value, bytes, more + 1, low, high⟩ (byte :: tail) c

theorem completes_zero_iff {value bytes low high : ℕ} {tail : List UInt8} {c : Char} :
    Completes ⟨value, bytes, 0, low, high⟩ tail c ↔ ∃ byte : UInt8, tail = [byte] ∧
      (low ≤ byte.toNat ∧ byte.toNat ≤ high) ∧ c = Char.ofNat (value * 64 + byte.toNat % 64) := by
  constructor
  · rintro (hrange | _)
    exact ⟨_, rfl, hrange, rfl⟩
  · rintro ⟨byte, rfl, hrange, rfl⟩
    exact .last hrange

theorem completes_succ_iff {value bytes more low high : ℕ} {tail : List UInt8} {c : Char} :
    Completes ⟨value, bytes, more + 1, low, high⟩ tail c ↔
      ∃ (byte : UInt8) (rest : List UInt8), tail = byte :: rest ∧
        (low ≤ byte.toNat ∧ byte.toNat ≤ high) ∧
        Completes ⟨value * 64 + byte.toNat % 64, bytes + 1, more, 0x80, 0xBF⟩ rest c := by
  constructor
  · rintro (_ | ⟨hrange, hrest⟩)
    exact ⟨_, _, rfl, hrange, hrest⟩
  · rintro ⟨byte, rest, rfl, hrange, hrest⟩
    exact .next hrange hrest

/-! ## Characters -/

theorem toNat_ofNat {n : ℕ} (h : n < 256) : (UInt8.ofNat n).toNat = n := by
  simpa using Nat.mod_eq_of_lt h

theorem ofNat_eq {n : ℕ} (byte : UInt8) (h : n = byte.toNat) : UInt8.ofNat n = byte := by
  rw [h, UInt8.ofNat_toNat]

theorem val_ofNat {v : ℕ} (h : v.isValidChar) : (Char.ofNat v).val.toNat = v := by
  rw [Char.ofNat, dif_pos h]
  rfl

theorem encode_one {v : ℕ} (h : v ≤ 0x7F) : String.utf8EncodeChar (Char.ofNat v) = [UInt8.ofNat v] := by
  rw [String.utf8EncodeChar, val_ofNat (Or.inl (by omega)), if_pos h]

theorem encode_two {v : ℕ} (hlow : 0x80 ≤ v) (hhigh : v ≤ 0x7FF) :
    String.utf8EncodeChar (Char.ofNat v) = [UInt8.ofNat (v / 64 + 192), UInt8.ofNat (v % 64 + 128)] := by
  rw [String.utf8EncodeChar, val_ofNat (Or.inl (by omega)), if_neg (by omega), if_pos hhigh,
    Nat.mod_eq_of_lt (by omega : v / 64 < 32)]

theorem encode_three {v : ℕ} (hvalid : v.isValidChar) (hlow : 0x800 ≤ v) (hhigh : v ≤ 0xFFFF) :
    String.utf8EncodeChar (Char.ofNat v) =
      [UInt8.ofNat (v / 4096 + 224), UInt8.ofNat (v / 64 % 64 + 128), UInt8.ofNat (v % 64 + 128)] := by
  rw [String.utf8EncodeChar, val_ofNat hvalid, if_neg (by omega), if_neg (by omega), if_pos hhigh,
    Nat.mod_eq_of_lt (by omega : v / 4096 < 16)]

theorem encode_four {v : ℕ} (hlow : 0x10000 ≤ v) (hhigh : v < 0x110000) :
    String.utf8EncodeChar (Char.ofNat v) = [UInt8.ofNat (v / 262144 + 240),
      UInt8.ofNat (v / 4096 % 64 + 128), UInt8.ofNat (v / 64 % 64 + 128), UInt8.ofNat (v % 64 + 128)] := by
  rw [String.utf8EncodeChar, val_ofNat (Or.inr ⟨by omega, hhigh⟩), if_neg (by omega), if_neg (by omega),
    if_neg (by omega), Nat.mod_eq_of_lt (by omega : v / 262144 < 8)]

theorem encode_eq_two {first second : UInt8} {v : ℕ}
    (hfirst : 0xC2 ≤ first.toNat ∧ first.toNat < 0xE0) (hsecond : 0x80 ≤ second.toNat ∧ second.toNat ≤ 0xBF)
    (hv : v = (first.toNat - 0xC0) * 64 + second.toNat % 64) :
    String.utf8EncodeChar (Char.ofNat v) = [first, second] := by
  rw [encode_two (by omega) (by omega), ofNat_eq first (by omega), ofNat_eq second (by omega)]

theorem encode_eq_three {first second third : UInt8} {v : ℕ}
    (hfirst : 0xE0 ≤ first.toNat ∧ first.toNat < 0xF0) (hsecond : 0x80 ≤ second.toNat ∧ second.toNat ≤ 0xBF)
    (hthird : 0x80 ≤ third.toNat ∧ third.toNat ≤ 0xBF)
    (hv : v = ((first.toNat - 0xE0) * 64 + second.toNat % 64) * 64 + third.toNat % 64)
    (hlow : 0x800 ≤ v) (hsurrogate : v < 0xD800 ∨ 0xDFFF < v) :
    String.utf8EncodeChar (Char.ofNat v) = [first, second, third] := by
  have hvalid : v.isValidChar := by
    rcases hsurrogate with h | h
    · exact Or.inl h
    · exact Or.inr ⟨h, by omega⟩
  rw [encode_three hvalid hlow (by omega), ofNat_eq first (by omega), ofNat_eq second (by omega),
    ofNat_eq third (by omega)]

theorem encode_eq_four {first second third fourth : UInt8} {v : ℕ}
    (hfirst : 0xF0 ≤ first.toNat ∧ first.toNat ≤ 0xF4) (hsecond : 0x80 ≤ second.toNat ∧ second.toNat ≤ 0xBF)
    (hthird : 0x80 ≤ third.toNat ∧ third.toNat ≤ 0xBF) (hfourth : 0x80 ≤ fourth.toNat ∧ fourth.toNat ≤ 0xBF)
    (hv : v = (((first.toNat - 0xF0) * 64 + second.toNat % 64) * 64 + third.toNat % 64) * 64 +
      fourth.toNat % 64)
    (hlow : 0x10000 ≤ v) (hhigh : v < 0x110000) :
    String.utf8EncodeChar (Char.ofNat v) = [first, second, third, fourth] := by
  rw [encode_four hlow hhigh, ofNat_eq first (by omega), ofNat_eq second (by omega),
    ofNat_eq third (by omega), ofNat_eq fourth (by omega)]

/-- A first byte and those that complete its character. -/
def Reads (byte : UInt8) (tail : List UInt8) (c : Char) : Prop :=
  start byte.toNat = .inl (.char c) ∧ tail = [] ∨
    ∃ u, start byte.toNat = .inr u ∧ Completes u tail c

theorem encode_of_reads {first : UInt8} {tail : List UInt8} {c : Char} (h : Reads first tail c) :
    String.utf8EncodeChar c = first :: tail := by
  have hstarts := starts_start first.toNat
  rcases h with ⟨hstart, rfl⟩ | ⟨u, hstart, htail⟩
  · rw [hstart] at hstarts
    cases hstarts with
    | one hhigh => rw [encode_one (by omega), UInt8.ofNat_toNat]
  · rw [hstart] at hstarts
    cases hstarts with
    | two hvalue hlow hhigh =>
        obtain ⟨second, rfl, hsecond, rfl⟩ := completes_zero_iff.mp htail
        exact encode_eq_two ⟨hlow, hhigh⟩ hsecond (by rw [hvalue])
    | three hvalue hlow hhigh =>
        simp only [completes_succ_iff, completes_zero_iff] at htail
        obtain ⟨second, _, rfl, hsecond, third, rfl, hthird, rfl⟩ := htail
        have hbounds : 0x80 ≤ second.toNat ∧ second.toNat ≤ 0xBF ∧
            (first.toNat = 0xE0 → 0xA0 ≤ second.toNat) ∧ (first.toNat = 0xED → second.toNat ≤ 0x9F) := by
          split_ifs at hsecond <;> omega
        exact encode_eq_three ⟨hlow, hhigh⟩ (by omega) hthird (by rw [hvalue]) (by omega) (by omega)
    | four hvalue hlow hhigh =>
        simp only [completes_succ_iff, completes_zero_iff] at htail
        obtain ⟨second, _, rfl, hsecond, third, _, rfl, hthird, fourth, rfl, hfourth, rfl⟩ := htail
        have hbounds : 0x80 ≤ second.toNat ∧ second.toNat ≤ 0xBF ∧
            (first.toNat = 0xF0 → 0x90 ≤ second.toNat) ∧ (first.toNat = 0xF4 → second.toNat ≤ 0x8F) := by
          split_ifs at hsecond <;> omega
        exact encode_eq_four ⟨hlow, hhigh⟩ (by omega) hthird hfourth (by rw [hvalue])
          (by omega) (by omega)

/-- The bytes of a character are read as the character. -/
theorem reads_encode (c : Char) :
    ∃ first tail, String.utf8EncodeChar c = first :: tail ∧ Reads first tail c := by
  obtain ⟨v, hvalid, rfl⟩ : ∃ v : ℕ, v.isValidChar ∧ c = Char.ofNat v :=
    ⟨c.toNat, c.valid, (Char.ofNat_toNat c).symm⟩
  have hbound : v < 0xD800 ∨ 0xDFFF < v ∧ v < 0x110000 := hvalid
  by_cases hone : v ≤ 0x7F
  · refine ⟨_, _, encode_one hone, Or.inl ⟨?_, rfl⟩⟩
    rw [toNat_ofNat (by omega), start, if_pos (by omega)]
  -- From here on there is a last byte with the lowest bits.
  obtain ⟨last, hlast⟩ : ∃ byte : UInt8, byte.toNat = v % 64 + 128 := ⟨_, toNat_ofNat (by omega)⟩
  by_cases htwo : v ≤ 0x7FF
  · obtain ⟨first, hfirst⟩ : ∃ byte : UInt8, byte.toNat = v / 64 + 192 := ⟨_, toNat_ofNat (by omega)⟩
    refine ⟨first, [last], encode_eq_two (by omega) (by omega) (by omega), Or.inr ⟨_,
      start_two (by omega) (by omega), completes_zero_iff.mpr ⟨last, rfl, by omega, congrArg _ (by omega)⟩⟩⟩
  obtain ⟨middle, hmiddle⟩ : ∃ byte : UInt8, byte.toNat = v / 64 % 64 + 128 :=
    ⟨_, toNat_ofNat (by omega)⟩
  by_cases hthree : v ≤ 0xFFFF
  · obtain ⟨first, hfirst⟩ : ∃ byte : UInt8, byte.toNat = v / 4096 + 224 := ⟨_, toNat_ofNat (by omega)⟩
    refine ⟨first, [middle, last], encode_eq_three (by omega) (by omega) (by omega) (by omega) (by omega)
      (by omega), Or.inr ⟨_, start_three (by omega) (by omega), completes_succ_iff.mpr ⟨middle, [last], rfl,
        ?_, completes_zero_iff.mpr ⟨last, rfl, by omega, congrArg _ (by omega)⟩⟩⟩⟩
    split_ifs <;> omega
  · obtain ⟨first, hfirst⟩ : ∃ byte : UInt8, byte.toNat = v / 262144 + 240 := ⟨_, toNat_ofNat (by omega)⟩
    obtain ⟨second, hsecond⟩ : ∃ byte : UInt8, byte.toNat = v / 4096 % 64 + 128 :=
      ⟨_, toNat_ofNat (by omega)⟩
    refine ⟨first, [second, middle, last], encode_eq_four (by omega) (by omega) (by omega) (by omega)
      (by omega) (by omega) (by omega), Or.inr ⟨_, start_four (by omega) (by omega),
        completes_succ_iff.mpr ⟨second, [middle, last], rfl, ?_, completes_succ_iff.mpr ⟨middle, [last], rfl,
          by omega, completes_zero_iff.mpr ⟨last, rfl, by omega, congrArg _ (by omega)⟩⟩⟩⟩⟩
    split_ifs <;> omega

theorem reads_iff {first : UInt8} {tail : List UInt8} {c : Char} :
    Reads first tail c ↔ String.utf8EncodeChar c = first :: tail := by
  refine ⟨encode_of_reads, fun h => ?_⟩
  obtain ⟨other, rest, hencode, hreads⟩ := reads_encode c
  obtain ⟨rfl, rfl⟩ := List.cons.inj (h.symm.trans hencode)
  exact hreads

/-! ## The first unit -/

/-- A unit that is found stays in front of what follows. -/
theorem finish_foldl_found (unit : Unit) (pending : Option Unfinished) (bytes : List UInt8) :
    (bytes.foldl Scan.step ⟨#[unit], pending⟩).finish =
      unit :: (bytes.foldl Scan.step ⟨#[], pending⟩).finish := by
  have hbehind : (⟨#[unit], pending⟩ : Scan) = .behind #[unit] ⟨#[], pending⟩ := by simp [Scan.behind]
  rw [hbehind, Scan.foldl_behind, Scan.finish_behind]
  rfl

theorem Completes.exists_cons {u : Unfinished} {tail : List UInt8} {c : Char} (h : Completes u tail c) :
    ∃ (byte : UInt8) (rest : List UInt8), tail = byte :: rest ∧ u.low ≤ byte.toNat ∧ byte.toNat ≤ u.high := by
  cases h with
  | last hrange => exact ⟨_, _, rfl, hrange⟩
  | next hrange _ => exact ⟨_, _, rfl, hrange⟩

/-- A character that is begun is the first unit if and only if the bytes complete it. -/
theorem finish_foldl_pending_iff {u : Unfinished} {bytes : List UInt8} {c : Char} {rest : List Unit} :
    (bytes.foldl Scan.step ⟨#[], some u⟩).finish = .char c :: rest ↔
      ∃ tail later, bytes = tail ++ later ∧ Completes u tail c ∧ scan later = rest := by
  induction bytes generalizing u with
  | nil =>
      refine iff_of_false (by simp [Scan.finish]) ?_
      rintro ⟨tail, later, heq, htail, -⟩
      obtain ⟨rfl, -⟩ := List.append_eq_nil_iff.mp heq.symm
      cases htail
  | cons byte bytes ih =>
      obtain ⟨value, count, more, low, high⟩ := u
      by_cases hrange : low ≤ byte.toNat ∧ byte.toNat ≤ high
      · cases more with
        | zero =>
            have hstep : (⟨#[], some ⟨value, count, 0, low, high⟩⟩ : Scan).step byte =
                ⟨#[.char (Char.ofNat (value * 64 + byte.toNat % 64))], none⟩ := by
              simp [Scan.step, hrange]
            rw [List.foldl_cons, hstep, finish_foldl_found]
            constructor
            · intro h
              obtain ⟨hc, hrest⟩ := List.cons.inj h
              cases hc
              exact ⟨[byte], bytes, rfl, .last hrange, hrest⟩
            · rintro ⟨tail, later, heq, htail, rfl⟩
              obtain ⟨_, rfl, -, rfl⟩ := completes_zero_iff.mp htail
              obtain ⟨rfl, rfl⟩ := List.cons.inj heq
              rfl
        | succ more =>
            have hstep : (⟨#[], some ⟨value, count, more + 1, low, high⟩⟩ : Scan).step byte =
                ⟨#[], some ⟨value * 64 + byte.toNat % 64, count + 1, more, 0x80, 0xBF⟩⟩ := by
              simp [Scan.step, hrange]
            rw [List.foldl_cons, hstep, ih]
            constructor
            · rintro ⟨tail, later, rfl, htail, hlater⟩
              exact ⟨byte :: tail, later, rfl, .next hrange htail, hlater⟩
            · rintro ⟨tail, later, heq, htail, hlater⟩
              obtain ⟨_, tail, rfl, -, htail⟩ := completes_succ_iff.mp htail
              obtain ⟨rfl, rfl⟩ := List.cons.inj heq
              exact ⟨tail, later, rfl, htail, hlater⟩
      · have hstep : (⟨#[], some ⟨value, count, more, low, high⟩⟩ : Scan).step byte =
            .behind #[.invalid count] (Scan.lead ⟨#[], none⟩ byte.toNat) := by
          rw [← Scan.lead_behind]
          simp [Scan.step, Scan.behind, hrange]
        rw [List.foldl_cons, hstep, Scan.foldl_behind, Scan.finish_behind]
        refine iff_of_false (by simp) ?_
        rintro ⟨tail, later, heq, htail, -⟩
        obtain ⟨_, _, rfl, hbounds⟩ := htail.exists_cons
        obtain ⟨rfl, -⟩ := List.cons.inj heq
        exact hrange hbounds

theorem scan_cons (byte : UInt8) (bytes : List UInt8) : scan (byte :: bytes) =
    match start byte.toNat with
    | .inl unit => unit :: scan bytes
    | .inr u => (bytes.foldl Scan.step ⟨#[], some u⟩).finish := by
  have hstep : (⟨#[], none⟩ : Scan).step byte = Scan.lead ⟨#[], none⟩ byte.toNat := rfl
  rw [scan, List.foldl_cons, hstep, Scan.lead]
  cases start byte.toNat with
  | inl unit => exact finish_foldl_found unit none bytes
  | inr u => rfl

/-- The first unit is a character if and only if its bytes come first. -/
theorem scan_eq_cons_iff {bytes : List UInt8} {c : Char} {rest : List Unit} :
    scan bytes = .char c :: rest ↔
      ∃ later, bytes = String.utf8EncodeChar c ++ later ∧ scan later = rest := by
  obtain ⟨first, tail, hencode, hreads⟩ := reads_encode c
  rw [hencode]
  cases bytes with
  | nil =>
      refine iff_of_false (by simp [scan, Scan.finish]) ?_
      rintro ⟨later, heq, -⟩
      cases heq
  | cons byte bytes =>
      rw [scan_cons]
      cases hstart : start byte.toNat with
      | inl unit =>
          constructor
          · intro h
            obtain ⟨rfl, hrest⟩ := List.cons.inj h
            have hbytes := reads_iff.mp (Or.inl ⟨hstart, rfl⟩)
            exact ⟨bytes, by rw [← hencode, hbytes]; rfl, hrest⟩
          · rintro ⟨later, heq, rfl⟩
            obtain ⟨rfl, rfl⟩ := List.cons.inj heq
            rcases hreads with ⟨hchar, rfl⟩ | ⟨u, hbegun, -⟩
            · obtain rfl := Sum.inl.inj (hstart.symm.trans hchar)
              rfl
            · rw [hstart] at hbegun
              cases hbegun
      | inr u =>
          simp only [finish_foldl_pending_iff]
          constructor
          · rintro ⟨rest', later, rfl, htail, hlater⟩
            have hbytes := reads_iff.mp (Or.inr ⟨u, hstart, htail⟩)
            exact ⟨later, by rw [← hencode, hbytes]; rfl, hlater⟩
          · rintro ⟨later, heq, hlater⟩
            obtain ⟨rfl, rfl⟩ := List.cons.inj heq
            rcases hreads with ⟨hchar, -⟩ | ⟨u', hbegun, htail⟩
            · rw [hstart] at hchar
              cases hchar
            · obtain rfl := Sum.inr.inj (hstart.symm.trans hbegun)
              exact ⟨tail, later, rfl, htail, hlater⟩

/-! ## Text -/

@[simp] theorem encode_nil : encode [] = [] := rfl

@[simp] theorem encode_cons (c : Char) (text : List Char) :
    encode (c :: text) = String.utf8EncodeChar c ++ encode text := rfl

theorem encode_append (left right : List Char) : encode (left ++ right) = encode left ++ encode right :=
  List.flatMap_append

theorem scan_eq_append_iff {bytes : List UInt8} {text : List Char} {rest : List Unit} :
    scan bytes = text.map .char ++ rest ↔ ∃ later, bytes = encode text ++ later ∧ scan later = rest := by
  induction text generalizing bytes with
  | nil => simp
  | cons c text ih =>
      rw [List.map_cons, List.cons_append, scan_eq_cons_iff]
      simp only [ih, encode_cons, List.append_assoc]
      constructor
      · rintro ⟨_, rfl, later, rfl, hrest⟩
        exact ⟨later, rfl, hrest⟩
      · rintro ⟨later, rfl, hrest⟩
        exact ⟨_, rfl, later, rfl, hrest⟩

theorem Scan.finish_lead_ne_nil (scan : Scan) (byte : ℕ) : (scan.lead byte).finish ≠ [] := by
  unfold lead
  cases start byte <;> simp [finish]

theorem Scan.finish_step_ne_nil (scan : Scan) (byte : UInt8) : (scan.step byte).finish ≠ [] := by
  obtain ⟨found, pending⟩ := scan
  cases pending with
  | none => exact finish_lead_ne_nil _ _
  | some u =>
      simp only [step]
      split
      · cases u.more <;> simp [finish]
      · exact finish_lead_ne_nil _ _

theorem scan_eq_nil_iff {bytes : List UInt8} : scan bytes = [] ↔ bytes = [] := by
  refine ⟨fun h => ?_, ?_⟩
  · rcases List.eq_nil_or_concat bytes with hnil | ⟨front, byte, rfl⟩
    · exact hnil
    · rw [scan, List.concat_eq_append, List.foldl_append] at h
      exact absurd h (Scan.finish_step_ne_nil _ byte)
  · rintro rfl
    rfl

theorem map_char?_eq_iff {units : List Unit} {text : List Char} :
    units.map Unit.char? = text.map some ↔ units = text.map .char := by
  constructor
  · intro h
    rw [← List.forall₂_eq_eq_eq, List.forall₂_map_left_iff, List.forall₂_map_right_iff] at h
    rw [← List.forall₂_eq_eq_eq, List.forall₂_map_right_iff]
    refine h.imp fun unit c hchar => ?_
    cases unit with
    | char d => rw [Option.some.inj hchar]
    | invalid bytes => cases hchar
    | incomplete bytes => cases hchar
  · rintro rfl
    simp [Unit.char?, Function.comp_def]

/-- What is decoded is what was encoded. -/
theorem decode?_eq_some_iff_encode {bytes : List UInt8} {text : List Char} :
    decode? bytes = some text ↔ bytes = encode text := by
  have hscan := @scan_eq_append_iff bytes text []
  simp only [List.append_nil, scan_eq_nil_iff, exists_eq_right] at hscan
  rw [decode?_eq_some_iff, chars, map_char?_eq_iff, hscan]

theorem isText_iff {bytes : List UInt8} : IsText bytes ↔ decode? bytes ≠ none := by
  simp only [IsText, ← decode?_eq_some_iff_encode, Option.ne_none_iff_exists']

/-! ## The first fault -/

/-- The bytes before this place are text, and no longer first part of the bytes is. -/
def FirstInvalid (bytes : List UInt8) (index : ℕ) : Prop :=
  index < bytes.length ∧ IsText (bytes.take index) ∧
    ∀ longer ≤ bytes.length, IsText (bytes.take longer) → longer ≤ index

/-- Units are characters, or they are up to a first one that is none. -/
theorem exists_chars (units : List Unit) : ∃ text : List Char, units = text.map .char ∨
    ∃ fault rest, units = text.map .char ++ fault :: rest ∧ fault.char? = none := by
  induction units with
  | nil => exact ⟨[], Or.inl rfl⟩
  | cons unit units ih =>
      cases hunit : unit.char? with
      | none => exact ⟨[], Or.inr ⟨unit, units, rfl, hunit⟩⟩
      | some c =>
          obtain rfl : unit = .char c := by cases unit <;> simp_all [Unit.char?]
          obtain ⟨text, rfl | ⟨fault, rest, rfl, hfault⟩⟩ := ih
          · exact ⟨c :: text, Or.inl rfl⟩
          · exact ⟨c :: text, Or.inr ⟨fault, rest, rfl, hfault⟩⟩

/-- Bytes that are not text begin with text and go on with a fault. -/
theorem exists_fault {bytes : List UInt8} (h : ¬IsText bytes) :
    ∃ text later fault rest, bytes = encode text ++ later ∧ scan later = fault :: rest ∧
      fault.char? = none := by
  obtain ⟨text, hchars | ⟨fault, rest, hscan, hfault⟩⟩ := exists_chars (scan bytes)
  · rw [← List.append_nil (List.map _ _), scan_eq_append_iff] at hchars
    obtain ⟨later, rfl, hlater⟩ := hchars
    rw [scan_eq_nil_iff] at hlater
    exact absurd ⟨text, by rw [hlater, List.append_nil]⟩ h
  · obtain ⟨later, hbytes, hlater⟩ := scan_eq_append_iff.mp hscan
    exact ⟨text, later, fault, rest, hbytes, hlater, hfault⟩

section

variable {text : List Char} {later : List UInt8} {unit : Unit} {rest : List Unit}

theorem scan_encode_append (text : List Char) (later : List UInt8) :
    scan (encode text ++ later) = text.map .char ++ scan later :=
  scan_eq_append_iff.mpr ⟨later, rfl, rfl⟩

/-- Characters that come first come before a unit that is none. -/
theorem exists_append_of_map_char (hunit : unit.char? = none) {other : List Char} {more : List Unit}
    (h : text.map .char ++ unit :: rest = other.map .char ++ more) : ∃ tail, text = other ++ tail := by
  induction other generalizing text with
  | nil => exact ⟨text, rfl⟩
  | cons c other ih =>
      cases text with
      | nil =>
          obtain ⟨rfl, -⟩ := List.cons.inj h
          cases hunit
      | cons d text =>
          obtain ⟨hchar, hrest⟩ := List.cons.inj h
          cases hchar
          obtain ⟨tail, rfl⟩ := ih hrest
          exact ⟨tail, rfl⟩

theorem firstInvalid_of_fault (hlater : scan later = unit :: rest) (hunit : unit.char? = none) :
    FirstInvalid (encode text ++ later) (encode text).length := by
  have hne : later ≠ [] := by
    rintro rfl
    cases hlater
  refine ⟨?_, ⟨text, List.take_left⟩, ?_⟩
  · rw [List.length_append]
    exact Nat.lt_add_of_pos_right (List.length_pos_iff.mpr hne)
  · rintro longer hle ⟨other, hother⟩
    have hsplit := List.take_append_drop longer (encode text ++ later)
    have hscan := scan_encode_append other ((encode text ++ later).drop longer)
    rw [← hother, hsplit, scan_encode_append, hlater] at hscan
    obtain ⟨tail, rfl⟩ := exists_append_of_map_char hunit hscan
    have hlength := congrArg List.length hother
    rw [List.length_take, Nat.min_eq_left hle] at hlength
    rw [hlength, encode_append, List.length_append]
    exact Nat.le_add_right _ _

theorem index_faultFrom? (text : List Char) (rest : List Unit) (hunit : unit.char? = none) (index : ℕ) :
    ∃ fault, faultFrom? index (text.map .char ++ unit :: rest) = some fault ∧
      fault.index = index + (encode text).length := by
  induction text generalizing index with
  | nil =>
      cases unit with
      | char c => cases hunit
      | invalid bytes => exact ⟨_, rfl, rfl⟩
      | incomplete bytes => exact ⟨_, rfl, rfl⟩
  | cons c text ih =>
      obtain ⟨fault, hfault, hindex⟩ := ih (index + c.utf8Size)
      refine ⟨fault, hfault, ?_⟩
      rw [hindex, encode_cons, List.length_append, String.length_utf8EncodeChar, Nat.add_assoc]

end

end BenchLog.Text.Utf8
