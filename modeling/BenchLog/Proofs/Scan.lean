import BenchLog.Proofs.Lines
import Mathlib.Data.List.Forall2
import Mathlib.Data.List.TakeWhile
import Mathlib.Tactic.SplitIfs
import Mathlib.Tactic.Ring

/-!
# Lines of bytes

Scanning a sequence of bytes and cutting it into lines can be done in either order. A line feed never
belongs to a character of several bytes: it ends whatever was begun, and what follows is scanned afresh
(`Utf8.map_scan_append_newline`). So bytes are text if and only if each of their lines is
(`Utf8.decode?_eq_none_iff_line`), and their lines are shown as they would be shown alone
(`Utf8.pieces_lossy`).
-/

namespace BenchLog.Text

section

variable {α β : Type} {p : α → Bool} {q : β → Bool}

/-- Cutting commutes with a translation that takes separators to separators and makes no others. -/
theorem pieces_apply {f : List α → List β}
    (hcut : ∀ left a right, p a = true → ∃ b, q b = true ∧ f (left ++ a :: right) = f left ++ b :: f right)
    (hwhole : ∀ items, (∀ a ∈ items, p a = false) → ∀ b ∈ f items, q b = false) (items : List α) :
    (f items).splitOnP q = (items.splitOnP p).map f := by
  -- By the length: what stands on either side of a separator is shorter.
  induction hlength : items.length using Nat.strong_induction_on generalizing items with
  | _ n ih =>
      by_cases hsep : ∃ a ∈ items, p a = true
      · obtain ⟨a, member, ha⟩ := hsep
        obtain ⟨left, right, rfl⟩ := List.append_of_mem member
        obtain ⟨b, hb, hf⟩ := hcut left a right ha
        simp only [List.length_append, List.length_cons] at hlength
        rw [hf, List.splitOnP_append_cons _ _ hb, List.splitOnP_append_cons _ _ ha, List.map_append,
          ih left.length (by omega) left rfl, ih right.length (by omega) right rfl]
      · have hnone : ∀ a ∈ items, p a = false := by simpa using hsep
        rw [List.splitOnP_eq_singleton hnone, List.splitOnP_eq_singleton (hwhole items hnone)]
        rfl

theorem pieces_map (f : α → β) (h : ∀ a, q (f a) = p a) (items : List α) :
    (items.map f).splitOnP q = (items.splitOnP p).map (List.map f) := by
  refine pieces_apply ?_ ?_ items
  · intro left a right ha
    exact ⟨f a, by rw [h, ha], by simp⟩
  · intro items hnone b hb
    obtain ⟨a, ha, rfl⟩ := List.mem_map.mp hb
    rw [h, hnone a ha]

theorem exists_mem_pieces_iff {a : α} (h : p a = false) (items : List α) :
    (∃ piece ∈ items.splitOnP p, a ∈ piece) ↔ a ∈ items := by
  induction items with
  | nil => simp
  | cons b items ih =>
      rw [List.splitOnP_cons_eq_if_modifyHead, List.mem_cons, ← ih]
      split
      · have hne : a ≠ b := by
          rintro rfl
          simp_all
        simp [hne]
      · cases hpieces : items.splitOnP p with
        | nil => exact absurd hpieces (List.splitOnP_ne_nil _ _)
        | cons piece found => simp [or_assoc]

end

namespace Utf8

/-! ## Characters of several bytes -/

theorem ofNat_ne_newline {n : Nat} (h : n ≠ 10) : Char.ofNat n ≠ '\n' := by
  intro heq
  by_cases hvalid : n.isValidChar
  · have hnat : (Char.ofNat n).toNat = n := by
      rw [Char.ofNat, dif_pos hvalid]
      rfl
    rw [heq] at hnat
    exact h hnat.symm
  · rw [Char.ofNat, dif_neg hvalid] at heq
    cases heq

theorem start_two {byte : ℕ} (hlow : 0xC2 ≤ byte) (hhigh : byte < 0xE0) :
    start byte = .inr ⟨byte - 0xC0, 1, 0, 0x80, 0xBF⟩ := by
  rw [start, if_neg (by omega), if_neg (by omega), if_pos hhigh]

theorem start_three {byte : ℕ} (hlow : 0xE0 ≤ byte) (hhigh : byte < 0xF0) :
    start byte = .inr ⟨byte - 0xE0, 1, 1, if byte = 0xE0 then 0xA0 else 0x80,
      if byte = 0xED then 0x9F else 0xBF⟩ := by
  rw [start, if_neg (by omega), if_neg (by omega), if_neg (by omega)]
  by_cases hfirst : byte = 0xE0
  · subst hfirst
    rfl
  · by_cases hsurrogate : byte = 0xED
    · subst hsurrogate
      rfl
    · simp only [if_neg hfirst, if_neg hsurrogate, if_pos hhigh]

theorem start_four {byte : ℕ} (hlow : 0xF0 ≤ byte) (hhigh : byte ≤ 0xF4) :
    start byte = .inr ⟨byte - 0xF0, 1, 2, if byte = 0xF0 then 0x90 else 0x80,
      if byte = 0xF4 then 0x8F else 0xBF⟩ := by
  rw [start, if_neg (by omega), if_neg (by omega), if_neg (by omega), if_neg (by omega), if_neg (by omega),
    if_neg (by omega)]
  by_cases hfirst : byte = 0xF0
  · subst hfirst
    rfl
  · by_cases hlast : byte = 0xF4
    · subst hlast
      rfl
    · rw [if_neg hfirst, if_neg hfirst, if_neg hlast, if_neg hlast, if_pos (by omega)]

/-- What a byte starts, by the number of bytes that its character has. -/
inductive Starts (byte : ℕ) : Unit ⊕ Unfinished → Prop where
  | one (hhigh : byte < 0x80) : Starts byte (.inl (.char (Char.ofNat byte)))
  | two {value : ℕ} (hvalue : value = byte - 0xC0) (hlow : 0xC2 ≤ byte) (hhigh : byte < 0xE0) :
      Starts byte (.inr ⟨value, 1, 0, 0x80, 0xBF⟩)
  | three {value : ℕ} (hvalue : value = byte - 0xE0) (hlow : 0xE0 ≤ byte) (hhigh : byte < 0xF0) :
      Starts byte (.inr ⟨value, 1, 1, if byte = 0xE0 then 0xA0 else 0x80,
        if byte = 0xED then 0x9F else 0xBF⟩)
  | four {value : ℕ} (hvalue : value = byte - 0xF0) (hlow : 0xF0 ≤ byte) (hhigh : byte ≤ 0xF4) :
      Starts byte (.inr ⟨value, 1, 2, if byte = 0xF0 then 0x90 else 0x80,
        if byte = 0xF4 then 0x8F else 0xBF⟩)
  | none : Starts byte (.inl (.invalid 1))

theorem starts_start (byte : ℕ) : Starts byte (start byte) := by
  by_cases hone : byte < 0x80
  · rw [start, if_pos hone]
    exact .one hone
  by_cases hlow : byte < 0xC2
  · rw [start, if_neg hone, if_pos hlow]
    exact .none
  by_cases htwo : byte < 0xE0
  · rw [start_two (by omega) htwo]
    exact .two rfl (by omega) htwo
  by_cases hthree : byte < 0xF0
  · rw [start_three (by omega) hthree]
    exact .three rfl (by omega) hthree
  by_cases hfour : byte ≤ 0xF4
  · rw [start_four (by omega) hfour]
    exact .four rfl (by omega) hfour
  · rw [start, if_neg hone, if_neg hlow, if_neg htwo, if_neg (by omega), if_neg (by omega), if_neg hthree,
      if_neg (by omega), if_neg (by omega), if_neg (by omega)]
    exact .none

/-- The bytes that may come next lie above the ASCII characters, and so will the character. -/
def Unfinished.Begun (u : Unfinished) : Prop :=
  0x80 ≤ u.low ∧ u.high ≤ 0xBF ∧ 0x80 ≤ (u.value * 64 + u.low % 64) * 64 ^ u.more

theorem begun_of_start {byte : Nat} {u : Unfinished} (h : start byte = .inr u) : u.Begun := by
  have hstarts := starts_start byte
  rw [h] at hstarts
  cases hstarts with
  | two hvalue hlow hhigh =>
      simp only [Unfinished.Begun]
      omega
  | three hvalue hlow hhigh =>
      simp only [Unfinished.Begun]
      split_ifs <;> omega
  | four hvalue hlow hhigh =>
      simp only [Unfinished.Begun]
      split_ifs <;> omega

theorem ne_newline_of_start {byte : Nat} {unit : Unit} (h : start byte = .inl unit) (hbyte : byte ≠ 10) :
    unit ≠ .char '\n' := by
  have hstarts := starts_start byte
  rw [h] at hstarts
  cases hstarts with
  | one _ => simpa using ofNat_ne_newline hbyte
  | none => simp

namespace Scan

/-- The character being read, if any, has more than one byte. -/
def Begun (scan : Scan) : Prop := ∀ u, scan.pending = some u → u.Begun

/-- The units found, if the next byte does not go on with the character being read. -/
def broken (scan : Scan) : Array Unit :=
  match scan.pending with
  | none => scan.units
  | some u => scan.units.push (.invalid u.bytes)

/-- The scan of what follows some units. -/
def behind (units : Array Unit) (scan : Scan) : Scan := ⟨units ++ scan.units, scan.pending⟩

theorem lead_behind (units : Array Unit) (scan : Scan) (byte : Nat) :
    (behind units scan).lead byte = behind units (scan.lead byte) := by
  unfold lead
  cases start byte <;> simp [behind]

theorem step_behind (units : Array Unit) (scan : Scan) (byte : UInt8) :
    (behind units scan).step byte = behind units (scan.step byte) := by
  obtain ⟨found, pending⟩ := scan
  cases pending with
  | none => exact lead_behind units ⟨found, none⟩ _
  | some u =>
      have hinvalid : (⟨(units ++ found).push (.invalid u.bytes), none⟩ : Scan) =
          behind units ⟨found.push (.invalid u.bytes), none⟩ := by
        simp [behind]
      simp only [step, behind]
      split
      · cases u.more <;> simp
      · rw [hinvalid, lead_behind]
        rfl

theorem foldl_behind (units : Array Unit) (scan : Scan) (bytes : List UInt8) :
    bytes.foldl step (behind units scan) = behind units (bytes.foldl step scan) := by
  induction bytes generalizing scan with
  | nil => rfl
  | cons byte bytes ih => rw [List.foldl_cons, List.foldl_cons, step_behind, ih]

theorem finish_behind (units : Array Unit) (scan : Scan) :
    (behind units scan).finish = units.toList ++ scan.finish := by
  obtain ⟨found, pending⟩ := scan
  cases pending <;> simp [behind, finish]

theorem begun_lead (scan : Scan) (byte : Nat) : (scan.lead byte).Begun := by
  intro u hu
  unfold lead at hu
  split at hu
  · cases hu
  · rename_i hstart
    cases hu
    exact begun_of_start hstart

/-- A byte that goes on adds to the value what the least such byte adds, or more. -/
theorem value_le_of_range {u : Unfinished} (h : u.Begun) {byte : Nat}
    (hrange : u.low ≤ byte ∧ byte ≤ u.high) :
    u.value * 64 + u.low % 64 ≤ u.value * 64 + byte % 64 := by
  obtain ⟨hlow, hhigh, -⟩ := h
  omega

theorem begun_step {scan : Scan} (h : scan.Begun) (byte : UInt8) : (scan.step byte).Begun := by
  obtain ⟨found, pending⟩ := scan
  cases pending with
  | none => exact begun_lead _ _
  | some u =>
      have hu : u.Begun := h u rfl
      simp only [step]
      split
      · rename_i hrange
        have hle := value_le_of_range hu hrange
        cases hmore : u.more with
        | zero => exact fun _ hnone => by cases hnone
        | succ more =>
            rintro _ ⟨⟩
            refine ⟨Nat.le_refl _, Nat.le_refl _, ?_⟩
            calc 0x80 ≤ (u.value * 64 + u.low % 64) * 64 ^ (more + 1) := hmore ▸ hu.2.2
              _ ≤ (u.value * 64 + byte.toNat % 64) * 64 ^ (more + 1) := Nat.mul_le_mul_right _ hle
              _ = ((u.value * 64 + byte.toNat % 64) * 64 + 0x80 % 64) * 64 ^ more := by
                rw [Nat.pow_succ]
                ring
      · exact begun_lead _ _

theorem begun_foldl {scan : Scan} (h : scan.Begun) (bytes : List UInt8) :
    (bytes.foldl step scan).Begun := by
  induction bytes generalizing scan with
  | nil => exact h
  | cons byte bytes ih => exact ih (begun_step h byte)

/-- Whatever was begun, a line feed ends it. -/
theorem step_newline {scan : Scan} (h : scan.Begun) :
    scan.step 10 = ⟨scan.broken.push (.char '\n'), none⟩ := by
  obtain ⟨found, pending⟩ := scan
  cases pending with
  | none => rfl
  | some u =>
      -- A byte that goes on with a character is `0x80` at least.
      obtain ⟨hlow, -⟩ := h u rfl
      have hrange : ¬(u.low ≤ (10 : UInt8).toNat ∧ (10 : UInt8).toNat ≤ u.high) := by
        simp only [UInt8.reduceToNat]
        omega
      simp only [step, if_neg hrange]
      rfl

theorem mem_units_lead {scan : Scan} {byte : Nat} (hbyte : byte ≠ 10) {unit : Unit}
    (member : unit ∈ (scan.lead byte).units) : unit ∈ scan.units ∨ unit ≠ .char '\n' := by
  unfold lead at member
  split at member
  · rename_i hstart
    rcases Array.mem_push.mp member with member | rfl
    · exact Or.inl member
    · exact Or.inr (ne_newline_of_start hstart hbyte)
  · exact Or.inl member

/-- No other byte makes a line feed. -/
theorem mem_units_step {scan : Scan} (h : scan.Begun) {byte : UInt8} (hbyte : byte ≠ 10) {unit : Unit}
    (member : unit ∈ (scan.step byte).units) : unit ∈ scan.units ∨ unit ≠ .char '\n' := by
  have hnat : byte.toNat ≠ 10 := fun heq => hbyte (UInt8.toNat_inj.mp heq)
  obtain ⟨found, pending⟩ := scan
  cases pending with
  | none => exact mem_units_lead hnat member
  | some u =>
      have hu : u.Begun := h u rfl
      simp only [step] at member
      split at member
      · rename_i hrange
        have hle := value_le_of_range hu hrange
        cases hmore : u.more with
        | zero =>
            rw [hmore] at member
            rcases Array.mem_push.mp member with member | rfl
            · exact Or.inl member
            · have hvalue := hu.2.2
              rw [hmore, Nat.pow_zero, Nat.mul_one] at hvalue
              right
              simpa using ofNat_ne_newline (by omega)
        | succ more =>
            rw [hmore] at member
            exact Or.inl member
      · rcases mem_units_lead hnat member with member | hne
        · rcases Array.mem_push.mp member with member | rfl
          · exact Or.inl member
          · exact Or.inr (by simp)
        · exact Or.inr hne

theorem mem_units_foldl {scan : Scan} (h : scan.Begun) {bytes : List UInt8}
    (hbytes : ∀ byte ∈ bytes, byte ≠ 10) {unit : Unit}
    (member : unit ∈ (bytes.foldl step scan).units) : unit ∈ scan.units ∨ unit ≠ .char '\n' := by
  induction bytes generalizing scan with
  | nil => exact Or.inl member
  | cons byte bytes ih =>
      rcases ih (begun_step h byte) (fun b hb => hbytes b (by simp [hb])) member with member | hne
      · exact mem_units_step h (hbytes byte (by simp)) member
      · exact Or.inr hne

/-- To who cannot tell the two kinds of faults apart, the end of the input only breaks off. -/
theorem map_finish {β : Type} {f : Unit → β} (h : ∀ bytes, f (.incomplete bytes) = f (.invalid bytes))
    (scan : Scan) : scan.finish.map f = scan.broken.toList.map f := by
  obtain ⟨found, pending⟩ := scan
  cases pending <;> simp [finish, broken, h]

theorem mem_units_of_mem_finish {scan : Scan} {c : Char} (member : Unit.char c ∈ scan.finish) :
    Unit.char c ∈ scan.units := by
  obtain ⟨found, pending⟩ := scan
  cases pending <;> simpa [finish] using member

end Scan

/-! ## Lines of units -/

theorem begun_start : (⟨#[], none⟩ : Scan).Begun := fun _ h => by cases h

theorem newline_not_mem_scan {bytes : List UInt8} (h : ∀ byte ∈ bytes, byte ≠ 10) :
    Unit.char '\n' ∉ scan bytes := by
  intro member
  rcases Scan.mem_units_foldl begun_start h (Scan.mem_units_of_mem_finish member) with hmem | hne
  · simp at hmem
  · exact hne rfl

section

variable {β : Type} {f : Unit → β}

theorem map_scan_append_newline (hf : ∀ bytes, f (.incomplete bytes) = f (.invalid bytes))
    (left right : List UInt8) :
    (scan (left ++ 10 :: right)).map f = (scan left).map f ++ f (.char '\n') :: (scan right).map f := by
  have hbegun := Scan.begun_foldl begun_start left
  have hfresh (units : Array Unit) : (⟨units, none⟩ : Scan) = .behind units ⟨#[], none⟩ := by
    simp [Scan.behind]
  unfold scan
  rw [List.foldl_append, List.foldl_cons, Scan.step_newline hbegun, hfresh, Scan.foldl_behind,
    Scan.finish_behind, Scan.map_finish hf (left.foldl _ _)]
  simp

/-- Lines of bytes are scanned one by one. -/
theorem pieces_map_scan {q : β → Bool} (hf : ∀ bytes, f (.incomplete bytes) = f (.invalid bytes))
    (hq : ∀ unit, q (f unit) = (unit == .char '\n')) (bytes : List UInt8) :
    ((scan bytes).map f).splitOnP q = (bytes.splitOnP (· == 10)).map fun line => (scan line).map f := by
  refine pieces_apply (f := fun line => (scan line).map f) ?_ ?_ bytes
  · intro left byte right hbyte
    have hten : byte = 10 := by simpa using hbyte
    exact ⟨f (.char '\n'), by simp [hq], hten ▸ map_scan_append_newline hf left right⟩
  · intro items hnone b member
    have hbytes : ∀ byte ∈ items, byte ≠ 10 := fun byte hbyte => by simpa using hnone byte hbyte
    obtain ⟨unit, hunit, rfl⟩ := List.mem_map.mp member
    rw [hq, beq_eq_false_iff_ne]
    rintro rfl
    exact newline_not_mem_scan hbytes hunit

end

/-- Replacing the faults of lines and cutting a text of lines can be done in either order. -/
theorem pieces_lossy (bytes : List UInt8) :
    (lossy bytes).splitOnP (· == '\n') = (bytes.splitOnP (· == 10)).map lossy := by
  refine pieces_map_scan (fun _ => rfl) ?_ bytes
  intro unit
  cases unit <;> simp [Unit.shown]

/-! ## Characters and faults -/

/-- What bytes stand for: characters, and nothing for a fault. -/
def chars (bytes : List UInt8) : List (Option Char) := (scan bytes).map Unit.char?

theorem pieces_chars (bytes : List UInt8) :
    (chars bytes).splitOnP (· == some '\n') = (bytes.splitOnP (· == 10)).map chars := by
  refine pieces_map_scan (fun _ => rfl) ?_ bytes
  intro unit
  cases unit <;> simp [Unit.char?]

theorem faultFrom?_eq_none_iff (index : Nat) (units : List Unit) :
    faultFrom? index units = none ↔ none ∉ units.map Unit.char? := by
  induction units generalizing index with
  | nil => simp [faultFrom?]
  | cons unit units ih => cases unit <;> simp [faultFrom?, Unit.char?, ih]

theorem map_some_shown {units : List Unit} (h : none ∉ units.map Unit.char?) :
    units.map Unit.char? = (units.map Unit.shown).map some := by
  rw [List.map_map]
  apply List.map_congr_left
  intro unit member
  cases unit with
  | char c => rfl
  | invalid bytes => exact absurd (List.mem_map_of_mem member) h
  | incomplete bytes => exact absurd (List.mem_map_of_mem member) h

theorem decode?_eq_none_iff {bytes : List UInt8} : decode? bytes = none ↔ none ∈ chars bytes := by
  rw [decode?, fault?]
  cases hfault : faultFrom? 0 (scan bytes) with
  | none => simpa [chars] using (faultFrom?_eq_none_iff 0 _).mp hfault
  | some fault =>
      have hmem := mt (faultFrom?_eq_none_iff 0 (scan bytes)).mpr (by simp [hfault])
      simpa [chars] using hmem

theorem decode?_eq_some_iff {bytes : List UInt8} {text : List Char} :
    decode? bytes = some text ↔ chars bytes = text.map some := by
  by_cases hnone : none ∈ chars bytes
  · rw [decode?_eq_none_iff.mpr hnone]
    constructor
    · intro h
      cases h
    · intro h
      rw [h] at hnone
      simp at hnone
  · have hfault := (faultFrom?_eq_none_iff 0 _).mpr hnone
    have hinjective := List.map_injective_iff.mpr (Option.some_injective Char)
    rw [decode?, fault?, hfault, chars, map_some_shown hnone, hinjective.eq_iff]
    simp [lossy]

/-! ## Lines -/

theorem decode?_eq_none_iff_line {bytes : List UInt8} :
    decode? bytes = none ↔ ∃ line ∈ bytes.splitOnP (· == 10), decode? line = none := by
  rw [decode?_eq_none_iff, ← exists_mem_pieces_iff (p := (· == some '\n')) (by simp) (chars bytes),
    pieces_chars]
  simp [decode?_eq_none_iff]

theorem map_decode?_pieces {bytes : List UInt8} {text : List Char} (h : decode? bytes = some text) :
    (bytes.splitOnP (· == 10)).map decode? = (text.splitOnP (· == '\n')).map some := by
  have hlines := pieces_chars bytes
  rw [decode?_eq_some_iff.mp h, pieces_map (p := (· == '\n')) some (by simp)] at hlines
  rw [← List.forall₂_eq_eq_eq, List.forall₂_map_left_iff, List.forall₂_map_right_iff] at hlines ⊢
  exact hlines.flip.imp fun line text hline => decode?_eq_some_iff.mpr hline.symm

end Utf8

end BenchLog.Text
