import BenchLog.Proofs.Encoding

/-!
# The line around a place

Two searches for a line feed, back and ahead from a place among some bytes, find the line that holds the
place, and the line feeds before the place tell its number (`LogFile.faultyLine_eq`). So bytes that are not
text are reported at the first of their lines that is not (`LogFile.ofBytes_of_not_text`).
-/

namespace BenchLog

namespace Text

section

variable {α : Type} {p : α → Bool}

/-- Where a piece begins: behind these pieces and the separators that end them. -/
def offset (before : List (List α)) : ℕ := (before.map (·.length + 1)).sum

theorem offset_cons (piece : List α) (before : List (List α)) :
    offset (piece :: before) = piece.length + 1 + offset before := by
  simp [offset]

/-- Pieces and the separators that end them. -/
def ended (sep : α) (before : List (List α)) : List α := before.flatMap (· ++ [sep])

theorem length_ended (sep : α) (before : List (List α)) : (ended sep before).length = offset before := by
  simp [ended, offset, List.length_flatMap]

theorem ended_concat (sep : α) (before : List (List α)) (piece : List α) :
    ended sep (before ++ [piece]) = ended sep before ++ piece ++ [sep] := by
  simp [ended]

/-- The items that are cut are the pieces before one, this one, and more behind a separator. -/
theorem eq_ended_append [BEq α] [LawfulBEq α] {sep : α} {items line : List α}
    {before after : List (List α)} (h : items.splitOnP (· == sep) = before ++ line :: after) :
    ∃ rest, items = ended sep before ++ line ++ rest ∧ (rest = [] ∨ rest.head? = some sep) := by
  have hjoin : [sep].intercalate (items.splitOn sep) = items := List.intercalate_splitOn sep
  rw [List.splitOn_eq_splitOnP, h] at hjoin
  rw [← hjoin]
  clear h hjoin
  induction before with
  | nil =>
      cases after with
      | nil => exact ⟨[], by simp [ended], Or.inl rfl⟩
      | cons next after =>
          refine ⟨sep :: [sep].intercalate (next :: after), ?_, Or.inr rfl⟩
          rw [List.nil_append, List.intercalate_cons_cons]
          simp [ended]
  | cons piece before ih =>
      obtain ⟨rest, hrest, hhead⟩ := ih
      refine ⟨rest, ?_, hhead⟩
      rw [List.cons_append, List.intercalate_cons_of_ne_nil (by simp), hrest]
      simp [ended]

theorem not_mem_of_mem_splitOnP {items piece : List α} (h : piece ∈ items.splitOnP p) :
    ∀ a ∈ piece, p a = false := by
  induction items generalizing piece with
  | nil => simp_all [List.splitOnP_nil]
  | cons b items ih =>
      rw [List.splitOnP_cons_eq_if_modifyHead] at h
      split at h
      · obtain rfl | member := List.mem_cons.mp h
        · simp
        · exact ih member
      · rename_i hb
        cases hpieces : items.splitOnP p with
        | nil => exact absurd hpieces (List.splitOnP_ne_nil _ _)
        | cons first found =>
            rw [hpieces, List.modifyHead_cons] at h
            obtain rfl | member := List.mem_cons.mp h
            · intro a ha
              obtain rfl | ha := List.mem_cons.mp ha
              · simpa using hb
              · exact ih (by simp [hpieces]) a ha
            · exact ih (by simp [hpieces, member])

/-- The last piece of some items goes on with the first piece of what follows them. -/
theorem exists_last_piece (p : α → Bool) (left : List α) :
    ∃ before front, left.splitOnP p = before ++ [front] ∧ left.length = offset before + front.length ∧
      ∀ right back after, right.splitOnP p = back :: after →
        (left ++ right).splitOnP p = before ++ (front ++ back) :: after := by
  induction left with
  | nil => exact ⟨[], [], rfl, rfl, by simp⟩
  | cons a left ih =>
      obtain ⟨before, front, hpieces, hlength, happend⟩ := ih
      by_cases ha : p a = true
      · refine ⟨[] :: before, front, by simp [List.splitOnP_cons_eq_if_modifyHead, ha, hpieces], ?_, ?_⟩
        · simp only [List.length_cons, offset_cons, List.length_nil]
          omega
        · intro right back after hright
          simp [List.splitOnP_cons_eq_if_modifyHead, ha, happend right back after hright]
      · cases before with
        | nil =>
            refine ⟨[], a :: front, by simp [List.splitOnP_cons_eq_if_modifyHead, ha, hpieces], ?_, ?_⟩
            · simpa [offset] using hlength
            · intro right back after hright
              simp [List.splitOnP_cons_eq_if_modifyHead, ha, happend right back after hright]
        | cons first before =>
            refine ⟨(a :: first) :: before, front,
              by simp [List.splitOnP_cons_eq_if_modifyHead, ha, hpieces], ?_, ?_⟩
            · simp only [List.length_cons, offset_cons] at hlength ⊢
              omega
            · intro right back after hright
              simp [List.splitOnP_cons_eq_if_modifyHead, ha, happend right back after hright]

end

namespace Utf8

/-- The line that holds this place, behind these lines. -/
def Holds (bytes : List UInt8) (index : ℕ) (before : List (List UInt8)) (line : List UInt8) : Prop :=
  (∃ after, bytes.splitOnP (· == 10) = before ++ line :: after) ∧
    offset before ≤ index ∧ index < offset before + line.length

/-- A fault with which some bytes begin is one of their first line. -/
theorem none_mem_chars_of_pieces {later back : List UInt8} {after : List (List UInt8)} {unit : Unit}
    {rest : List Unit} (hpieces : later.splitOnP (· == 10) = back :: after)
    (hlater : scan later = unit :: rest) (hunit : unit.char? = none) :
    none ∈ chars back := by
  have hchars := pieces_chars later
  rw [hpieces, chars, hlater, List.map_cons, hunit, List.splitOnP_cons_eq_if_modifyHead,
    if_neg (by simp), List.map_cons] at hchars
  cases hrest : (rest.map Unit.char?).splitOnP (· == some '\n') with
  | nil => exact absurd hrest (List.splitOnP_ne_nil _ _)
  | cons piece found =>
      rw [hrest] at hchars
      rw [← (List.cons.inj hchars).1]
      exact List.mem_cons_self

theorem isText_iff_lines {bytes : List UInt8} :
    IsText bytes ↔ ∀ line ∈ bytes.splitOnP (· == 10), IsText line := by
  rw [isText_iff, ne_eq, decode?_eq_none_iff_line]
  simp [isText_iff]

/-- The lines before the first fault are text, and the line that holds it is not. -/
theorem exists_holds {bytes : List UInt8} (h : ¬IsText bytes) :
    ∃ fault before line, fault? (scan bytes) = some fault ∧ FirstInvalid bytes fault.index ∧
      Holds bytes fault.index before line ∧ (∀ earlier ∈ before, IsText earlier) ∧ ¬IsText line := by
  obtain ⟨text, later, unit, rest, rfl, hlater, hunit⟩ := exists_fault h
  obtain ⟨fault, hfault, hindex⟩ := index_faultFrom? text rest hunit 0
  rw [Nat.zero_add] at hindex
  obtain ⟨before, front, hfront, hlength, happend⟩ := exists_last_piece (· == 10) (encode text)
  obtain ⟨back, after, hback⟩ := List.exists_cons_of_ne_nil (List.splitOnP_ne_nil (· == 10) later)
  have hnone := none_mem_chars_of_pieces hback hlater hunit
  have htext : ∀ line ∈ before ++ [front], IsText line := hfront ▸ isText_iff_lines.mp ⟨text, rfl⟩
  refine ⟨fault, before, front ++ back, ?_, ?_, ⟨⟨after, happend later back after hback⟩, ?_⟩, ?_, ?_⟩
  · rw [fault?, scan_encode_append, hlater, hfault]
  · rw [hindex]
    exact firstInvalid_of_fault hlater hunit
  · have hne : back ≠ [] := by
      rintro rfl
      cases hnone
    have hpos := List.length_pos_iff.mpr hne
    rw [hindex, hlength, List.length_append]
    omega
  · exact fun earlier member => htext earlier (List.mem_append_left _ member)
  · obtain ⟨found, rfl⟩ := htext front (by simp)
    rw [isText_iff, not_not, decode?_eq_none_iff, chars, scan_encode_append, List.map_append]
    exact List.mem_append_right _ hnone

end Utf8

end Text

namespace LogFile

open Text Text.Utf8

variable {line tail : List UInt8} {k : ℕ}

/-! ## Back to a line feed and ahead to the next -/

theorem take_ended (before : List (List UInt8)) (hk : k ≤ line.length) :
    (ended 10 before ++ line ++ tail).take (offset before + k) = ended 10 before ++ line.take k := by
  rw [← length_ended 10, List.append_assoc, List.take_length_add_append, List.take_append_of_le_length hk]

theorem findIdx?_newline (h : ∀ byte ∈ line, (byte == 10) = false) :
    line.findIdx? (· == 10) = none :=
  List.findIdx?_eq_none_iff.mpr h

theorem lineStart_eq (before : List (List UInt8)) (h : ∀ byte ∈ line, (byte == 10) = false)
    (hk : k ≤ line.length) :
    lineStart (ended 10 before ++ line ++ tail) (offset before + k) = offset before := by
  have hback : (line.take k).reverse.findIdx? (· == 10) = none :=
    findIdx?_newline fun byte member => h byte (List.mem_of_mem_take (List.mem_reverse.mp member))
  rw [lineStart, take_ended before hk, List.reverse_append, List.findIdx?_append, hback, Option.none_or]
  obtain rfl | ⟨earlier, last, rfl⟩ := List.eq_nil_or_concat before
  · rfl
  · rw [List.concat_eq_append, ended_concat, List.reverse_append]
    simp [List.findIdx?_cons, hk]

theorem lineEnd_eq (before : List (List UInt8)) (h : ∀ byte ∈ line, (byte == 10) = false)
    (hk : k ≤ line.length) (htail : tail = [] ∨ tail.head? = some 10) :
    lineEnd (ended 10 before ++ line ++ tail) (offset before + k) = offset before + line.length := by
  have hahead : (line.drop k).findIdx? (· == 10) = none :=
    findIdx?_newline fun byte member => h byte (List.mem_of_mem_drop member)
  have hdrop : (ended 10 before ++ line ++ tail).drop (offset before + k) = line.drop k ++ tail := by
    rw [← length_ended 10, List.append_assoc, List.drop_length_add_append,
      List.drop_append_of_le_length hk]
  rw [lineEnd, hdrop, List.findIdx?_append, hahead, Option.none_or]
  cases tail with
  | nil => simp [length_ended]
  | cons byte tail =>
      obtain rfl : byte = 10 := by simpa using htail
      simp [List.findIdx?_cons]
      omega

theorem count_newline (h : ∀ byte ∈ line, (byte == 10) = false) : line.count 10 = 0 :=
  List.count_eq_zero.mpr fun member => by simpa using h 10 member

theorem count_ended (before : List (List UInt8))
    (h : ∀ piece ∈ before, ∀ byte ∈ piece, (byte == 10) = false) :
    (ended 10 before).count 10 = before.length := by
  induction before with
  | nil => rfl
  | cons piece before ih =>
      obtain ⟨hpiece, hbefore⟩ := List.forall_mem_cons.mp h
      rw [ended, List.flatMap_cons, List.count_append, List.count_append, count_newline hpiece]
      have hrest := ih hbefore
      rw [ended] at hrest
      rw [hrest, List.count_singleton_self, List.length_cons]
      omega

/-- The line that two searches find is the one that holds the place, with its number. -/
theorem faultyLine_eq (path : String) {bytes line : List UInt8} {index : ℕ}
    {before : List (List UInt8)} (h : Holds bytes index before line) :
    faultyLine path bytes index =
      ⟨path, before.length + 1, String.ofList (dropReturns (lossy line))⟩ := by
  obtain ⟨⟨after, hpieces⟩, hlow, hhigh⟩ := h
  have hnone : ∀ piece ∈ before ++ line :: after, ∀ byte ∈ piece, (byte == 10) = false := by
    intro piece member
    exact not_mem_of_mem_splitOnP (p := (· == 10)) (hpieces ▸ member)
  obtain ⟨tail, rfl, htail⟩ := eq_ended_append hpieces
  obtain ⟨k, rfl⟩ := Nat.exists_eq_add_of_le hlow
  have hk : k ≤ line.length := by omega
  have hline := hnone line (by simp)
  rw [faultyLine, lineStart_eq before hline hk, lineEnd_eq before hline hk htail, take_ended before hk,
    take_ended before (Nat.le_refl _), List.take_length, ← length_ended 10 before, List.drop_left,
    List.count_append, count_ended before fun piece member => hnone piece (by simp [member]),
    count_newline fun byte member => hline byte (List.mem_of_mem_take member), Nat.add_zero]

/-- Bytes that are not text are reported at the line that holds the first fault. -/
theorem ofBytes_of_not_text (path : String) {bytes : List UInt8} (h : ¬IsText bytes) :
    ∃ fault before line, FirstInvalid bytes fault.index ∧ Holds bytes fault.index before line ∧
      (∀ earlier ∈ before, IsText earlier) ∧ ¬IsText line ∧
      ofBytes path bytes = .error (.malformed
        ⟨path, before.length + 1, String.ofList (dropReturns (lossy line))⟩ (.notText fault)) := by
  obtain ⟨fault, before, line, hfault, hfirst, hholds, hbefore, hline⟩ := exists_holds h
  refine ⟨fault, before, line, hfirst, hholds, hbefore, hline, ?_⟩
  rw [ofBytes, hfault]
  simp only [faultyLine_eq path hholds]

end LogFile

end BenchLog
