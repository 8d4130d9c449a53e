import BenchLog.Duration
import BenchLog.Proofs.LiteralText
import BenchLog.Proofs.LowerCase

/-!
# The grammar of durations

A duration is read if and only if the text, trimmed and in lower case, is a literal or a literal with a unit
after it, with or without blanks between the two (`Duration.Reads`). The units are looked for one after the
other, and some end like others; still a text has one reading at most, since no literal ends like a unit
(`Duration.Counts.not_suffix_append`) and the one unit that ends like another comes first.
-/

namespace BenchLog

open Decimal Text

namespace Duration

/-! ## Units -/

/-- A unit and the seconds that it has. -/
inductive Counts : List Char → Float → Prop where
  | ms : Counts ['m', 's'] 0.001
  | s : Counts ['s'] 1
  | sec : Counts ['s', 'e', 'c'] 1
  | m : Counts ['m'] 60
  | min : Counts ['m', 'i', 'n'] 60
  | h : Counts ['h'] 3600
  | hr : Counts ['h', 'r'] 3600

variable {text number gap unit : List Char} {x seconds : Float}

theorem mem_units_iff : (⟨unit, seconds⟩ : Unit) ∈ units ↔ Counts unit seconds := by
  constructor
  · intro hmem
    simp only [units, List.mem_cons, List.not_mem_nil, or_false, Unit.mk.injEq] at hmem
    rcases hmem with ⟨rfl, rfl⟩ | ⟨rfl, rfl⟩ | ⟨rfl, rfl⟩ | ⟨rfl, rfl⟩ | ⟨rfl, rfl⟩ | ⟨rfl, rfl⟩ |
      ⟨rfl, rfl⟩ <;> constructor
  · intro hunit
    cases hunit <;> simp [units]

namespace Counts

/-- A text that ends in a digit, in a point or in a blank does not end in a unit. -/
theorem not_suffix_concat (hunit : Counts unit seconds) (front : List Char) {c : Char}
    (hc : c.isDigit = true ∨ c = '.' ∨ isBlank c = true) : ¬unit <:+ front ++ [c] := by
  rintro ⟨before, heq⟩
  have hne : unit ≠ [] := by cases hunit <;> exact List.cons_ne_nil _ _
  have hlast : unit.getLast? = some c := by
    rw [← List.getLast?_append_of_ne_nil before hne, heq, List.getLast?_concat]
  cases hunit <;> cases hlast <;> exact absurd hc (by decide)

theorem not_suffix_of_spells (hunit : Counts unit seconds) {word : String}
    (hword : word ∈ ["inf", "infinity", "nan"]) (hspells : Spells word text) : ¬unit <:+ text := by
  intro hsuffix
  have hnone : ∀ word ∈ ["inf", "infinity", "nan"], ∀ unit ∈ units,
      ¬unit.suffix.map Char.toLower <:+ word.toList := by
    decide +kernel
  refine hnone word hword _ (mem_units_iff.mpr hunit) ?_
  rw [← hspells]
  exact hsuffix.map Char.toLower

theorem not_suffix_of_writesMagnitude (hunit : Counts unit seconds) (hnumber : WritesMagnitude number x) :
    ¬unit <:+ number := by
  cases hnumber with
  | number hq _ =>
      obtain ⟨front, c, rfl, hc⟩ := hq.exists_concat
      exact hunit.not_suffix_concat front (hc.imp_right Or.inl)
  | infinity hname =>
      rcases hname with hname | hname
      · exact hunit.not_suffix_of_spells (by decide) hname
      · exact hunit.not_suffix_of_spells (by decide) hname
  | nan hname => exact hunit.not_suffix_of_spells (by decide) hname

theorem not_suffix_cons (hunit : Counts unit seconds) {sign : Char} (hsign : sign = '+' ∨ sign = '-')
    (hrest : ¬unit <:+ number) : ¬unit <:+ sign :: number := by
  intro hsuffix
  rcases List.suffix_cons_iff.mp hsuffix with heq | hsuffix
  · rcases hsign with rfl | rfl <;> cases hunit <;> cases heq
  · exact hrest hsuffix

/-- No literal ends in a unit. -/
theorem not_suffix_of_writesFloat (hunit : Counts unit seconds) (hnumber : WritesFloat number x) :
    ¬unit <:+ number := by
  cases hnumber with
  | plain hnumber => exact hunit.not_suffix_of_writesMagnitude hnumber
  | plus hnumber => exact hunit.not_suffix_cons (Or.inl rfl) (hunit.not_suffix_of_writesMagnitude hnumber)
  | minus hnumber => exact hunit.not_suffix_cons (Or.inr rfl) (hunit.not_suffix_of_writesMagnitude hnumber)

theorem not_suffix_append (hunit : Counts unit seconds) (hnumber : WritesFloat number x) (hgap : Blank gap) :
    ¬unit <:+ number ++ gap := by
  rcases List.eq_nil_or_concat gap with rfl | ⟨front, c, rfl⟩
  · rw [List.append_nil]
    exact hunit.not_suffix_of_writesFloat hnumber
  · rw [List.concat_eq_append] at hgap ⊢
    rw [← List.append_assoc]
    exact hunit.not_suffix_concat _ (Or.inr (Or.inr (hgap c (by simp))))

end Counts

/-! ## Taking the unit off -/

theorem split_eq_self (h : ∀ unit seconds, Counts unit seconds → ¬unit <:+ text) :
    split text = (text, 1) := by
  have hnone : (units.find? fun unit => unit.suffix.isSuffixOf text) = none := by
    rw [List.find?_eq_none]
    intro unit hunit hsuffix
    exact h _ _ (mem_units_iff.mp hunit) (List.isSuffixOf_iff_suffix.mp hsuffix)
  rw [split, hnone]

/-- The unit at the end is the one that is taken off. Only seconds could be taken for another unit, for
    milliseconds. -/
theorem split_append {front : List Char} (hunit : Counts unit seconds) (h : ¬['m'] <:+ front) :
    split (front ++ unit) = (front, seconds) := by
  have hm : ['m'].isSuffixOf front = false := Bool.eq_false_iff.mpr (mt List.isSuffixOf_iff_suffix.mp h)
  have hfind : (units.find? fun other => other.suffix.isSuffixOf (front ++ unit)) = some ⟨unit, seconds⟩ := by
    cases hunit <;> simp_all [units, List.find?, List.isSuffixOf, List.isPrefixOf]
  simp [split, hfind]

theorem split_cases (text : List Char) :
    (∃ unit, Counts unit (split text).2 ∧ text = (split text).1 ++ unit) ∨ split text = (text, 1) := by
  cases hfind : units.find? fun unit => unit.suffix.isSuffixOf text with
  | none => exact Or.inr (by rw [split, hfind])
  | some unit =>
      have hsuffix := List.find?_some hfind
      obtain ⟨front, rfl⟩ := List.isSuffixOf_iff_suffix.mp hsuffix
      refine Or.inl ⟨unit.suffix, ?_, ?_⟩
      · simpa [split, hfind] using mem_units_iff.mp (List.mem_of_find?_eq_some hfind)
      · simp [split, hfind]

/-! ## Readings -/

/-- A text taken apart: the number, and the blanks and the unit after it. Without a unit there is nothing
    after the number. -/
structure Reading where
  number : List Char
  gap : List Char
  unit : List Char

/-- A reading of a text, and the seconds that the text stands for. -/
inductive Reads : List Char → Reading → Float → Prop where
  | bare {number : List Char} {x : Float} (hnumber : WritesFloat number x) :
      Reads number ⟨number, [], []⟩ (x * 1)
  | measured {number gap unit : List Char} {x seconds : Float} (hnumber : WritesFloat number x)
      (hgap : Blank gap) (hunit : Counts unit seconds) :
      Reads (number ++ gap ++ unit) ⟨number, gap, unit⟩ (x * seconds)

variable {reading : Reading}

theorem trim_number (hnumber : WritesFloat number x) (hgap : Blank gap) : trim (number ++ gap) = number :=
  trim_eq_iff.mpr ⟨hnumber.isWord.trimmed, [], gap, blank_nil, hgap, rfl⟩

/-- Every reading is the one that is found by taking off the unit and then the blanks. -/
theorem Reads.exists_split (h : Reads text reading x) :
    text = reading.number ++ reading.gap ++ reading.unit ∧ ∃ value seconds,
      split text = (reading.number ++ reading.gap, seconds) ∧
      trim (reading.number ++ reading.gap) = reading.number ∧
      WritesFloat reading.number value ∧ x = value * seconds := by
  cases h with
  | bare hnumber =>
      have hsplit := split_eq_self fun _ _ hunit => hunit.not_suffix_of_writesFloat hnumber
      have htrim := trim_number hnumber blank_nil
      refine ⟨by simp, _, _, ?_, htrim, hnumber, rfl⟩
      rwa [List.append_nil]
  | measured hnumber hgap hunit =>
      have hm := Counts.m.not_suffix_append hnumber hgap
      exact ⟨rfl, _, _, split_append hunit hm, trim_number hnumber hgap, hnumber, rfl⟩

/-- A text has one reading at most. -/
theorem Reads.unique (h : Reads text reading x) {other : Reading} {y : Float}
    (hother : Reads text other y) : reading = other ∧ x = y := by
  obtain ⟨htext, value, seconds, hsplit, htrim, hvalue, rfl⟩ := h.exists_split
  obtain ⟨htext', value', seconds', hsplit', htrim', hvalue', rfl⟩ := hother.exists_split
  obtain ⟨number, gap, unit⟩ := reading
  obtain ⟨number', gap', unit'⟩ := other
  dsimp only at *
  obtain ⟨hfront, rfl⟩ := Prod.mk.inj (hsplit.symm.trans hsplit')
  rw [hfront, htrim'] at htrim
  subst htrim
  obtain rfl := List.append_cancel_left hfront
  obtain rfl := List.append_cancel_left (htext.symm.trans htext')
  have hread := readFloat_eq_ok_iff.mpr hvalue
  rw [readFloat_eq_ok_iff.mpr hvalue'] at hread
  cases hread
  exact ⟨rfl, rfl⟩

theorem read_eq_ok_iff :
    read text = .ok x ↔ ∃ value, readFloat (trim (split (lower (trim text))).1) = .ok value ∧
      x = value * (split (lower (trim text))).2 := by
  unfold read
  dsimp only
  cases readFloat (trim (split (lower (trim text))).1) with
  | ok value => simp [eq_comm]
  | error fault => simp

/-- A text that is trimmed and in lower case is read as its reading says. -/
theorem exists_reads_iff (htrimmed : Trimmed text) : (∃ reading, Reads text reading x) ↔
    ∃ value, readFloat (trim (split text).1) = .ok value ∧ x = value * (split text).2 := by
  constructor
  · rintro ⟨reading, h⟩
    obtain ⟨-, value, seconds, hsplit, htrim, hvalue, rfl⟩ := h.exists_split
    rw [hsplit, htrim]
    exact ⟨value, readFloat_eq_ok_iff.mpr hvalue, rfl⟩
  · rintro ⟨value, hread, rfl⟩
    have hvalue := readFloat_eq_ok_iff.mp hread
    rcases split_cases text with ⟨unit, hunit, htext⟩ | hsplit
    · have hpart : Trimmed ((split text).1 ++ unit) := by rwa [← htext]
      obtain ⟨gap, hgap, hfront⟩ := hpart.exists_gap
      have hreads := Reads.measured hvalue hgap hunit
      rw [← hfront, ← htext] at hreads
      exact ⟨_, hreads⟩
    · rw [hsplit, htrimmed.trim_eq] at hvalue
      rw [hsplit]
      exact ⟨_, .bare hvalue⟩

theorem read_congr {other : List Char} (h : lower (trim text) = lower (trim other)) :
    read text = read other := by
  rw [read, h, read]

/-- A text is read if and only if it has a reading once trimmed and in lower case, which is then the only one,
    and it is read as what the reading says. The case of ASCII letters and the blanks around the text make no
    difference, to the fault of a text that is not read as little as to the seconds of another one. -/
theorem read_grammar (text : List Char) :
    (∀ x, read text = .ok x ↔ ∃ reading, Reads (lower (trim text)) reading x) ∧
    (∀ reading other x y, Reads (lower (trim text)) reading x → Reads (lower (trim text)) other y →
      reading = other ∧ x = y) ∧
    (∀ other : List Char, other.map Char.toLower = text.map Char.toLower → read other = read text) ∧
    ∀ before after, Blank before → Blank after → read (before ++ text ++ after) = read text := by
  refine ⟨fun x => ?_, fun _ _ _ _ h hother => h.unique hother, fun other hcase => ?_, ?_⟩
  · rw [read_eq_ok_iff, exists_reads_iff (trimmed_trim text).lower]
  · apply read_congr
    rw [← lower_map_toLower, ← trim_map_toLower, hcase, trim_map_toLower, lower_map_toLower]
  · intro before after hbefore hafter
    apply read_congr
    rw [trim_append hbefore hafter]

/-- Milliseconds, which end like seconds: the one reading of the text has milliseconds for its unit. -/
theorem read_grammar_milliseconds :
    (∃ reading, Reads (lower (trim "1.5E0 Ms".toList)) reading (1.5 * 0.001)) ∧
    (∀ reading y, Reads (lower (trim "1.5E0 Ms".toList)) reading y →
      reading = ⟨"1.5e0".toList, [' '], ['m', 's']⟩ ∧ y = 1.5 * 0.001) ∧
    read "1.5e0 mS".toList = .ok (1.5 * 0.001) ∧
    read (['\t'] ++ "1.5E0 Ms".toList ++ ['\n', ' ']) = .ok (1.5 * 0.001) := by
  obtain ⟨hread, hunique, hcase, hblank⟩ := read_grammar "1.5E0 Ms".toList
  have hnumber : WritesFloat "1.5e0".toList 1.5 := by
    have hvalue : (readFloat "1.5e0".toList).toOption = some 1.5 := by decide +kernel
    exact readFloat_eq_ok_iff.mp (Loop.toOption_eq_some_iff.mp hvalue)
  have htext : lower (trim "1.5E0 Ms".toList) = "1.5e0".toList ++ [' '] ++ ['m', 's'] := by decide +kernel
  have hreads := Reads.measured hnumber (show Blank [' '] by decide) .ms
  rw [← htext] at hreads
  have hok := (hread _).mpr ⟨_, hreads⟩
  refine ⟨⟨_, hreads⟩, fun reading y h => hunique _ _ _ _ h hreads, ?_, ?_⟩
  · rw [hcase "1.5e0 mS".toList (by decide +kernel), hok]
  · rw [hblank ['\t'] ['\n', ' '] (by decide) (by decide), hok]

end Duration

end BenchLog
