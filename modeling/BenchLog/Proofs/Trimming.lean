import BenchLog.Proofs.Words
import Mathlib.Data.List.DropRight

/-!
# Texts without blanks at their ends

Trimming takes the blanks off the two ends of a text and leaves the rest: what is left is the part between
two gaps that does not begin or end with a blank itself (`trim_eq_iff`), and there is only one.
-/

namespace BenchLog.Text

/-- No blank stands at either end. -/
structure Trimmed (text : List Char) : Prop where
  head : ∀ c ∈ text.head?, isBlank c = false
  last : ∀ c ∈ text.getLast?, isBlank c = false

variable {text gap : List Char}

theorem trimEnd_append (hgap : Blank gap) (hlast : ∀ c ∈ text.getLast?, isBlank c = false) :
    trimEnd (text ++ gap) = text := by
  have hreverse : ∀ c ∈ gap.reverse, isBlank c = true := fun c hc => hgap c (List.mem_reverse.mp hc)
  rw [trimEnd, List.reverse_append, List.dropWhile_append_of_pos hreverse]
  refine List.rdropWhile_eq_self_iff.mpr fun hne => ?_
  rw [hlast _ (List.getLast_mem_getLast? hne)]
  exact Bool.false_ne_true

theorem exists_trimEnd (text : List Char) : ∃ gap, Blank gap ∧ trimEnd text ++ gap = text ∧
    ∀ c ∈ (trimEnd text).getLast?, isBlank c = false := by
  refine ⟨text.rtakeWhile isBlank, fun c => List.mem_rtakeWhile_imp,
    List.rdropWhile_append_rtakeWhile, fun c hc => ?_⟩
  obtain ⟨hne, rfl⟩ := List.mem_getLast?_eq_getLast hc
  exact Bool.eq_false_iff.mpr (List.rdropWhile_last_not isBlank text hne)

theorem IsWord.trimmed (h : IsWord text) : Trimmed text where
  head c hc := h.2 c (List.mem_of_mem_head? hc)
  last c hc := h.2 c (List.mem_of_mem_getLast? hc)

theorem exists_dropWhile (text : List Char) : ∃ gap, Blank gap ∧ gap ++ text.dropWhile isBlank = text ∧
    ∀ c ∈ (text.dropWhile isBlank).head?, isBlank c = false := by
  refine ⟨text.takeWhile isBlank, fun c hc => List.mem_takeWhile_imp hc,
    List.takeWhile_append_dropWhile, fun c hc => ?_⟩
  have hnot := List.head?_dropWhile_not isBlank text
  rw [Option.mem_def.mp hc] at hnot
  exact hnot

theorem dropWhile_append {later : List Char} (hgap : Blank gap)
    (hhead : ∀ c ∈ later.head?, isBlank c = false) : (gap ++ later).dropWhile isBlank = later := by
  rw [List.dropWhile_append_of_pos hgap]
  cases later with
  | nil => rfl
  | cons c later => rw [List.dropWhile_cons_of_neg (by rw [hhead c rfl]; exact Bool.false_ne_true)]

/-- What trimming leaves is the part between two gaps that has no blanks at its ends. -/
theorem trim_eq_iff {body : List Char} : trim text = body ↔
    Trimmed body ∧ ∃ before after, Blank before ∧ Blank after ∧ text = before ++ body ++ after := by
  constructor
  · rintro rfl
    obtain ⟨before, hbefore, htext, hhead⟩ := exists_dropWhile text
    obtain ⟨after, hafter, hrest, hlast⟩ := exists_trimEnd (text.dropWhile isBlank)
    rw [trim]
    refine ⟨⟨fun c hc => hhead c ?_, hlast⟩, before, after, hbefore, hafter, ?_⟩
    · rw [← hrest, List.head?_append_of_ne_nil _ (List.ne_nil_of_mem (List.mem_of_mem_head? hc))]
      exact hc
    · rw [List.append_assoc, hrest, htext]
  · rintro ⟨htrimmed, before, after, hbefore, hafter, rfl⟩
    rw [trim, List.append_assoc]
    by_cases hbody : body = []
    · -- All of the text is blank, and the first step leaves nothing.
      subst hbody
      have hblank : Blank (before ++ ([] ++ after)) := List.forall_mem_append.mpr ⟨hbefore, hafter⟩
      rw [List.dropWhile_eq_nil_iff.mpr hblank]
      rfl
    · have hhead : ∀ c ∈ (body ++ after).head?, isBlank c = false := by
        rw [List.head?_append_of_ne_nil _ hbody]
        exact htrimmed.head
      rw [dropWhile_append hbefore hhead, trimEnd_append hafter htrimmed.last]

theorem trimmed_trim (text : List Char) : Trimmed (trim text) := (trim_eq_iff.mp rfl).1

theorem Trimmed.trim_eq (h : Trimmed text) : trim text = text :=
  trim_eq_iff.mpr ⟨h, [], [], blank_nil, blank_nil, (List.append_nil _).symm⟩

/-- In front of a trimmed text no blank is taken off, not even off a part of it. -/
theorem Trimmed.exists_gap {front later : List Char} (h : Trimmed (front ++ later)) :
    ∃ gap, Blank gap ∧ front = trim front ++ gap := by
  obtain ⟨-, before, gap, hbefore, hgap, hfront⟩ := trim_eq_iff.mp (Eq.refl (trim front))
  cases before with
  | nil => exact ⟨gap, hgap, hfront⟩
  | cons c before =>
      have hc := h.head c (by rw [hfront]; rfl)
      rw [hbefore c (List.mem_cons_self ..)] at hc
      cases hc

/-- Blanks around a text make no difference. -/
theorem trim_append {before after : List Char} (hbefore : Blank before) (hafter : Blank after) :
    trim (before ++ text ++ after) = trim text := by
  obtain ⟨htrimmed, front, back, hfront, hback, htext⟩ := trim_eq_iff.mp (Eq.refl (trim text))
  refine trim_eq_iff.mpr ⟨htrimmed, before ++ front, back ++ after,
    List.forall_mem_append.mpr ⟨hbefore, hfront⟩, List.forall_mem_append.mpr ⟨hback, hafter⟩, ?_⟩
  conv_lhs => rw [htext]
  simp only [List.append_assoc]

end BenchLog.Text
