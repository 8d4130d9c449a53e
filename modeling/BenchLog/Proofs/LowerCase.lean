import BenchLog.Proofs.Trimming
import BenchLog.Text.LowerCase
import Mathlib

/-!
# What lower case keeps

The lower form of a character that is no blank has no blanks, so that a trimmed text is still trimmed in lower
case (`Trimmed.lower`). Texts that differ in the case of ASCII letters alone are the same in lower case
(`lower_map_toLower`), trimmed or not: neither the blanks nor what the rule for the final sigma looks at
depends on that case.
-/

namespace BenchLog.Text

/-! ## No new blanks -/

/-- Code points with the property White_Space. -/
def blankRanges : RangeTable :=
  [(0x09, 0x0D), (0x20, 0x20), (0x85, 0x85), (0xA0, 0xA0), (0x1680, 0x1680), (0x2000, 0x200A),
   (0x2028, 0x2029), (0x202F, 0x202F), (0x205F, 0x205F), (0x3000, 0x3000)]

theorem isBlank_eq_contains (c : Char) : isBlank c = blankRanges.contains c := by
  rw [Bool.eq_iff_iff, RangeTable.contains_iff]
  simp only [isBlank, blankRanges, List.mem_cons, List.not_mem_nil, or_false, exists_eq_or_imp,
    exists_eq_left, Bool.or_eq_true, Bool.and_eq_true, decide_eq_true_eq, beq_iff_eq]
  omega

/-- Where the lower forms of a run lie, there are no blanks. -/
theorem lowerRuns_avoid_blankRanges : ∀ run ∈ lowerRuns, ∀ range ∈ blankRanges,
    run.last + run.shift < range.1 ∨ range.2 < run.first + run.shift := by
  decide +kernel

theorem not_isBlank_of_lower? {run : CaseRun} (hrun : run ∈ lowerRuns) {n : ℕ} {d : Char}
    (h : run.lower? n = some d) : isBlank d = false := by
  rw [CaseRun.lower?] at h
  split_ifs at h with hn
  obtain ⟨hfirst, hlast, -⟩ := hn
  cases h
  rw [isBlank_eq_contains, ← Bool.not_eq_true, RangeTable.contains_iff]
  rintro ⟨range, hrange, hlow, hhigh⟩
  have havoid := lowerRuns_avoid_blankRanges run hrun range hrange
  -- A number that is no code point gives the zero character, which is no blank.
  have hpositive : ∀ range ∈ blankRanges, 0 < range.1 := by decide
  have hzero := hpositive range hrange
  rw [Char.toNat_ofNat] at hlow hhigh
  split_ifs at hlow hhigh <;> omega

theorem not_isBlank_of_mem_lowerChar {c : Char} (h : isBlank c = false) :
    ∀ d ∈ lowerChar c, isBlank d = false := by
  intro d hd
  rw [lowerChar] at hd
  split_ifs at hd
  · rcases List.mem_pair.mp hd with rfl | rfl <;> decide
  · rw [List.mem_singleton.mp hd]
    cases hfound : lowerRuns.findSome? (·.lower? c.toNat) with
    | none => exact h
    | some e =>
        obtain ⟨run, hrun, hlower⟩ := List.exists_of_findSome?_eq_some hfound
        exact not_isBlank_of_lower? hrun hlower

theorem lowerChar_ne_nil (c : Char) : lowerChar c ≠ [] := by
  rw [lowerChar]
  split_ifs
  · exact List.cons_ne_nil _ _
  · exact List.cons_ne_nil _ _

/-- Every character has a lower form, which has no blanks unless the character is one. -/
theorem exists_lowerFrom_cons (before : List Char) (c : Char) (rest : List Char) :
    ∃ form, form ≠ [] ∧ (isBlank c = false → ∀ d ∈ form, isBlank d = false) ∧
      lowerFrom before (c :: rest) = form ++ lowerFrom (c :: before) rest := by
  refine ⟨_, ?_, ?_, rfl⟩
  · split_ifs
    · exact List.cons_ne_nil _ _
    · exact List.cons_ne_nil _ _
    · exact lowerChar_ne_nil c
  · intro hc
    split_ifs
    · exact List.forall_mem_singleton.mpr (by decide)
    · exact List.forall_mem_singleton.mpr (by decide)
    · exact not_isBlank_of_mem_lowerChar hc

theorem lowerFrom_ne_nil (before : List Char) {text : List Char} (h : text ≠ []) :
    lowerFrom before text ≠ [] := by
  cases text with
  | nil => exact absurd rfl h
  | cons c rest =>
      obtain ⟨form, hne, -, heq⟩ := exists_lowerFrom_cons before c rest
      rw [heq]
      exact List.append_ne_nil_of_left_ne_nil hne _

theorem not_isBlank_head_lowerFrom (before : List Char) {text : List Char}
    (h : ∀ c ∈ text.head?, isBlank c = false) :
    ∀ d ∈ (lowerFrom before text).head?, isBlank d = false := by
  intro d hd
  cases text with
  | nil => cases hd
  | cons c rest =>
      obtain ⟨form, hne, hform, heq⟩ := exists_lowerFrom_cons before c rest
      rw [heq, List.head?_append_of_ne_nil _ hne] at hd
      exact hform (h c rfl) d (List.mem_of_mem_head? hd)

theorem not_isBlank_last_lowerFrom (before : List Char) {text : List Char}
    (h : ∀ c ∈ text.getLast?, isBlank c = false) :
    ∀ d ∈ (lowerFrom before text).getLast?, isBlank d = false := by
  induction text generalizing before with
  | nil => exact fun _ hd => nomatch hd
  | cons c rest ih =>
      obtain ⟨form, -, hform, heq⟩ := exists_lowerFrom_cons before c rest
      rw [heq]
      intro d hd
      by_cases hrest : rest = []
      · subst hrest
        rw [lowerFrom, List.append_nil] at hd
        exact hform (h c rfl) d (List.mem_of_mem_getLast? hd)
      · rw [List.getLast?_append_of_ne_nil _ (lowerFrom_ne_nil _ hrest)] at hd
        refine ih (c :: before) (fun e he => h e ?_) d hd
        rw [← List.singleton_append, List.getLast?_append_of_ne_nil _ hrest]
        exact he

/-- Lower case puts no blanks at the ends of a text. -/
theorem Trimmed.lower {text : List Char} (h : Trimmed text) : Trimmed (lower text) where
  head := not_isBlank_head_lowerFrom [] h.head
  last := not_isBlank_last_lowerFrom [] h.last

/-! ## The case of ASCII letters -/

/-- What does not tell a capital ASCII letter from its lower form tells no character from its own. -/
theorem apply_toLower {α : Type} (f : Char → α)
    (h : ∀ i : Fin 26, f (Char.ofNat (65 + i)).toLower = f (Char.ofNat (65 + i))) (c : Char) :
    f c.toLower = f c := by
  by_cases hupper : c.isUpper = true
  · simp only [Char.isUpper, decide_eq_true_eq, ge_iff_le, UInt32.le_iff_toNat_le,
      Char.toNat_val] at hupper
    obtain ⟨hlow, hhigh⟩ := hupper
    have hfirst : 'A'.toNat = 65 := rfl
    have hlast : 'Z'.toNat = 90 := rfl
    have hletter := h ⟨c.toNat - 65, by omega⟩
    rwa [show 65 + (c.toNat - 65) = c.toNat by omega, Char.ofNat_toNat] at hletter
  · rw [Char.toLower_eq_of_not_isUpper hupper]

@[simp] theorem isBlank_toLower (c : Char) : isBlank c.toLower = isBlank c :=
  apply_toLower isBlank (by decide +kernel) c

@[simp] theorem isCased_toLower (c : Char) : isCased c.toLower = isCased c :=
  apply_toLower isCased (by decide +kernel) c

@[simp] theorem isCaseIgnorable_toLower (c : Char) : isCaseIgnorable c.toLower = isCaseIgnorable c :=
  apply_toLower isCaseIgnorable (by decide +kernel) c

@[simp] theorem lowerChar_toLower (c : Char) : lowerChar c.toLower = lowerChar c :=
  apply_toLower lowerChar (by decide +kernel) c

@[simp] theorem toLower_eq_sigma_iff (c : Char) : c.toLower = 'Σ' ↔ c = 'Σ' :=
  decide_eq_decide.mp (apply_toLower (fun c => decide (c = 'Σ')) (by decide +kernel) c)

@[simp] theorem cased?_map_toLower (neighbours : List Char) :
    cased? (neighbours.map Char.toLower) = cased? neighbours := by
  have hignorable : isCaseIgnorable ∘ Char.toLower = isCaseIgnorable := funext isCaseIgnorable_toLower
  have hcased : isCased ∘ Char.toLower = isCased := funext isCased_toLower
  rw [cased?, List.dropWhile_map, hignorable, List.head?_map, Option.map_map, hcased, cased?]

theorem lowerFrom_map_toLower (before text : List Char) :
    lowerFrom (before.map Char.toLower) (text.map Char.toLower) = lowerFrom before text := by
  induction text generalizing before with
  | nil => rfl
  | cons c rest ih =>
      have hrest := ih (c :: before)
      rw [List.map_cons] at hrest
      simp only [List.map_cons, lowerFrom, hrest, toLower_eq_sigma_iff, cased?_map_toLower,
        lowerChar_toLower]

/-- The case of ASCII letters is lost. -/
theorem lower_map_toLower (text : List Char) : lower (text.map Char.toLower) = lower text :=
  lowerFrom_map_toLower [] text

theorem Blank.map_toLower {gap : List Char} (h : Blank gap) : Blank (gap.map Char.toLower) := by
  intro c hc
  obtain ⟨d, hd, rfl⟩ := List.mem_map.mp hc
  rw [isBlank_toLower]
  exact h d hd

theorem Trimmed.map_toLower {text : List Char} (h : Trimmed text) : Trimmed (text.map Char.toLower) where
  head c hc := by
    rw [List.head?_map] at hc
    obtain ⟨d, hd, rfl⟩ := Option.map_eq_some_iff.mp hc
    rw [isBlank_toLower]
    exact h.head d hd
  last c hc := by
    rw [List.getLast?_map] at hc
    obtain ⟨d, hd, rfl⟩ := Option.map_eq_some_iff.mp hc
    rw [isBlank_toLower]
    exact h.last d hd

theorem trim_map_toLower (text : List Char) :
    trim (text.map Char.toLower) = (trim text).map Char.toLower := by
  obtain ⟨htrimmed, before, after, hbefore, hafter, htext⟩ := trim_eq_iff.mp (Eq.refl (trim text))
  refine trim_eq_iff.mpr ⟨htrimmed.map_toLower, _, _, hbefore.map_toLower, hafter.map_toLower, ?_⟩
  conv_lhs => rw [htext]
  rw [List.map_append, List.map_append]

end BenchLog.Text
