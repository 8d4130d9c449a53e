import BenchLog.Text.Blank

/-!
# Words and the blanks between them

A text is a layout of words if it consists of them in order, with blanks between any two and blanks or
nothing at the two ends (`Laid`). A text is a layout of its words and of no other ones (`laid_iff`), so
that what depends on the words alone does not depend on the blanks.
-/

namespace BenchLog.Text

/-- Nothing but blanks. -/
def Blank (text : List Char) : Prop := ∀ c ∈ text, isBlank c = true

/-- A word: at least one character, and none of them a blank. -/
def IsWord (text : List Char) : Prop := text ≠ [] ∧ ∀ c ∈ text, isBlank c = false

instance (text : List Char) : Decidable (Blank text) :=
  decidable_of_iff (text.all isBlank = true) List.all_eq_true

instance (text : List Char) : Decidable (IsWord text) :=
  decidable_of_iff (text ≠ [] ∧ text.all (!isBlank ·) = true) (by simp [IsWord])

/-- A text that does not go on with a word: it is at its end, or a blank comes first. -/
def Breaks (text : List Char) : Prop := ∀ c ∈ text.head?, isBlank c = true

/-- A text that consists of words, with blanks between any two of them. -/
inductive Laid : List (List Char) → List Char → Prop where
  | nil {gap : List Char} (hgap : Blank gap) : Laid [] gap
  | cons {gap word rest : List Char} {later : List (List Char)} (hgap : Blank gap)
      (hword : IsWord word) (hbreak : Breaks rest) (hrest : Laid later rest) :
      Laid (word :: later) (gap ++ word ++ rest)

/-- Texts in a row, with blanks between any two of them and nowhere else. -/
inductive Spaced : List (List Char) → List Char → Prop where
  | single (text : List Char) : Spaced [text] text
  | cons {text gap rest : List Char} {later : List (List Char)} (hgap : Blank gap) (hne : gap ≠ [])
      (hrest : Spaced later rest) : Spaced (text :: later) (text ++ gap ++ rest)

/-! ## The words of a layout -/

@[simp] theorem words_nil : words [] = [] := rfl

theorem words_append_blank (left : List Char) {c : Char} (hc : isBlank c = true) (right : List Char) :
    words (left ++ c :: right) = words left ++ words right := by
  rw [words, List.splitOnP_append_cons left right hc, List.filter_append]
  rfl

theorem words_append_of_blank {gap : List Char} (hgap : Blank gap) (text : List Char) :
    words (gap ++ text) = words text := by
  induction gap with
  | nil => rfl
  | cons c gap ih =>
      obtain ⟨hc, hrest⟩ := List.forall_mem_cons.mp hgap
      rw [List.cons_append, ← List.nil_append (c :: (gap ++ text)), words_append_blank [] hc, ih hrest]
      rfl

theorem words_of_word {word : List Char} (h : IsWord word) : words word = [word] := by
  rw [words, List.splitOnP_eq_singleton h.2]
  simp [h.1]

theorem words_append_of_breaks {word rest : List Char} (hword : IsWord word) (hbreak : Breaks rest) :
    words (word ++ rest) = word :: words rest := by
  cases rest with
  | nil => rw [List.append_nil, words_of_word hword, words_nil]
  | cons c rest =>
      have hc : isBlank c = true := hbreak c rfl
      rw [words_append_blank word hc, words_of_word hword, ← List.nil_append (c :: rest),
        words_append_blank [] hc]
      rfl

theorem Laid.words_eq {found : List (List Char)} {text : List Char} (h : Laid found text) :
    words text = found := by
  induction h with
  | nil hgap => exact words_eq_nil_of_blank hgap
  | cons hgap hword hbreak _ ih =>
      rw [List.append_assoc, words_append_of_blank hgap, words_append_of_breaks hword hbreak, ih]

/-! ## A layout for every text -/

theorem blank_nil : Blank [] := List.forall_mem_nil _

theorem breaks_nil : Breaks [] := fun _ hc => nomatch hc

theorem Blank.breaks_append {gap : List Char} (hgap : Blank gap) (hne : gap ≠ []) (rest : List Char) :
    Breaks (gap ++ rest) := by
  intro c hc
  cases gap with
  | nil => exact absurd rfl hne
  | cons d gap =>
      obtain rfl : d = c := Option.some.inj hc
      exact hgap d (List.mem_cons_self ..)

theorem Laid.append_blank {found : List (List Char)} {text gap : List Char} (hgap : Blank gap)
    (h : Laid found text) : Laid found (gap ++ text) := by
  cases h with
  | nil hrest => exact .nil (List.forall_mem_append.mpr ⟨hgap, hrest⟩)
  | cons hrest hword hbreak hlater =>
      rw [← List.append_assoc, ← List.append_assoc]
      exact .cons (List.forall_mem_append.mpr ⟨hgap, hrest⟩) hword hbreak hlater

/-- A character that is no blank is a word of its own, or the first one of the word that the text goes on
    with. -/
theorem Laid.exists_cons {found : List (List Char)} {text : List Char} (h : Laid found text) {c : Char}
    (hc : isBlank c = false) : ∃ other, Laid other (c :: text) := by
  have hword : IsWord [c] := ⟨by simp, by simpa using hc⟩
  cases h with
  | nil hgap =>
      have hbreak : Breaks text := fun d hd => hgap d (List.mem_of_mem_head? hd)
      exact ⟨_, Laid.cons blank_nil hword hbreak (.nil hgap)⟩
  | @cons gap first rest later hgap hfirst hbreak hrest =>
      by_cases hne : gap = []
      · subst hne
        have hlonger : IsWord (c :: first) :=
          ⟨List.cons_ne_nil _ _, List.forall_mem_cons.mpr ⟨hc, hfirst.2⟩⟩
        exact ⟨_, Laid.cons blank_nil hlonger hbreak hrest⟩
      · have hgaps : Breaks (gap ++ first ++ rest) := by
          rw [List.append_assoc]
          exact hgap.breaks_append hne _
        exact ⟨_, Laid.cons blank_nil hword hgaps (.cons hgap hfirst hbreak hrest)⟩

theorem exists_laid (text : List Char) : ∃ found, Laid found text := by
  induction text with
  | nil => exact ⟨[], .nil blank_nil⟩
  | cons c text ih =>
      obtain ⟨found, h⟩ := ih
      cases hc : isBlank c with
      | true =>
          have hgap : Blank [c] := by simpa [Blank] using hc
          exact ⟨found, h.append_blank hgap⟩
      | false => exact h.exists_cons hc

/-- A text is a layout of its words, and of nothing else. -/
theorem laid_iff {found : List (List Char)} {text : List Char} :
    Laid found text ↔ words text = found := by
  constructor
  · exact Laid.words_eq
  · rintro rfl
    obtain ⟨found, h⟩ := exists_laid text
    rwa [h.words_eq]

/-- Two layouts with blanks between them are one. -/
theorem Laid.append {found more : List (List Char)} {text gap rest : List Char} (h : Laid found text)
    (hgap : Blank gap) (hne : gap ≠ []) (hmore : Laid more rest) :
    Laid (found ++ more) (text ++ gap ++ rest) := by
  obtain ⟨c, gap, rfl⟩ := List.exists_cons_of_ne_nil hne
  obtain ⟨hc, htail⟩ := List.forall_mem_cons.mp hgap
  rw [laid_iff, List.append_assoc, List.cons_append, words_append_blank text hc,
    words_append_of_blank htail, h.words_eq, hmore.words_eq]

/-! ## Texts in a row -/

theorem Spaced.laid {found : List (List Char)} {text : List Char} (h : Spaced found text)
    (hwords : ∀ word ∈ found, IsWord word) : Laid found text := by
  induction h with
  | single text =>
      have hlaid := Laid.cons blank_nil (hwords text (by simp)) breaks_nil (.nil blank_nil)
      rwa [List.nil_append, List.append_nil] at hlaid
  | cons hgap hne _ ih =>
      obtain ⟨hword, hlater⟩ := List.forall_mem_cons.mp hwords
      rw [List.append_assoc]
      exact .cons blank_nil hword (hgap.breaks_append hne _) ((ih hlater).append_blank hgap)

theorem spaced_cons_iff {first text : List Char} {later : List (List Char)} (hlater : later ≠ []) :
    Spaced (first :: later) text ↔
      ∃ gap rest, Blank gap ∧ gap ≠ [] ∧ Spaced later rest ∧ text = first ++ gap ++ rest := by
  constructor
  · intro h
    cases h with
    | single => exact absurd rfl hlater
    | cons hgap hne hrest => exact ⟨_, _, hgap, hne, hrest, rfl⟩
  · rintro ⟨gap, rest, hgap, hne, hrest, rfl⟩
    exact .cons hgap hne hrest

/-- The last text of a row stands at its end, and another one can stand there. -/
theorem Spaced.exists_front {before : List (List Char)} {last text : List Char}
    (h : Spaced (before ++ [last]) text) :
    ∃ front, text = front ++ last ∧ ∀ other, Spaced (before ++ [other]) (front ++ other) := by
  induction before generalizing text with
  | nil =>
      cases h with
      | single => exact ⟨[], rfl, .single⟩
      | cons _ _ hrest => cases hrest
  | cons first before ih =>
      have hne (other : List Char) : before ++ [other] ≠ [] := by simp
      obtain ⟨gap, rest, hgap, hgap', hrest, rfl⟩ := (spaced_cons_iff (hne last)).mp h
      obtain ⟨front, rfl, hfront⟩ := ih hrest
      refine ⟨first ++ gap ++ front, by simp, fun other => ?_⟩
      exact (spaced_cons_iff (hne other)).mpr ⟨gap, _, hgap, hgap', hfront other, by simp⟩

theorem spaced_intercalate {gap : List Char} (hgap : Blank gap) (hne : gap ≠ []) (first : List Char)
    (later : List (List Char)) : Spaced (first :: later) (gap.intercalate (first :: later)) := by
  induction later generalizing first with
  | nil =>
      rw [List.intercalate_singleton]
      exact .single first
  | cons second later ih =>
      rw [List.intercalate_cons_cons]
      exact .cons hgap hne (ih second)

end BenchLog.Text
