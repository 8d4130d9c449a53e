/-!
# Blank characters and words

Blank are the characters with the property White_Space. Words are the maximal runs of other characters.
-/

namespace BenchLog.Text

/-- A character of white space: line and page controls, the space, the no-break spaces, the typographic
    spaces and the two separators of lines and paragraphs. -/
def isBlank (c : Char) : Bool :=
  let n := c.toNat
  (0x09 ≤ n && n ≤ 0x0D) || n == 0x20 || n == 0x85 || n == 0xA0 || n == 0x1680 ||
    (0x2000 ≤ n && n ≤ 0x200A) || n == 0x2028 || n == 0x2029 || n == 0x202F || n == 0x205F ||
    n == 0x3000

/-- The text without the blanks at its end. -/
def trimEnd (text : List Char) : List Char :=
  (text.reverse.dropWhile isBlank).reverse

/-- The text without the blanks at its two ends. -/
def trim (text : List Char) : List Char :=
  trimEnd (text.dropWhile isBlank)

/-- The maximal runs of characters that are not blank. -/
def words (text : List Char) : List (List Char) :=
  (text.splitOnP isBlank).filter (!·.isEmpty)

theorem words_eq_nil_of_blank {text : List Char} (h : ∀ c ∈ text, isBlank c = true) :
    words text = [] := by
  induction text with
  | nil => rfl
  | cons c rest ih =>
    have blank := h c (by simp)
    have tail := ih fun d hd => h d (by simp [hd])
    simpa [words, List.splitOnP_cons_eq_if_modifyHead, blank] using tail

end BenchLog.Text
