import BenchLog.LogFile
import Mathlib.Data.List.Basic

/-!
# All lines of a file

The lines that carry a record are among all lines of a file (`LogFile.allLines`), which are numbered one
after the other. A text that ends in a line feed, or is empty, can be put in front of another one: the
lines of the other one follow, with numbers that go on (`Text.physicalLines_append_of_closed`).
-/

namespace BenchLog

namespace Text

/-- A text after which a new line begins: it is empty or ends in a line feed. -/
def Closed (text : List Char) : Prop := text = [] ∨ text.getLast? = some '\n'

theorem closed_iff {text : List Char} : Closed text ↔ text = [] ∨ ∃ body, text = body ++ ['\n'] := by
  rw [Closed, List.getLast?_eq_some_iff]

@[simp] theorem physicalLines_nil : physicalLines [] = [] := rfl

theorem physicalLines_append_of_closed {left : List Char} (h : Closed left) (right : List Char) :
    physicalLines (left ++ right) = physicalLines left ++ physicalLines right := by
  rcases closed_iff.mp h with rfl | ⟨body, rfl⟩
  · simp
  · have hleft := physicalLines_append body []
    rw [physicalLines_nil, List.append_nil] at hleft
    rw [hleft, List.append_assoc, List.singleton_append, physicalLines_append]

end Text

namespace LogFile

/-- Lines of a file, numbered one after the other. -/
def numbered (path : String) (first : Nat) (texts : List (List Char)) : List LogLine :=
  (texts.zipIdx first).map fun (text, number) => ⟨path, number, String.ofList text⟩

/-- All lines of a file, those without a record among them. -/
def allLines (file : LogFile) : List LogLine :=
  numbered file.path 1 (Text.physicalLines file.text.toList)

theorem numbered_append (path : String) (first : Nat) (left right : List (List Char)) :
    numbered path first (left ++ right) =
      numbered path first left ++ numbered path (first + left.length) right := by
  rw [numbered, List.zipIdx_append, List.map_append]
  rfl

/-- The lines that carry a record are those that are not ignored. -/
theorem lines_eq_filter (file : LogFile) :
    file.lines = file.allLines.filter fun line => !isIgnored line.text.toList := by
  rw [lines, allLines, numbered, List.filter_map, ← List.filterMap_eq_map, List.filterMap_filter]
  apply List.filterMap_congr
  rintro ⟨text, number⟩ -
  by_cases h : isIgnored text <;> simp [h]

end LogFile

end BenchLog
