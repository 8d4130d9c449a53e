/-!
# Physical lines

A line ends at a line feed, and one carriage return right before the line feed belongs to the ending.
What follows the last line feed is a line too unless it is empty; it has no ending, so it keeps its
carriage return.
-/

namespace BenchLog.Text

/-- The text without one carriage return at its end. -/
def dropReturn (text : List Char) : List Char :=
  if text.getLast? = some '\r' then text.dropLast else text

/-- The text without all carriage returns at its end. -/
def dropReturns (text : List Char) : List Char :=
  (text.reverse.dropWhile (· == '\r')).reverse

/-- The lines of a text, without their endings. -/
def physicalLines (text : List Char) : List (List Char) :=
  let found := text.splitOnP (· == '\n')
  found.dropLast.map dropReturn ++ found.getLast?.toList.filter (!·.isEmpty)

/-- A text that ends in a line feed can be put in front of another one: the lines follow each other. -/
theorem physicalLines_append (left right : List Char) :
    physicalLines (left ++ '\n' :: right) =
      (left.splitOnP (· == '\n')).map dropReturn ++ physicalLines right := by
  have cut : (left ++ '\n' :: right).splitOnP (· == '\n') =
      left.splitOnP (· == '\n') ++ right.splitOnP (· == '\n') :=
    List.splitOnP_append_cons left right (by decide)
  have found := List.splitOnP_ne_nil (· == '\n') right
  have last : (left.splitOnP (· == '\n') ++ right.splitOnP (· == '\n')).getLast? =
      (right.splitOnP (· == '\n')).getLast? := by
    rw [List.getLast?_append, List.getLast?_eq_some_getLast found, Option.some_or]
  simp only [physicalLines, cut, last, List.dropLast_append_of_ne_nil found, List.map_append,
    List.append_assoc]

end BenchLog.Text
