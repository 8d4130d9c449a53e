/-!
# Texts in columns

Widths count characters. A text that is too wide for its column is kept whole.
-/

namespace BenchLog.Text

/-- The text and then as many spaces as the column has left. -/
def alignLeft (width : Nat) (text : String) : String :=
  text ++ String.ofList (List.replicate (width - text.length) ' ')

/-- As many spaces as the column has left and then the text. -/
def alignRight (width : Nat) (text : String) : String :=
  String.ofList (List.replicate (width - text.length) ' ') ++ text

/-- The text in the middle of the column; an odd space goes to the right. -/
def centre (width : Nat) (text : String) : String :=
  let spaces := width - text.length
  String.ofList (List.replicate (spaces / 2) ' ') ++ text ++
    String.ofList (List.replicate (spaces - spaces / 2) ' ')

end BenchLog.Text
