import BenchLog.Proofs.JsonReading
import BenchLog.Proofs.Loop

/-!
# Reading a CSV document back

`Csv.Reader` takes a document apart character by character: commas end fields, line feeds end rows, and a
field may stand between quotes, where a quote is written twice. What a cell holds is a statement about the
reader alone (`Csv.Reader.Holds`), and a row holds what its cells hold, one after the other
(`Csv.Reader.foldlM_row`).
-/

namespace BenchLog

/-- Whether the value is neither an array nor a record. -/
def Json.isScalar : Json → Bool
  | .array _ => false
  | .object _ => false
  | _ => true

namespace Csv

/-! ## The reader -/

/-- Where a reader stands in a field: before it, inside it, or behind a quote that is either the last
    character of the field or the first of two. -/
inductive Reader.Place where
  | start
  | unquoted
  | quoted
  | quoteInQuoted
  deriving DecidableEq

/-- What a reader has read: a part of a field, the fields before it, and the rows before those. -/
structure Reader where
  place : Reader.Place
  field : List Char
  row : List String
  rows : List (List String)
  deriving DecidableEq

namespace Reader

/-- The field goes on. -/
def put (reader : Reader) (place : Place) (c : Char) : Reader :=
  { reader with place := place, field := reader.field ++ [c] }

/-- The row goes on with another field. -/
def endField (reader : Reader) : Reader where
  place := .start
  field := []
  row := reader.row ++ [String.ofList reader.field]
  rows := reader.rows

/-- The row ends with the field. -/
def endRow (reader : Reader) : Reader where
  place := .start
  field := []
  row := []
  rows := reader.rows ++ [reader.row ++ [String.ofList reader.field]]

/-- A character that is no quote, outside quotes. -/
def outside (reader : Reader) (c : Char) : Reader :=
  if c = ',' then reader.endField
  else if c = '\n' then reader.endRow
  else reader.put .unquoted c

/-- One character; a quote inside an unquoted field is none, and neither is text behind a closing quote. -/
def step (reader : Reader) (c : Char) : Option Reader :=
  match reader.place with
  | .start =>
    if c = '"' then some { reader with place := .quoted } else some (reader.outside c)
  | .unquoted =>
    if c = '"' then none else some (reader.outside c)
  | .quoted =>
    if c = '"' then some { reader with place := .quoteInQuoted } else some (reader.put .quoted c)
  | .quoteInQuoted =>
    if c = '"' then some (reader.put .quoted c)
    else if c = ',' ∨ c = '\n' then some (reader.outside c)
    else none

/-- The rows of a document; the last one ends in a line feed as well. -/
def read (text : String) : Option (List (List String)) := do
  let last ← text.toList.foldlM step ⟨.start, [], [], []⟩
  if last.place = .start ∧ last.row = [] then some last.rows else none

end Reader

/-- The text that a cell stands for: a text is that text, and every other value is written as in JSON,
    but for the null value. -/
def content : Json → String
  | .null => ""
  | .text value => value
  | value => value.line

/-- A text that can stand in a row without quotes. -/
def IsPlain (text : List Char) : Prop :=
  ∀ c ∈ text, c ≠ ',' ∧ c ≠ '"' ∧ c ≠ '\n'

variable {text encoded : List Char} {row : List String} {rows : List (List String)}

theorem needsQuotes_eq_false_iff : needsQuotes text = false ↔ IsPlain text := by
  simp [needsQuotes, IsPlain, and_assoc]

/-! ## Bare values -/

/-- Characters of a class that has neither a separator nor a quote. -/
theorem isPlain_of_forall {isMember : Char → Bool} (hcomma : isMember ',' = false)
    (hquote : isMember '"' = false) (hfeed : isMember '\n' = false)
    (h : ∀ c ∈ text, isMember c = true) : IsPlain text := by
  intro c hc
  have hmember := h c hc
  refine ⟨?_, ?_, ?_⟩
  · intro heq
    rw [heq, hcomma] at hmember
    cases hmember
  · intro heq
    rw [heq, hquote] at hmember
    cases hmember
  · intro heq
    rw [heq, hfeed] at hmember
    cases hmember

theorem number_line_ne_null (number : Json.Number) : (Json.number number).line ≠ "null" := by
  intro h
  have hnumeral := number.isNumeral_write
  rw [← Json.line_number, h] at hnumeral
  exact hnumeral.not_mem (c := 'n') rfl (by simp)

/-- A bare value has the same text in a cell as in JSON, but for the null value. -/
theorem content_of_isBare {value : Json} (h : value.isBare = true) :
    content value = if value.line = "null" then "" else value.line := by
  cases value with
  | null => simp [content, Json.line, Json.write]
  | bool value => cases value <;> simp [content, Json.line, Json.write]
  | number value => rw [if_neg (number_line_ne_null value), content] <;> simp
  | _ => cases h

theorem isPlain_content {value : Json} (h : value.isBare = true) : IsPlain (content value).toList := by
  rw [content_of_isBare h]
  split
  · simp [IsPlain]
  · exact isPlain_of_forall rfl rfl rfl fun c hc => Json.isWord_of_mem_line h hc

/-- The cell of a bare value needs no quotes. -/
theorem cell_of_isBare {value : Json} (h : value.isBare = true) :
    cell value = .ok (content value) := by
  cases value with
  | null => rfl
  | bool value => cases value <;> simp [cell, content, Json.line, Json.write]
  | number value => rw [cell, content, Json.line_number] <;> simp
  | _ => cases h

/-! ## Cells -/

namespace Reader

theorem foldlM_plain (h : IsPlain text) (field : List Char) :
    text.foldlM step ⟨.unquoted, field, row, rows⟩ =
      some ⟨.unquoted, field ++ text, row, rows⟩ := by
  apply Loop.foldlM_collect fun field => Reader.mk .unquoted field row rows
  intro c hc field
  obtain ⟨hcomma, hquote, hfeed⟩ := h c hc
  simp [step, outside, put, hcomma, hquote, hfeed]

theorem foldlM_doubleQuotes (text field : List Char) :
    (doubleQuotes text).foldlM step ⟨.quoted, field, row, rows⟩ =
      some ⟨.quoted, field ++ text, row, rows⟩ := by
  induction text generalizing field with
  | nil => simp [doubleQuotes]
  | cons c text ih =>
      have hcons : (if c = '"' then ['"', '"'] else [c]).foldlM step ⟨.quoted, field, row, rows⟩ =
          some ⟨.quoted, field ++ [c], row, rows⟩ := by
        by_cases hquote : c = '"'
        · simp [hquote, step, put]
        · simp [hquote, step, put]
      have htext := ih (field ++ [c])
      rw [doubleQuotes] at htext
      rw [doubleQuotes, List.flatMap_cons, Loop.foldlM_append_of_eq_some hcons]
      simpa using htext

/-- Reading what stands for a text at the start of a field leaves the reader with that text and ready for
    the end of the field. -/
def Holds (encoded text : List Char) : Prop :=
  ∀ row rows, ∃ place, place ≠ .quoted ∧
    encoded.foldlM step ⟨.start, [], row, rows⟩ = some ⟨place, text, row, rows⟩

theorem holds_of_isPlain (h : IsPlain text) : Holds text text := by
  intro row rows
  cases text with
  | nil => exact ⟨.start, by simp, rfl⟩
  | cons c text =>
      obtain ⟨⟨hcomma, hquote, hfeed⟩, htext⟩ := List.forall_mem_cons.mp h
      have hstep : step ⟨.start, [], row, rows⟩ c = some ⟨.unquoted, [c], row, rows⟩ := by
        simp [step, outside, put, hcomma, hquote, hfeed]
      refine ⟨.unquoted, by simp, ?_⟩
      rw [List.foldlM_cons, hstep]
      exact foldlM_plain htext [c]

theorem holds_escape (text : List Char) : Holds (escape text) text := by
  cases hquotes : needsQuotes text with
  | false =>
      rw [escape, hquotes]
      exact holds_of_isPlain (needsQuotes_eq_false_iff.mp hquotes)
  | true =>
      intro row rows
      refine ⟨.quoteInQuoted, by simp, ?_⟩
      have hopen : step ⟨.start, [], row, rows⟩ '"' = some ⟨.quoted, [], row, rows⟩ := rfl
      rw [escape, if_pos hquotes, List.cons_append, List.foldlM_cons, hopen]
      show (doubleQuotes text ++ ['"']).foldlM step ⟨.quoted, [], row, rows⟩ = _
      rw [Loop.foldlM_append_of_eq_some (foldlM_doubleQuotes text [])]
      rfl

theorem holds_cell {value : Json} {written : String} (h : cell value = .ok written) :
    Holds written.toList (content value).toList := by
  by_cases hbare : value.isBare = true
  · rw [cell_of_isBare hbare] at h
    cases h
    exact holds_of_isPlain (isPlain_content hbare)
  · cases value with
    | text value =>
        cases h
        rw [String.toList_ofList]
        exact holds_escape value.toList
    | array items => cases h
    | object members => cases h
    | _ => exact absurd rfl hbare

/-! ## Rows -/

/-- The field ends behind the cell, and so does the row if a line feed stands there. -/
theorem Holds.foldlM_end (h : Holds encoded text) {c : Char} (hc : c = ',' ∨ c = '\n')
    (row : List String) (rows : List (List String)) :
    (encoded ++ [c]).foldlM step ⟨.start, [], row, rows⟩ =
      some (outside ⟨.start, text, row, rows⟩ c) := by
  obtain ⟨place, hplace, hfold⟩ := h row rows
  have hquote : c ≠ '"' := by
    cases hc with
    | inl hcomma => simp [hcomma]
    | inr hfeed => simp [hfeed]
  have hstep : step ⟨place, text, row, rows⟩ c = some (outside ⟨place, text, row, rows⟩ c) := by
    cases place with
    | quoted => exact absurd rfl hplace
    | _ => simp [step, hquote, hc]
  have houtside : outside ⟨place, text, row, rows⟩ c = outside ⟨.start, text, row, rows⟩ c := by
    cases hc with
    | inl hcomma => simp [outside, endField, hcomma]
    | inr hfeed => simp [outside, endRow, hfeed]
  rw [Loop.foldlM_append_of_eq_some hfold, List.foldlM_cons, hstep, houtside]
  rfl

/-- A row is read from cell to cell. -/
theorem foldlM_row {cells texts : List String} (hne : cells ≠ [])
    (h : List.Forall₂ (fun cell text => Holds cell.toList text.toList) cells texts)
    (row : List String) (rows : List (List String)) :
    ((",".intercalate cells).toList ++ ['\n']).foldlM step ⟨.start, [], row, rows⟩ =
      some ⟨.start, [], [], rows ++ [row ++ texts]⟩ := by
  rw [String.toList_intercalate]
  induction h generalizing row with
  | nil => exact absurd rfl hne
  | @cons cell text cells texts hcell hcells ih =>
      cases hcells with
      | nil => simpa [outside, endRow] using hcell.foldlM_end (.inr rfl) row rows
      | @cons next text' cells texts hnext hcells =>
          have htail := ih (by simp) (row ++ [text])
          have hcomma : (cell.toList ++ [',']).foldlM step ⟨.start, [], row, rows⟩ =
              some ⟨.start, [], row ++ [text], rows⟩ := by
            simpa [outside, endField] using hcell.foldlM_end (.inl rfl) row rows
          have hsplit : [','].intercalate ((cell :: next :: cells).map String.toList) ++ ['\n'] =
              (cell.toList ++ [',']) ++
                ([','].intercalate ((next :: cells).map String.toList) ++ ['\n']) := by
            simp [List.intercalate_cons_cons]
          rw [show ",".toList = [','] from rfl] at htail ⊢
          rw [hsplit, Loop.foldlM_append_of_eq_some hcomma]
          simpa using htail

/-- Two rows are read one after the other. -/
theorem read_rows {header cells names texts : List String} (hheader : header ≠ []) (hcells : cells ≠ [])
    (hnames : List.Forall₂ (fun cell text => Holds cell.toList text.toList) header names)
    (htexts : List.Forall₂ (fun cell text => Holds cell.toList text.toList) cells texts) :
    read (",".intercalate header ++ "\n" ++ ",".intercalate cells ++ "\n") = some [names, texts] := by
  have hfirst := foldlM_row hheader hnames [] []
  have hsecond := foldlM_row hcells htexts [] [names]
  have hsplit : (",".intercalate header ++ "\n" ++ ",".intercalate cells ++ "\n").toList =
      ((",".intercalate header).toList ++ ['\n']) ++ ((",".intercalate cells).toList ++ ['\n']) := by
    simp only [String.toList_append, List.append_assoc]
    rfl
  rw [read, hsplit, Loop.foldlM_append_of_eq_some hfirst]
  rw [List.nil_append, List.nil_append, hsecond]
  rfl

example : read "a,b\n\"x,\"\"y\",\n" = some [["a", "b"], ["x,\"y", ""]] := by decide +kernel

end Reader

/-! ## Documents -/

theorem exists_cell_iff {value : Json} :
    (∃ written, cell value = .ok written) ↔ value.isScalar = true := by
  cases value with
  | null => simp [cell, Json.isScalar]
  | bool value => simp [cell, Json.isScalar]
  | number value => simp [cell, Json.isScalar]
  | text value => simp [cell, Json.isScalar]
  | array items => simp [cell, Json.isScalar]
  | object members => simp [cell, Json.isScalar]

theorem exists_document_iff {value : Json} :
    (∃ text, document value = .ok text) ↔
      ∃ members, value = .object members ∧ ∀ member ∈ members, member.2.isScalar = true := by
  cases value with
  | object members =>
      simp only [Json.object.injEq, exists_eq_left', ← exists_cell_iff,
        ← Loop.exists_mapM_eq_ok_iff, document, Loop.bind_eq_ok_iff]
      constructor
      · intro h
        obtain ⟨text, cells, hcells, -⟩ := h
        exact ⟨cells, hcells⟩
      · intro h
        obtain ⟨cells, hcells⟩ := h
        exact ⟨_, cells, hcells, rfl⟩
  | _ => simp [document]

/-- The header of a document holds the names, and the row below holds what the values are. -/
theorem read_document {members : List (String × Json)} {text : String} (hne : members ≠ [])
    (hnames : ∀ member ∈ members, IsPlain member.1.toList)
    (h : document (.object members) = .ok text) :
    Reader.read text =
      some [members.map Prod.fst, members.map fun member => content member.2] := by
  obtain ⟨cells, hcells, htext⟩ := Loop.bind_eq_ok_iff.mp h
  cases htext
  have hforall := Loop.mapM_eq_ok_iff.mp hcells
  have hlength := hforall.length_eq
  have hcellsne : cells ≠ [] := by
    intro hnil
    rw [hnil, List.length_nil, List.length_eq_zero_iff] at hlength
    exact hne hlength
  refine Reader.read_rows (by simpa using hne) hcellsne ?_ ?_
  · rw [List.forall₂_same]
    intro name hname
    obtain ⟨member, hmember, rfl⟩ := List.mem_map.mp hname
    exact Reader.holds_of_isPlain (hnames member hmember)
  · rw [List.forall₂_map_right_iff]
    exact hforall.flip.imp fun _ _ hcell => Reader.holds_cell hcell

/-- Exactly the flat records have a document, and a reader of the document finds two rows: the names, and
    what the values are, texts unchanged. -/
theorem document_decodes :
    (∀ value, (∃ text, document value = .ok text) ↔
      ∃ members, value = .object members ∧ ∀ member ∈ members, member.2.isScalar = true) ∧
    ∀ members : List (String × Json), members ≠ [] →
      (∀ member ∈ members, member.2.isScalar = true) →
      (∀ member ∈ members, IsPlain member.1.toList) →
      ∃ text, document (.object members) = .ok text ∧
        Reader.read text =
          some [members.map Prod.fst, members.map fun member => content member.2] := by
  refine ⟨fun value => exists_document_iff, ?_⟩
  intro members hne hscalar hnames
  obtain ⟨text, htext⟩ := exists_document_iff.mpr ⟨members, rfl, hscalar⟩
  exact ⟨text, htext, read_document hne hnames htext⟩

/-- Texts that a row could not hold as they are, and values that are no texts. -/
def awkward : List (String × Json) :=
  [("empty", .text ""),
    ("plain", .text "plain"),
    ("comma", .text "a,b"),
    ("quotes", .text "\"\"\""),
    ("quoted", .text "\"a\",b"),
    ("lines", .text "first\nsecond\n"),
    ("missing", .null),
    ("flag", .bool true),
    ("count", .number (.integer (-7)))]

theorem document_decodes_awkward :
    awkward ≠ [] ∧ (∀ member ∈ awkward, member.2.isScalar = true) ∧
      (∀ member ∈ awkward, IsPlain member.1.toList) ∧
      ∃ text, document (.object awkward) = .ok text ∧
        Reader.read text = some
          [["empty", "plain", "comma", "quotes", "quoted", "lines", "missing", "flag", "count"],
            ["", "plain", "a,b", "\"\"\"", "\"a\",b", "first\nsecond\n", "", "true", "-7"]] := by
  have hne : awkward ≠ [] := by simp [awkward]
  have hscalar : ∀ member ∈ awkward, member.2.isScalar = true := by simp [awkward, Json.isScalar]
  have hnames : ∀ member ∈ awkward, IsPlain member.1.toList := by simp [awkward, IsPlain]
  have hcontents : awkward.map (fun member => content member.2) =
      ["", "plain", "a,b", "\"\"\"", "\"a\",b", "first\nsecond\n", "", "true", "-7"] := by
    decide +kernel
  have hdecodes := document_decodes.2 awkward hne hscalar hnames
  rw [hcontents] at hdecodes
  exact ⟨hne, hscalar, hnames, hdecodes⟩

end Csv

end BenchLog
