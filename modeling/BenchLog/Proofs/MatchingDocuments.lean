import BenchLog.Proofs.CsvReading
import BenchLog.Proofs.JsonReading
import BenchLog.Report

/-!
# The documents of one report match

A report has the same fields in a JSON document and in a CSV document, in the same order and with the same
text, but for a value that is missing: JSON writes `null` for it, and its cell is empty. The JSON document is
written from the fields, the CSV document from the record that they make, and a record is written as its
fields are (`FieldWriter.document_eq`). Both documents are read back, each by its own reader (`Json.Reader`,
`Csv.Reader`), and what is found in them is compared. It only matters that the fields are regular
(`Report.Regular`): numbers under plain names.
-/

namespace BenchLog

/-! ## Fields and the record of them -/

@[simp] theorem Json.isBare_ofNat (n : Nat) : (Json.ofNat n).isBare = true := rfl

@[simp] theorem Json.isBare_ofFloat (x : Float) : (Json.ofFloat x).isBare = true := by
  unfold Json.ofFloat
  split <;> rfl

namespace Statistic

theorem isBare_toJson (value : Statistic) : value.toJson.isBare = true := by
  cases value with
  | count n => rfl
  | measure x => exact Json.isBare_ofFloat x

/-- A statistic is written like its value, at every depth of every layout. -/
theorem write_toJson (layout : Json.Layout) (depth : Nat) (value : Statistic) :
    value.toJson.write layout depth = value.write := by
  cases value with
  | count n => rfl
  | measure x =>
      rw [toJson, write, Json.ofFloat]
      split <;> rfl

end Statistic

/-- The member of a record that a field makes. -/
def Statistic.member (field : String × Statistic) : String × Json := (field.1, field.2.toJson)

namespace FieldWriter

/-- Behind one field the others are written as the members of a record are. -/
theorem foldl_field (fields : List (String × Statistic)) (text : String) :
    fields.foldl (fun writer field => writer.field field.1 field.2) (⟨text, true⟩ : FieldWriter) =
      ⟨text ++ Json.writeMembers Json.indented 1 (fields.map Statistic.member), true⟩ := by
  induction fields generalizing text with
  | nil => simp [Json.writeMembers]
  | cons field fields ih =>
      have hbreak : ",\n    " = "," ++ Json.indented.lineBreak 1 := rfl
      rw [List.foldl_cons, FieldWriter.field, if_pos rfl, ih, List.map_cons, Statistic.member,
        Json.writeMembers, Statistic.write_toJson, hbreak]
      simp [String.append_assoc, Json.indented]

/-- Fields that are written one by one give the document of the record that they make. -/
theorem document_eq (fields : List (String × Statistic)) :
    document fields = (Json.object (fields.map Statistic.member)).document := by
  cases fields with
  | nil => rfl
  | cons field fields =>
      rw [document, List.foldl_cons, start, FieldWriter.field, foldl_field, List.map_cons,
        Json.document, Statistic.member, Json.write, Statistic.write_toJson]
      simp [finish, String.append_assoc, Json.indented]

end FieldWriter

/-! ## Rows without quotes -/

namespace Csv

variable {fields : List (String × Json)}

theorem document_of_isBare (h : ∀ field ∈ fields, field.2.isBare = true) :
    document (.object fields) = .ok (",".intercalate (fields.map Prod.fst) ++ "\n" ++
      ",".intercalate (fields.map fun field => content field.2) ++ "\n") := by
  have hcells : fields.mapM (fun field => cell field.2) =
      .ok (fields.map fun field => content field.2) := by
    rw [Loop.mapM_eq_ok_iff, List.forall₂_map_right_iff, List.forall₂_same]
    intro field hfield
    exact cell_of_isBare (h field hfield)
  rw [document, hcells]
  rfl

theorem quote_not_mem_intercalate {parts : List String}
    (h : ∀ part ∈ parts, IsPlain part.toList) : '"' ∉ (",".intercalate parts).toList := by
  rw [String.toList_intercalate]
  induction parts with
  | nil => simp
  | cons part parts ih =>
      obtain ⟨hpart, hparts⟩ := List.forall_mem_cons.mp h
      have hquote : '"' ∉ part.toList := by
        intro hmem
        exact (hpart '"' hmem).2.1 rfl
      cases parts with
      | nil => simpa using hquote
      | cons next parts =>
          have hrest := ih hparts
          simp_all [List.intercalate_cons_cons]

end Csv

/-! ## Names -/

namespace Report

/-- A character of a field's name. -/
def isNameChar (c : Char) : Bool :=
  c.isAlphanum || c == '_'

/-- Whether a name, of letters, digits and underscores, stands in every document as it is. -/
def isName (name : List Char) : Bool :=
  name.all isNameChar

theorem le_toNat_of_isNameChar {c : Char} (h : isNameChar c = true) : 0x20 ≤ c.toNat := by
  simp only [isNameChar, Char.isAlphanum, Char.isAlpha, Char.isUpper, Char.isLower, Char.isDigit,
    Bool.or_eq_true, Bool.and_eq_true, decide_eq_true_eq, beq_iff_eq, ge_iff_le,
    UInt32.le_iff_toNat_le] at h
  show 0x20 ≤ c.val.toNat
  rcases h with ((h | h) | h) | rfl
  · exact le_trans (by decide) h.1
  · exact le_trans (by decide) h.1
  · exact le_trans (by decide) h.1
  · decide

theorem isSimple_of_isName {name : List Char} (h : isName name = true) : Json.IsSimple name := by
  intro c hc
  have hname := List.all_eq_true.mp h c hc
  have hcontrol : ¬c.toNat < 0x20 := Nat.not_lt.mpr (le_toNat_of_isNameChar hname)
  unfold Json.escape
  split
  case h_8 => rw [if_neg hcontrol]
  all_goals cases hname

theorem isPlain_of_isName {name : List Char} (h : isName name = true) : Csv.IsPlain name :=
  Csv.isPlain_of_forall rfl rfl rfl (List.all_eq_true.mp h)

/-! ## Regular fields -/

/-- Fields under plain names, each name once. -/
structure Regular (fields : List (String × Statistic)) : Prop where
  nonempty : fields ≠ []
  nodup : (fields.map Prod.fst).Nodup
  names : ∀ name ∈ fields.map Prod.fst, isName name.toList = true

/-- The names of the fields in a document, in their order. -/
def names : Report → List String
  | .transactions .. =>
    ["num_transactions", "num_successful_transactions", "num_failed_transactions",
      "num_failed_write_transactions", "num_failed_readonly_transactions",
      "abort_rate", "write_txn_abort_rate", "readonly_txn_abort_rate",
      "throughput_all", "throughput_success", "throughput_failure",
      "average_latency_all", "median_latency_all", "p99_latency_all", "p999_latency_all",
      "average_latency_success", "median_latency_success", "p99_latency_success",
      "p999_latency_success",
      "average_latency_failure", "median_latency_failure", "p99_latency_failure",
      "p999_latency_failure",
      "follow_txn_avg_latency_success", "tweet_txn_avg_latency_success",
      "extra_all", "extra_success", "extra_failure"]
  | .microbench _ =>
    ["num_clients", "throughput_all", "average_latency_all", "median_latency_all",
      "p99_latency_all", "p999_latency_all"]

theorem map_fst_fields (report : Report) : report.fields.map Prod.fst = report.names := by
  cases report with
  | transactions summary window histogram =>
      simp [fields, names, TransactionSummary.fields, LatencySummary.fields]
  | microbench summary => rfl

theorem regular_fields (report : Report) : Regular report.fields where
  nonempty := by
    intro h
    have hnames := report.map_fst_fields
    rw [h] at hnames
    cases report <;> cases hnames
  nodup := by
    rw [map_fst_fields]
    cases report <;> rw [names] <;> decide +kernel
  names := by
    rw [map_fst_fields]
    cases report <;> rw [names] <;> decide +kernel

variable {fields : List (String × Statistic)}

theorem Regular.isName (h : Regular fields) (member : String × Json)
    (hmember : member ∈ fields.map Statistic.member) : isName member.1.toList = true := by
  obtain ⟨field, hfield, rfl⟩ := List.mem_map.mp hmember
  exact h.names field.1 (List.mem_map_of_mem hfield)

theorem isBare_of_mem_map (fields : List (String × Statistic)) (member : String × Json)
    (hmember : member ∈ fields.map Statistic.member) : member.2.isBare = true := by
  obtain ⟨field, -, rfl⟩ := List.mem_map.mp hmember
  exact field.2.isBare_toJson

theorem line_toJson (value : Statistic) : value.toJson.line = value.write :=
  value.write_toJson Json.compact 0

/-- A reader of the JSON document finds each name with the text of its value. -/
theorem Regular.read_json (h : Regular fields) :
    Json.Reader.read (FieldWriter.document fields) =
      some (fields.map fun field => (field.1, field.2.write)) := by
  have hfeed : ∀ c ∈ "\n".toList, Json.Reader.isGap c = true := by simp [Json.Reader.isGap]
  have hnames : ∀ member ∈ fields.map Statistic.member, Json.IsSimple member.1.toList :=
    fun member hmember => isSimple_of_isName (h.isName member hmember)
  rw [FieldWriter.document_eq, Json.document, Json.Reader.read_record Json.isSpacing_indented
    (by simp [h.nonempty]) hnames (isBare_of_mem_map fields) hfeed, List.map_map]
  simp [Function.comp_def, Statistic.member, line_toJson]

/-- A reader of the CSV document finds the same texts, and none of them between quotes. -/
theorem Regular.exists_csv (h : Regular fields) :
    ∃ text, Csv.document (.object (fields.map Statistic.member)) = .ok text ∧ '"' ∉ text.toList ∧
      Csv.Reader.read text = some [fields.map Prod.fst,
        fields.map fun field => if field.2.write = "null" then "" else field.2.write] := by
  have hdocument := Csv.document_of_isBare (isBare_of_mem_map fields)
  have hnames : ∀ member ∈ fields.map Statistic.member, Csv.IsPlain member.1.toList :=
    fun member hmember => isPlain_of_isName (h.isName member hmember)
  have hread := Csv.read_document (by simp [h.nonempty]) hnames hdocument
  have hcontent : (fields.map Statistic.member).map (fun member => Csv.content member.2) =
      fields.map fun field => if field.2.write = "null" then "" else field.2.write := by
    rw [List.map_map]
    apply List.map_congr_left
    intro field _
    rw [Function.comp_apply, Statistic.member, Csv.content_of_isBare field.2.isBare_toJson, line_toJson]
  have hplain : ∀ text ∈ (fields.map Statistic.member).map (fun member => Csv.content member.2),
      Csv.IsPlain text.toList := by
    rw [List.forall_mem_map]
    exact fun member hmember => Csv.isPlain_content (isBare_of_mem_map fields member hmember)
  have hheader : ∀ name ∈ (fields.map Statistic.member).map Prod.fst, Csv.IsPlain name.toList := by
    rw [List.forall_mem_map]
    exact hnames
  refine ⟨_, hdocument, ?_, hread.trans ?_⟩
  · simp only [String.toList_append, List.mem_append, not_or]
    exact ⟨⟨⟨Csv.quote_not_mem_intercalate hheader, by simp⟩, Csv.quote_not_mem_intercalate hplain⟩,
      by simp⟩
  · rw [hcontent, List.map_map]
    rfl

/-- Both documents of a report hold the names of its fields once each, in the same order and with the same
    texts: the digits of a count, the shortest decimal of a measure, and `null` for a measure that is not
    finite, where the cell is empty. No cell stands between quotes. -/
theorem documents_match (report : Report) :
    ∃ json csv fields members, report.document .json = .ok json ∧ report.document .csv = .ok csv ∧
      report.record = .object fields ∧
      members = fields.map (fun field => (field.1, field.2.line)) ∧
      members = report.fields.map (fun field => (field.1, field.2.write)) ∧
      members.map Prod.fst = report.names ∧
      (members.map Prod.fst).Nodup ∧
      Json.Reader.read json = some members ∧
      Csv.Reader.read csv = some [members.map Prod.fst,
        members.map fun member => if member.2 = "null" then "" else member.2] ∧
      '"' ∉ csv.toList := by
  have hregular := report.regular_fields
  obtain ⟨csv, hcsv, hquote, hread⟩ := hregular.exists_csv
  have hnames : (report.fields.map fun field => (field.1, field.2.write)).map Prod.fst =
      report.fields.map Prod.fst := by
    simp
  refine ⟨_, csv, report.fields.map Statistic.member, _, rfl, hcsv, rfl, ?_, rfl, ?_, ?_,
    hregular.read_json, ?_, hquote⟩
  · rw [List.map_map]
    simp [Function.comp_def, Statistic.member, line_toJson]
  · rw [hnames, map_fst_fields]
  · rw [hnames]
    exact hregular.nodup
  · rw [hnames, List.map_map]
    exact hread

end Report

end BenchLog
