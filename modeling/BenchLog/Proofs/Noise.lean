import BenchLog.Proofs.Correspondence
import BenchLog.Proofs.Lines
import BenchLog.Proofs.Reading
import Mathlib.Data.List.Induction
import Mathlib.Logic.Relation

/-!
# What a reader of a log does not notice

The filter of lines, the splitter of lines and the splitter of fields each have their own notion of what
is blank. They agree in that a carriage return at the end of a line makes no difference to any of them, so
the records of a text can be stated without them (`Text.records`). Lines without a record and carriage
returns before line feeds can then be put in anywhere (`Text.Edit`).
-/

namespace BenchLog

namespace Text

/-! ## Carriage returns at the end of a line -/

theorem dropReturns_append_return (text : List Char) :
    dropReturns (text ++ ['\r']) = dropReturns text := by
  simp [dropReturns]

theorem dropReturns_of_getLast? {text : List Char} (h : text.getLast? ≠ some '\r') :
    dropReturns text = text := by
  induction text using List.reverseRecOn with
  | nil => rfl
  | append_singleton text c =>
      have hc : c ≠ '\r' := by simpa using h
      simp [dropReturns, hc]

/-- What one carriage return more does not change, all of them do not. -/
theorem apply_dropReturns {α : Type} {f : List Char → α} (h : ∀ text, f (text ++ ['\r']) = f text)
    (text : List Char) : f (dropReturns text) = f text := by
  induction text using List.reverseRecOn with
  | nil => rfl
  | append_singleton text c ih =>
      by_cases hc : c = '\r'
      · subst hc
        rw [dropReturns_append_return, ih, h]
      · rw [dropReturns_of_getLast? (by simpa using hc)]

theorem dropReturns_dropReturn (text : List Char) :
    dropReturns (dropReturn text) = dropReturns text := by
  unfold dropReturn
  split
  · rename_i hlast
    obtain ⟨body, rfl⟩ := List.getLast?_eq_some_iff.mp hlast
    rw [List.dropLast_concat, dropReturns_append_return]
  · rfl

theorem isIgnored_append_return (text : List Char) : isIgnored (text ++ ['\r']) = isIgnored text := by
  have hblank : isBlank '\r' = true := by decide
  cases text <;> simp [isIgnored, isComment, hblank]

theorem words_append_return (text : List Char) : words (text ++ ['\r']) = words text := by
  have hblank : isBlank '\r' = true := by decide
  rw [words, List.splitOnP_append_cons text [] hblank]
  simp [words]

theorem isIgnored_dropReturns (text : List Char) : isIgnored (dropReturns text) = isIgnored text :=
  apply_dropReturns isIgnored_append_return text

theorem words_dropReturns (text : List Char) : words (dropReturns text) = words text :=
  apply_dropReturns words_append_return text

/-! ## Records -/

/-- The lines of a text that carry a record, without carriage returns at their ends. -/
def records (text : List Char) : List (List Char) :=
  ((text.splitOnP (· == '\n')).map dropReturns).filter (!isIgnored ·)

theorem records_append_cons (left right : List Char) :
    records (left ++ '\n' :: right) = records left ++ records right := by
  rw [records, List.splitOnP_append_cons _ _ (by decide), List.map_append, List.filter_append]
  rfl

theorem records_append_of_closed {left : List Char} (h : Closed left) (right : List Char) :
    records (left ++ right) = records left ++ records right := by
  have hnil : records [] = [] := rfl
  rcases closed_iff.mp h with rfl | ⟨body, rfl⟩
  · rfl
  · rw [records_append_cons body [], List.append_assoc, List.singleton_append, records_append_cons,
      hnil, List.append_nil]

theorem records_of_isIgnored {line : List Char} (single : '\n' ∉ line)
    (ignored : isIgnored line = true) : records line = [] := by
  have hpieces : line.splitOnP (· == '\n') = [line] := by
    apply List.splitOnP_eq_singleton
    intro c hc
    simpa using fun heq : c = '\n' => single (heq ▸ hc)
  simp [records, hpieces, isIgnored_dropReturns, ignored]

theorem dropReturns_cons (c : Char) (text : List Char) :
    dropReturns (c :: dropReturns text) = dropReturns (c :: text) :=
  apply_dropReturns (f := fun text => dropReturns (c :: text))
    (fun text => dropReturns_append_return (c :: text)) text

theorem map_dropReturns_modifyHead (c : Char) (found : List (List Char)) :
    (found.modifyHead (c :: ·)).map dropReturns =
      ((found.map dropReturns).modifyHead (c :: ·)).map dropReturns := by
  cases found with
  | nil => rfl
  | cons piece found =>
      simp only [List.modifyHead_cons, List.map_cons, List.map_map, dropReturns_cons]
      congr 1
      apply List.map_congr_left
      intro text _
      exact (apply_dropReturns dropReturns_append_return text).symm

theorem map_dropReturns_pieces_append_return (text : List Char) :
    ((text ++ ['\r']).splitOnP (· == '\n')).map dropReturns =
      (text.splitOnP (· == '\n')).map dropReturns := by
  induction text with
  | nil => rfl
  | cons c text ih =>
      rw [List.cons_append, List.splitOnP_cons_eq_if_modifyHead, List.splitOnP_cons_eq_if_modifyHead]
      split
      · rw [List.map_cons, List.map_cons, ih]
      · rw [map_dropReturns_modifyHead, ih, ← map_dropReturns_modifyHead]

theorem filter_map_dropReturns (lines : List (List Char)) :
    (lines.map dropReturns).filter (!isIgnored ·) =
      (lines.filter (!isIgnored ·)).map dropReturns := by
  rw [List.filter_map]
  congr 2
  funext line
  simp [isIgnored_dropReturns]

/-- Lines are the pieces between line feeds but for the carriage returns at their ends, and a last piece
    is left out if it is empty. -/
theorem forall₂_physicalLines (text : List Char) :
    ∃ lines rest, text.splitOnP (· == '\n') = lines ++ rest ∧
      List.Forall₂ (fun line piece => dropReturns line = dropReturns piece) (physicalLines text) lines ∧
      ∀ piece ∈ rest, piece = [] := by
  have hlast := List.dropLast_append_getLast (List.splitOnP_ne_nil (· == '\n') text)
  rw [physicalLines]
  generalize (text.splitOnP (· == '\n')).getLast (List.splitOnP_ne_nil _ _) = last at hlast
  generalize (text.splitOnP (· == '\n')).dropLast = init at hlast
  have hinit : List.Forall₂ (fun line piece => dropReturns line = dropReturns piece)
      (init.map dropReturn) init :=
    List.forall₂_map_left_iff.mpr (List.forall₂_same.mpr fun line _ => dropReturns_dropReturn line)
  rw [← hlast]
  cases last with
  | nil => exact ⟨init, [[]], by simp, by simpa using hinit, by simp⟩
  | cons c last =>
      refine ⟨init ++ [c :: last], [], by simp, ?_, by simp⟩
      simpa using List.rel_append hinit (.cons rfl .nil)

/-- What is left of the lines are the records. -/
theorem map_dropReturns_physicalLines (text : List Char) :
    ((physicalLines text).filter (!isIgnored ·)).map dropReturns = records text := by
  obtain ⟨lines, rest, hpieces, hlines, hrest⟩ := forall₂_physicalLines text
  have hmap : (physicalLines text).map dropReturns = lines.map dropReturns := by
    rwa [← List.forall₂_eq_eq_eq, List.forall₂_map_left_iff, List.forall₂_map_right_iff]
  have hempty : (rest.map dropReturns).filter (!isIgnored ·) = [] := by
    rw [List.filter_eq_nil_iff]
    intro line member
    obtain ⟨piece, hpiece, rfl⟩ := List.mem_map.mp member
    rw [hrest piece hpiece]
    decide
  rw [← filter_map_dropReturns, hmap, records, hpieces, List.map_append, List.filter_append, hempty,
    List.append_nil]

/-! ## Edits -/

/-- A change that a reader of the records does not notice: where a line begins, a comment or a line of
    blanks is put in, or a carriage return is put in before a line feed. -/
inductive Edit : List Char → List Char → Prop where
  | insert (left line right : List Char) (boundary : Closed left) (single : '\n' ∉ line)
      (noise : line.head? = some '#' ∨ ∀ c ∈ line, isBlank c = true) :
      Edit (left ++ right) (left ++ line ++ '\n' :: right)
  | returned (left right : List Char) :
      Edit (left ++ '\n' :: right) (left ++ '\r' :: '\n' :: right)

theorem Edit.records_eq {text text' : List Char} (h : Edit text text') :
    records text = records text' := by
  cases h with
  | insert left line right boundary single noise =>
      have ignored : isIgnored line = true := by
        simpa [isIgnored, isComment] using noise
      rw [List.append_assoc, records_append_of_closed boundary, records_append_of_closed boundary,
        records_append_cons, records_of_isIgnored single ignored, List.nil_append]
  | returned left right =>
      have hleft : records (left ++ ['\r']) = records left := by
        rw [records, map_dropReturns_pieces_append_return]
        rfl
      have hsplit : left ++ '\r' :: '\n' :: right = (left ++ ['\r']) ++ '\n' :: right := by simp
      rw [hsplit, records_append_cons, records_append_cons, hleft]

theorem records_eq_of_edits {text text' : List Char} (h : Relation.ReflTransGen Edit text text') :
    records text = records text' := by
  induction h with
  | refl => rfl
  | tail _ hedit ih => rw [ih, hedit.records_eq]

end Text

/-! ## Lines without a record are no entries -/

namespace Entry

theorem natField_of_marker (name : String) (limit : Nat) (rest : List Char) :
    natField name limit ('#' :: rest) = .error (.badField name ('#' :: rest) (.integer .invalidDigit)) := by
  have hdigit : Decimal.digit? '#' = none := by decide
  simp [natField, Decimal.readUnsigned, Decimal.readDigits, Decimal.appendDigit, hdigit,
    Except.mapError]

theorem ofFields_of_marker (rest start finish latency status : List Char) (kind : Int) (extra : Nat)
    (entry : Entry) : ofFields ('#' :: rest) start finish latency status kind extra ≠ .ok entry := by
  intro h
  simp only [ofFields, Loop.bind_eq_ok_iff] at h
  obtain ⟨_, -, _, hid, -⟩ := h
  rw [natField_of_marker] at hid
  cases hid

/-- The marker of a comment begins its first word, which would have to be a number. -/
theorem ofWords_of_marker (rest : List Char) (words : List (List Char)) (entry : Entry) :
    ofWords (('#' :: rest) :: words) ≠ .ok entry := by
  intro h
  unfold ofWords at h
  split at h
  · rename_i hwords
    cases hwords
    exact ofFields_of_marker _ _ _ _ _ _ _ _ h
  · rename_i hwords
    cases hwords
    simp only [Loop.bind_eq_ok_iff] at h
    obtain ⟨_, -, _, -, h⟩ := h
    exact ofFields_of_marker _ _ _ _ _ _ _ _ h
  · cases h

theorem words_of_marker (text : List Char) :
    ∃ rest words, Text.words ('#' :: text) = ('#' :: rest) :: words := by
  have hblank : Text.isBlank '#' = false := by decide
  cases hpieces : text.splitOnP Text.isBlank with
  | nil => exact absurd hpieces (List.splitOnP_ne_nil _ _)
  | cons piece found =>
      refine ⟨piece, found.filter (!·.isEmpty), ?_⟩
      simp [Text.words, List.splitOnP_cons_eq_if_modifyHead, hblank, hpieces]

theorem not_accepts_of_isIgnored {line : LogLine} (h : isIgnored line.text.toList = true) :
    accepts line = false := by
  by_contra haccept
  rw [Bool.not_eq_false, accepts_iff] at haccept
  obtain ⟨entry, hentry⟩ := haccept
  have hwords := ofLine_eq_ok_iff.mp hentry
  simp only [isIgnored, isComment, Bool.or_eq_true, beq_iff_eq, List.all_eq_true] at h
  rcases h with hmarker | hblank
  · obtain ⟨text, htext⟩ := List.head?_eq_some_iff.mp hmarker
    obtain ⟨rest, words, hsplit⟩ := words_of_marker text
    rw [htext, hsplit] at hwords
    exact ofWords_of_marker rest words entry hwords
  · rw [Text.words_eq_nil_of_blank hblank] at hwords
    cases hwords

end Entry

/-! ## Lines of files -/

/-- Where a line stands and its text, but for the number and the carriage returns at the end. -/
def LogLine.record (line : LogLine) : String × List Char :=
  (line.path, Text.dropReturns line.text.toList)

namespace LogFile

variable {file file' : LogFile}

/-- The filter of lines drops no line that is an entry. -/
theorem filter_accepts_lines (file : LogFile) :
    file.lines.filter Entry.accepts = file.allLines.filter Entry.accepts := by
  rw [lines_eq_filter, List.filter_filter]
  apply List.filter_congr
  intro line _
  cases hignored : isIgnored line.text.toList with
  | false => simp
  | true => simp [Entry.not_accepts_of_isIgnored hignored]

theorem map_text_numbered (path : String) (first : Nat) (texts : List (List Char)) :
    (numbered path first texts).map (fun line => line.text.toList) = texts := by
  induction texts generalizing first with
  | nil => rfl
  | cons text texts ih => simpa [numbered, List.zipIdx_cons] using ih (first + 1)

theorem path_of_mem_lines {line : LogLine} (member : line ∈ file.lines) : line.path = file.path := by
  rw [lines_eq_filter, List.mem_filter, allLines, numbered, List.mem_map] at member
  obtain ⟨⟨_, _, rfl⟩, -⟩ := member
  rfl

theorem map_record_lines (file : LogFile) :
    file.lines.map LogLine.record = (Text.records file.text.toList).map (Prod.mk file.path) := by
  have htexts : (file.lines.map fun line => line.text.toList) =
      (Text.physicalLines file.text.toList).filter (!isIgnored ·) := by
    rw [lines_eq_filter, ← map_text_numbered file.path 1 (Text.physicalLines _), List.filter_map]
    rfl
  rw [← Text.map_dropReturns_physicalLines, ← htexts, List.map_map, List.map_map]
  apply List.map_congr_left
  intro line member
  rw [LogLine.record, path_of_mem_lines member]
  rfl

theorem words_of_record {line line' : LogLine} (h : line.record = line'.record) :
    Text.words line.text.toList = Text.words line'.text.toList := by
  rw [← Text.words_dropReturns, (Prod.mk.inj h).2, Text.words_dropReturns]

/-- No line that is an entry is passed over. Edits that put in lines without a record, or carriage returns
    before line feeds, leave what is read of the lines as it is, entries and faults alike: the lines are
    the same but for their numbers and the carriage returns at their ends. Nor does an analysis of the
    lines notice the edits, but for the place that a failure names. -/
theorem lines_of_edits (file : LogFile) :
    file.lines.filter Entry.accepts = file.allLines.filter Entry.accepts ∧
    ∀ edited : LogFile, edited.path = file.path →
      Relation.ReflTransGen Text.Edit file.text.toList edited.text.toList →
      (file.lines.map fun line => Entry.ofWords (Text.words line.text.toList)) =
          (edited.lines.map fun line => Entry.ofWords (Text.words line.text.toList)) ∧
        List.Forall₂ (fun line line' => line.record = line'.record) file.lines edited.lines ∧
        ∀ settings, AlikeUpTo (fun line line' => line.record = line'.record)
          (Analysis.ofLines file.lines settings) (Analysis.ofLines edited.lines settings) := by
  refine ⟨filter_accepts_lines file, ?_⟩
  intro edited hpath hedits
  have hlines : List.Forall₂ (fun line line' => line.record = line'.record) file.lines
      edited.lines := by
    have hrecords : file.lines.map LogLine.record = edited.lines.map LogLine.record := by
      rw [map_record_lines, map_record_lines, Text.records_eq_of_edits hedits, hpath]
    rwa [← List.forall₂_eq_eq_eq, List.forall₂_map_left_iff, List.forall₂_map_right_iff] at hrecords
  refine ⟨?_, hlines, ?_⟩
  · rw [← List.forall₂_eq_eq_eq, List.forall₂_map_left_iff, List.forall₂_map_right_iff]
    exact hlines.imp fun line line' hline => by rw [words_of_record hline]
  · exact Analysis.ofLines_alike (fun _ _ => words_of_record) hlines

/-- A log with a malformed last line that has no ending. -/
def unfinished : LogFile := ⟨"run.log", "1 0.0 0.1 5 1\noops"⟩

/-- The same log with a longer ending of its first line and a comment behind that line. -/
def commented : LogFile := ⟨"run.log", "1 0.0 0.1 5 1\r\n# 2\noops"⟩

theorem lines_of_edits_commented :
    Relation.ReflTransGen Text.Edit unfinished.text.toList commented.text.toList ∧
    (unfinished.lines.map fun line => Entry.ofWords (Text.words line.text.toList)) =
      (commented.lines.map fun line => Entry.ofWords (Text.words line.text.toList)) ∧
    AlikeUpTo (fun line line' => line.record = line'.record) (Analysis.ofLines unfinished.lines {})
      (Analysis.ofLines commented.lines {}) := by
  have hreturned : Text.Edit unfinished.text.toList "1 0.0 0.1 5 1\r\noops".toList :=
    .returned "1 0.0 0.1 5 1".toList "oops".toList
  have hinsert : Text.Edit "1 0.0 0.1 5 1\r\noops".toList commented.text.toList :=
    .insert "1 0.0 0.1 5 1\r\n".toList "# 2".toList "oops".toList (.inr (by decide)) (by decide)
      (.inl (by decide))
  have hedits := Relation.ReflTransGen.refl.tail hreturned |>.tail hinsert
  obtain ⟨houtcomes, -, halike⟩ := (lines_of_edits unfinished).2 commented rfl hedits
  exact ⟨hedits, houtcomes, halike {}⟩

end LogFile

end BenchLog
