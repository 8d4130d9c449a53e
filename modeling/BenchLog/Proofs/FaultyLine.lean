import BenchLog.Proofs.FirstMalformed

/-!
# The line where a log stops being text

A log is opened if and only if its bytes are those of a text, and then it is this text. Otherwise one line
is named (`Program.openLog_located`): the one that holds the first byte that cannot be read. Its bytes alone
are shown, but text and number are those that the line has if the faults are replaced in the whole file and
the lines are cut then.
-/

namespace BenchLog

namespace Text

namespace Utf8

/-- A line with a fault is not blank as it is shown. -/
theorem all_isBlank_lossy {line : List UInt8} (h : ¬IsText line) :
    (lossy line).all isBlank = false := by
  rw [isText_iff, not_not, decode?_eq_none_iff, chars] at h
  obtain ⟨unit, member, hunit⟩ := List.mem_map.mp h
  rw [List.all_eq_false]
  refine ⟨'\uFFFD', List.mem_map.mpr ⟨unit, member, ?_⟩, by decide⟩
  cases unit with
  | char c => cases hunit
  | invalid bytes => rfl
  | incomplete bytes => rfl

end Utf8

theorem all_isBlank_dropReturns (text : List Char) :
    (dropReturns text).all isBlank = text.all isBlank := by
  refine apply_dropReturns (f := fun text => text.all isBlank) ?_ text
  intro text
  have hblank : isBlank '\r' = true := by decide
  simp [hblank]

/-- A piece that is not empty is a line with the same place among the lines. -/
theorem exists_physicalLine {text piece : List Char} {index : ℕ}
    (h : (text.splitOnP (· == '\n'))[index]? = some piece) (hne : piece ≠ []) :
    ∃ line, (physicalLines text)[index]? = some line ∧ dropReturns line = dropReturns piece := by
  obtain ⟨lines, rest, hpieces, hlines, hrest⟩ := forall₂_physicalLines text
  rw [hpieces] at h
  have hindex : index < lines.length := by
    by_contra hle
    rw [List.getElem?_append_right (Nat.not_lt.mp hle)] at h
    exact hne (hrest piece (List.mem_of_getElem? h))
  rw [List.getElem?_append_left hindex] at h
  have hline := hlines.get (hlines.length_eq ▸ hindex) hindex
  refine ⟨_, List.getElem?_eq_getElem (hlines.length_eq ▸ hindex), ?_⟩
  rw [List.getElem?_eq_getElem hindex, Option.some.injEq] at h
  rw [← h]
  simpa using hline

end Text

namespace LogFile

open Text.Utf8

/-- A line as the one that holds this place of some bytes is named. -/
structure Names (path : String) (bytes : List UInt8) (index : ℕ) (named : LogLine) : Prop where
  path_eq : named.path = path
  /-- The line holds the place, all lines before it are text, and its bytes alone are shown. -/
  holds : ∃ before line, named.number = before.length + 1 ∧ Holds bytes index before line ∧
    (∀ earlier ∈ before, IsText earlier) ∧ named.text.toList = Text.dropReturns (lossy line)
  /-- The line with this number, if all bytes are shown and then cut into lines. -/
  text_eq : ((lossy bytes).splitOnP (· == '\n'))[named.number - 1]?.map Text.dropReturns =
    some named.text.toList
  /-- The line has this number among the lines of what is shown, unless it is a comment. -/
  numbered : ∃ line ∈ allLines ⟨path, String.ofList (lossy bytes)⟩, line.number = named.number ∧
    Text.dropReturns line.text.toList = named.text.toList ∧
    (line ∈ lines ⟨path, String.ofList (lossy bytes)⟩ ↔ isComment line.text.toList = false)

theorem mem_allLines_of_getElem? (path : String) {text line : List Char} {index : ℕ}
    (h : (Text.physicalLines text)[index]? = some line) :
    ⟨path, index + 1, String.ofList line⟩ ∈ allLines ⟨path, String.ofList text⟩ := by
  have hzip : (line, index + 1) ∈ (Text.physicalLines text).zipIdx 1 := by
    rw [List.mk_mem_zipIdx_iff_le_and_getElem?_sub]
    exact ⟨Nat.le_add_left 1 index, h⟩
  rw [allLines, String.toList_ofList]
  exact List.mem_map.mpr ⟨_, hzip, rfl⟩

/-- Where a log stops being text, the line is named that holds the place. -/
theorem ofBytes_of_not_isText (path : String) {bytes : List UInt8} (h : ¬IsText bytes) :
    ∃ named fault, ofBytes path bytes = .error (.malformed named (.notText fault)) ∧
      FirstInvalid bytes fault.index ∧ Names path bytes fault.index named := by
  obtain ⟨fault, before, line, hfirst, hholds, hbefore, hline, hofBytes⟩ := ofBytes_of_not_text path h
  obtain ⟨after, hpieces⟩ := hholds.1
  have hshown : ((lossy bytes).splitOnP (· == '\n'))[before.length]? = some (lossy line) := by
    rw [pieces_lossy, hpieces, List.map_append, List.map_cons]
    simp
  have hblank := all_isBlank_lossy hline
  have hne : lossy line ≠ [] := by
    intro hnil
    simp [hnil] at hblank
  obtain ⟨found, hfound, hreturns⟩ := Text.exists_physicalLine hshown hne
  have hignored : isIgnored found = isComment found := by
    rw [isIgnored, ← Text.all_isBlank_dropReturns found, hreturns, Text.all_isBlank_dropReturns, hblank,
      Bool.or_false]
  have member := mem_allLines_of_getElem? path hfound
  refine ⟨⟨path, before.length + 1, String.ofList (Text.dropReturns (lossy line))⟩, fault, hofBytes,
    hfirst, rfl, ⟨before, line, rfl, hholds, hbefore, String.toList_ofList⟩, ?_, ?_⟩
  · simp [hshown]
  · refine ⟨_, member, rfl, by simpa using hreturns, ?_⟩
    rw [lines_eq_filter, List.mem_filter]
    simp [member, hignored]

end LogFile

namespace Program

open Text.Utf8

variable {tree : FileTree} {path : String} {bytes : List UInt8}

/-- A log of text is opened as this text. Any other is refused with the line that holds the first byte that
    is no text, named as it would be named if all bytes were shown and then cut into lines. -/
theorem openLog_located (h : tree.read path = .ok bytes) :
    (∀ text, bytes = encode text → look tree (openLog path) = .ok ⟨path, String.ofList text⟩) ∧
    (¬IsText bytes → ∃ named fault,
      look tree (openLog path) = .error (.analysis (.malformed named (.notText fault))) ∧
        FirstInvalid bytes fault.index ∧ LogFile.Names path bytes fault.index named) := by
  rw [look_openLog h]
  constructor
  · intro text htext
    rw [LogFile.ofBytes_of_some path (decode?_eq_some_iff_encode.mpr htext)]
    rfl
  · intro hnot
    obtain ⟨named, fault, hofBytes, hfirst, hnames⟩ := LogFile.ofBytes_of_not_isText path hnot
    exact ⟨named, fault, by rw [hofBytes]; rfl, hfirst, hnames⟩

/-- A comment, and a line whose last character is broken off by the ending of the line. -/
def brokenOff : List UInt8 := "#\r\n2 ".toUTF8.toList ++ [0xE2, 0x82, 13, 10, 0xFF]

theorem openLog_located_brokenOff :
    (runLog brokenOff).read "run.log" = .ok brokenOff ∧ ¬IsText brokenOff ∧
    (∃ named fault,
      look (runLog brokenOff) (openLog "run.log") = .error (.analysis (.malformed named (.notText fault))) ∧
        FirstInvalid brokenOff fault.index ∧ LogFile.Names "run.log" brokenOff fault.index named) ∧
    look (runLog (encode ['#', 'é'])) (openLog "run.log") = .ok ⟨"run.log", "#é"⟩ := by
  have hread : (runLog brokenOff).read "run.log" = .ok brokenOff := by decide +kernel
  have htext : (runLog (encode ['#', 'é'])).read "run.log" = .ok (encode ['#', 'é']) := by decide +kernel
  have hnot : ¬IsText brokenOff := by
    rw [isText_iff, not_not]
    decide +kernel
  exact ⟨hread, hnot, (openLog_located hread).2 hnot, (openLog_located htext).1 _ rfl⟩

/-- One character is shown for the two bytes that were begun, and the carriage return is left out. -/
example : LogFile.ofBytes "run.log" brokenOff =
    .error (.malformed ⟨"run.log", 2, "2 \uFFFD"⟩ (.notText ⟨5, some 2⟩)) := by
  decide +kernel

end Program

end BenchLog
