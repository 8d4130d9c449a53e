import BenchLog.Proofs.Correspondence
import BenchLog.Proofs.Lines

/-!
# Several files and one

If a new line begins after each file, the files in order are one file with all of their texts: it has
their lines, each with a number that is greater by the number of lines of the files before
(`LogFile.lines_concat`). What is made of the lines is then the same but for the places that a failure
names (`LogFile.concat_alike`).
-/

namespace BenchLog

/-- A line as it stands in another file in which so many lines come before. -/
def LogLine.moved (path : String) (before : Nat) (line : LogLine) : LogLine :=
  { line with path, number := line.number + before }

namespace LogFile

/-- A file after which a new line begins. -/
def Closed (file : LogFile) : Prop := Text.Closed file.text.toList

/-- The file with the texts of several files, one after the other. -/
def concat (path : String) (files : List LogFile) : LogFile :=
  ⟨path, String.join (files.map LogFile.text)⟩

/-- The number of all lines of a file. -/
def lineCount (file : LogFile) : Nat := (Text.physicalLines file.text.toList).length

/-- The lines of several files as they stand in one file, if so many lines come before the first one. -/
def relocated (path : String) : Nat → List LogFile → List LogLine
  | _, [] => []
  | before, file :: files =>
    file.lines.map (LogLine.moved path before) ++ relocated path (before + file.lineCount) files

/-- A line of the files and the line of the one file that stands at the same position. -/
def Counterparts (path : String) (files : List LogFile) (line line' : LogLine) : Prop :=
  (line, line') ∈ (collectLines files).zip (concat path files).lines ∧ line.text = line'.text

variable {path : String} {files : List LogFile}

theorem physicalLines_join (h : ∀ file ∈ files.dropLast, file.Closed) :
    Text.physicalLines (String.join (files.map text)).toList =
      files.flatMap fun file => Text.physicalLines file.text.toList := by
  induction files with
  | nil => rfl
  | cons file files ih =>
      rw [List.map_cons, String.toList_join, List.flatMap_cons, ← String.toList_join,
        List.flatMap_cons]
      cases files with
      | nil => simp
      | cons next files =>
          have hfile : file.Closed := h file (by simp)
          rw [Text.physicalLines_append_of_closed hfile, ih]
          intro other member
          exact h other (by simp [member])

theorem map_moved_numbered (path path' : String) (first before : Nat) (texts : List (List Char)) :
    (numbered path first texts).map (LogLine.moved path' before) =
      numbered path' (before + first) texts := by
  rw [numbered, numbered, ← List.map_snd_add_zipIdx_eq_zipIdx, List.map_map, List.map_map]
  rfl

theorem relocated_eq_filter (path : String) (before : Nat) (files : List LogFile) :
    relocated path before files =
      (numbered path (before + 1)
        (files.flatMap fun file => Text.physicalLines file.text.toList)).filter
          fun line => !isIgnored line.text.toList := by
  induction files generalizing before with
  | nil => rfl
  | cons file files ih =>
      have hfile : file.lines.map (LogLine.moved path before) =
          (numbered path (before + 1) (Text.physicalLines file.text.toList)).filter
            fun line => !isIgnored line.text.toList := by
        rw [lines_eq_filter, allLines, ← map_moved_numbered file.path, List.filter_map]
        rfl
      have hcount : before + 1 + (Text.physicalLines file.text.toList).length =
          before + file.lineCount + 1 := by
        unfold lineCount
        omega
      rw [relocated, ih, hfile, List.flatMap_cons, numbered_append, List.filter_append, hcount]

theorem lines_concat (path : String) (h : ∀ file ∈ files.dropLast, file.Closed) :
    (concat path files).lines = relocated path 0 files := by
  rw [lines_eq_filter, relocated_eq_filter, ← physicalLines_join h]
  rfl

theorem forall₂_relocated (path : String) (before : Nat) (files : List LogFile) :
    List.Forall₂ (fun line line' => line.text = line'.text) (collectLines files)
      (relocated path before files) := by
  induction files generalizing before with
  | nil => exact .nil
  | cons file files ih =>
      rw [collectLines, List.flatMap_cons, relocated]
      refine List.rel_append ?_ (ih _)
      exact List.forall₂_map_right_iff.mpr (List.forall₂_same.mpr fun _ _ => rfl)

theorem forall₂_counterparts (path : String) (h : ∀ file ∈ files.dropLast, file.Closed) :
    List.Forall₂ (Counterparts path files) (collectLines files) (concat path files).lines := by
  have htexts := forall₂_relocated path 0 files
  rw [← lines_concat path h] at htexts
  refine List.forall₂_iff_zip.mpr ⟨htexts.length_eq, ?_⟩
  intro line line' member
  exact ⟨member, (List.forall₂_iff_zip.mp htexts).2 member⟩

/-- If a new line begins after every file but the last, the one file with all texts has the lines of the
    files in order, with numbers that go on from file to file. Whether the lines are of transactions or of
    clients, both runs end with the same value, or they fail in the same way at counterparts. -/
theorem concat_alike (path : String) (files : List LogFile)
    (h : ∀ file ∈ files.dropLast, file.Closed) (settings : Settings) :
    (concat path files).lines = relocated path 0 files ∧
    (concat path files).lines.map LogLine.text = (collectLines files).map LogLine.text ∧
    AlikeUpTo (Counterparts path files) (Analysis.ofLines (collectLines files) settings)
      (Analysis.ofLines (concat path files).lines settings) ∧
    AlikeUpTo (Counterparts path files) (MicrobenchSummary.ofLines (collectLines files))
      (MicrobenchSummary.ofLines (concat path files).lines) := by
  have hlines := forall₂_counterparts path h
  refine ⟨lines_concat path h, ?_, ?_, ?_⟩
  · rw [← List.forall₂_eq_eq_eq, List.forall₂_map_left_iff, List.forall₂_map_right_iff]
    exact hlines.flip.imp fun _ _ hline => hline.2.symm
  · apply Analysis.ofLines_alike _ hlines
    intro line line' hline
    rw [hline.2]
  · exact MicrobenchSummary.ofLines_alike (fun _ _ hline => hline.2) hlines

/-- A file with carriage returns, an empty one, one with nothing but a comment, and one whose last line
    has no ending and is malformed. -/
def fourFiles : List LogFile :=
  [⟨"a.log", "# client 1\r\n1 0.0 0.1 5 1\r\n"⟩, ⟨"b.log", ""⟩, ⟨"c.log", "#\n"⟩,
    ⟨"d.log", "\n2 0.0 0.2 7 9"⟩]

theorem concat_alike_fourFiles :
    (∀ file ∈ fourFiles.dropLast, file.Closed) ∧
    (concat "all.log" fourFiles).lines =
      [⟨"all.log", 2, "1 0.0 0.1 5 1"⟩, ⟨"all.log", 5, "2 0.0 0.2 7 9"⟩] ∧
    AlikeUpTo (Counterparts "all.log" fourFiles) (Analysis.ofLines (collectLines fourFiles) {})
      (Analysis.ofLines (concat "all.log" fourFiles).lines {}) := by
  have hclosed : ∀ file ∈ fourFiles.dropLast, file.Closed := by
    unfold Closed Text.Closed
    decide
  obtain ⟨hlines, -, halike, -⟩ := concat_alike "all.log" fourFiles hclosed {}
  refine ⟨hclosed, ?_, halike⟩
  rw [hlines]
  decide +kernel

end LogFile

end BenchLog
