import BenchLog.Proofs.Delivery
import BenchLog.Proofs.Failures
import BenchLog.Proofs.LineSearch
import BenchLog.Proofs.Noise

/-!
# Which malformed line is named

A line of a log is malformed if it is not text, or if it carries a record that is no entry. All logs are
decoded before any record is read, so a line that is not text is named even if a line before it is
malformed in its fields. That is the only way in which a line is named that is not the first malformed one
(`Program.names_first_malformed_iff`).
-/

namespace BenchLog

/-- A line of a file that need not be text. -/
structure ByteLine where
  path : String
  number : Nat
  bytes : List UInt8
  deriving DecidableEq, Repr

namespace ByteLine

/-- The text of a line, if it is text. -/
def text? (line : ByteLine) : Option (List Char) := Text.Utf8.decode? line.bytes

/-- Whether a line is text and carries a record. -/
def carriesRecord (line : ByteLine) : Bool := line.text?.any (!isIgnored ·)

/-- Whether a line is not text, or carries a record that is no entry. -/
def isMalformed (line : ByteLine) : Bool :=
  line.text?.all fun text => !isIgnored text && !(Entry.ofWords (Text.words text)).isOk

/-- Lines of a file, numbered one after the other. -/
def numbered (path : String) (first : Nat) (lines : List (List UInt8)) : List ByteLine :=
  (lines.zipIdx first).map fun (bytes, number) => ⟨path, number, bytes⟩

/-- All lines of a file. -/
def linesOf (path : String) (bytes : List UInt8) : List ByteLine :=
  numbered path 1 (bytes.splitOnP (· == 10))

/-- All lines of some files with these contents, one file after the other. -/
def linesOfAll (contents : String → List UInt8) (paths : List String) : List ByteLine :=
  paths.flatMap fun path => linesOf path (contents path)

theorem numbered_cons (path : String) (first : Nat) (bytes : List UInt8) (lines : List (List UInt8)) :
    numbered path first (bytes :: lines) = ⟨path, first, bytes⟩ :: numbered path (first + 1) lines :=
  rfl

theorem numbered_append (path : String) (first : Nat) (left right : List (List UInt8)) :
    numbered path first (left ++ right) =
      numbered path first left ++ numbered path (first + left.length) right := by
  rw [numbered, List.zipIdx_append, List.map_append]
  rfl

theorem getElem?_of_mem_numbered {path : String} {first : Nat} {lines : List (List UInt8)}
    {line : ByteLine} (member : line ∈ numbered path first lines) :
    line.path = path ∧ lines[line.number - first]? = some line.bytes := by
  obtain ⟨⟨bytes, number⟩, hzip, rfl⟩ := List.mem_map.mp member
  exact ⟨rfl, (List.mk_mem_zipIdx_iff_le_and_getElem?_sub.mp hzip).2⟩

theorem mem_linesOfAll {contents : String → List UInt8} {paths : List String} {path : String}
    {line : ByteLine} (hpath : path ∈ paths) (hline : line ∈ linesOf path (contents path)) :
    line ∈ linesOfAll contents paths :=
  List.mem_flatMap.mpr ⟨path, hpath, hline⟩

/-- The path and the number of a line tell its bytes. -/
theorem bytes_eq_of_mem {contents : String → List UInt8} {paths : List String} {line other : ByteLine}
    (member : line ∈ linesOfAll contents paths) (member' : other ∈ linesOfAll contents paths)
    (hpath : line.path = other.path) (hnumber : line.number = other.number) :
    line.bytes = other.bytes := by
  obtain ⟨path, -, hline⟩ := List.mem_flatMap.mp member
  obtain ⟨path', -, hother⟩ := List.mem_flatMap.mp member'
  obtain ⟨rfl, hbytes⟩ := getElem?_of_mem_numbered hline
  obtain ⟨rfl, hbytes'⟩ := getElem?_of_mem_numbered hother
  rw [hpath, hnumber, hbytes'] at hbytes
  exact (Option.some.inj hbytes).symm

/-! ## The first line that is not text -/

theorem find?_numbered_of_text (path : String) (first : Nat) {lines : List (List UInt8)}
    (h : ∀ line ∈ lines, Text.Utf8.IsText line) :
    (numbered path first lines).find? (·.text?.isNone) = none := by
  rw [List.find?_eq_none]
  intro line member hnone
  obtain ⟨⟨found, number⟩, hzip, rfl⟩ := List.mem_map.mp member
  exact Text.Utf8.isText_iff.mp (h found (List.fst_mem_of_mem_zipIdx hzip))
    (by simpa [text?] using hnone)

/-- Bytes that are not text are reported at the first of their lines that is not. -/
theorem find?_linesOf_of_none (path : String) {bytes : List UInt8}
    (h : Text.Utf8.decode? bytes = none) :
    ∃ bad text fault, (linesOf path bytes).find? (·.text?.isNone) = some bad ∧
      LogFile.ofBytes path bytes = .error (.malformed ⟨bad.path, bad.number, text⟩ (.notText fault)) := by
  obtain ⟨fault, before, line, -, hholds, hbefore, hline, hofBytes⟩ :=
    LogFile.ofBytes_of_not_text path (mt Text.Utf8.isText_iff.mp (not_not.mpr h))
  obtain ⟨after, hpieces⟩ := hholds.1
  refine ⟨⟨path, 1 + before.length, line⟩, _, fault, ?_, Nat.add_comm _ 1 ▸ hofBytes⟩
  have hnone : Text.Utf8.decode? line = none := not_not.mp (mt Text.Utf8.isText_iff.mpr hline)
  rw [linesOf, hpieces, numbered_append, List.find?_append, find?_numbered_of_text path 1 hbefore,
    Option.none_or, numbered_cons]
  simp [text?, hnone]

theorem find?_linesOf_of_some (path : String) {bytes : List UInt8} {text : List Char}
    (h : Text.Utf8.decode? bytes = some text) :
    (linesOf path bytes).find? (·.text?.isNone) = none :=
  find?_numbered_of_text path 1
    (Text.Utf8.isText_iff_lines.mp (Text.Utf8.isText_iff.mpr (by simp [h])))

theorem find?_linesOfAll {contents : String → List UInt8} {paths : List String} {path : String}
    {bad : ByteLine}
    (h : paths.find? (fun path => (Text.Utf8.decode? (contents path)).isNone) = some path)
    (hbad : (linesOf path (contents path)).find? (·.text?.isNone) = some bad) :
    (linesOfAll contents paths).find? (·.text?.isNone) = some bad := by
  induction paths with
  | nil => cases h
  | cons other paths ih =>
      rw [linesOfAll, List.flatMap_cons, List.find?_append]
      rw [List.find?_cons] at h
      cases hother : Text.Utf8.decode? (contents other) with
      | none =>
          simp only [hother, Option.isNone_none, Option.some.injEq] at h
          subst h
          rw [hbad, Option.some_or]
      | some text =>
          simp only [hother, Option.isNone_some] at h
          rw [find?_linesOf_of_some other hother, Option.none_or]
          exact ih h

/-- If all files are text, so are all lines. -/
theorem text?_ne_none_of_mem {contents : String → List UInt8} {paths : List String}
    (h : ∀ path ∈ paths, Text.Utf8.decode? (contents path) ≠ none) {line : ByteLine}
    (member : line ∈ linesOfAll contents paths) : line.text? ≠ none := by
  obtain ⟨path, hpath, hline⟩ := List.mem_flatMap.mp member
  obtain ⟨text, htext⟩ := Option.ne_none_iff_exists'.mp (h path hpath)
  have hnone := List.find?_eq_none.mp (find?_linesOf_of_some path htext) line hline
  simpa using hnone

theorem isMalformed_of_text?_eq_none {line : ByteLine} (h : line.text? = none) :
    line.isMalformed = true := by
  simp [isMalformed, h]

theorem find?_not_text_of_find?_isMalformed {lines : List ByteLine} {first : ByteLine}
    (h : lines.find? isMalformed = some first) (hnone : first.text? = none) :
    lines.find? (·.text?.isNone) = some first := by
  rw [List.find?_eq_some_iff_append] at h ⊢
  obtain ⟨-, before, after, hlines, hbefore⟩ := h
  refine ⟨by simp [hnone], before, after, hlines, ?_⟩
  intro earlier member
  have hsound := hbefore earlier member
  cases hearlier : earlier.text? with
  | none => simp [isMalformed_of_text?_eq_none hearlier] at hsound
  | some text => simp

/-- The first malformed line is text, but some line behind it is not. -/
def Overtaken (lines : List ByteLine) : Prop :=
  ∃ first, lines.find? isMalformed = some first ∧ first.text? ≠ none ∧
    ∃ line ∈ lines, line.text? = none

/-! ## Lines of text -/

/-- A line of text as it stands among the lines of bytes. -/
def Reads (line : LogLine) (source : ByteLine) : Prop :=
  line.path = source.path ∧ line.number = source.number ∧
    ∃ text, source.text? = some text ∧
      Text.dropReturns line.text.toList = Text.dropReturns text

theorem Reads.carriesRecord {line : LogLine} {source : ByteLine} (h : Reads line source) :
    (!isIgnored line.text.toList) = source.carriesRecord := by
  obtain ⟨-, -, text, htext, hreturns⟩ := h
  have hignored : isIgnored line.text.toList = isIgnored text := by
    rw [← Text.isIgnored_dropReturns, hreturns, Text.isIgnored_dropReturns]
  rw [ByteLine.carriesRecord, htext, hignored]
  rfl

/-- Where a record is carried, a line is malformed if and only if it is no entry. -/
theorem Reads.isMalformed {line : LogLine} {source : ByteLine} (h : Reads line source) :
    source.isMalformed = (source.carriesRecord && !Entry.accepts line) := by
  obtain ⟨-, -, text, htext, hreturns⟩ := h
  have hwords : Text.words line.text.toList = Text.words text := by
    rw [← Text.words_dropReturns, hreturns, Text.words_dropReturns]
  have haccepts : Entry.accepts line = (Entry.ofWords (Text.words text)).isOk := by
    rw [Bool.eq_iff_iff, Entry.accepts_iff, Loop.isOk_iff]
    simp only [Entry.ofLine_eq_ok_iff, hwords]
  rw [ByteLine.isMalformed, ByteLine.carriesRecord, htext, haccepts]
  rfl

theorem forall₂_numbered (path : String) (first : Nat) {texts : List (List Char)}
    {lines : List (List UInt8)}
    (h : List.Forall₂ (fun text line => ∃ piece, Text.Utf8.decode? line = some piece ∧
      Text.dropReturns text = Text.dropReturns piece) texts lines) :
    List.Forall₂ Reads (LogFile.numbered path first texts) (numbered path first lines) := by
  induction h generalizing first with
  | nil => exact .nil
  | cons hline _ ih =>
      obtain ⟨piece, hpiece, hreturns⟩ := hline
      refine .cons ⟨rfl, rfl, piece, hpiece, ?_⟩ (ih (first + 1))
      simpa using hreturns

theorem forall₂_trans {α β γ : Type} {R : α → β → Prop} {S : β → γ → Prop} {xs : List α}
    {ys : List β} {zs : List γ} (h : List.Forall₂ R xs ys) (h' : List.Forall₂ S ys zs) :
    List.Forall₂ (fun x z => ∃ y, R x y ∧ S y z) xs zs := by
  induction h generalizing zs with
  | nil =>
      cases h'
      exact .nil
  | cons hhead _ ih =>
      cases h' with
      | cons hhead' htail' => exact .cons ⟨_, hhead, hhead'⟩ (ih htail')

/-- The lines of a file of text are those of its lines of bytes that carry a record. -/
theorem forall₂_lines (path : String) {bytes : List UInt8} {text : List Char}
    (h : Text.Utf8.decode? bytes = some text) :
    List.Forall₂ Reads (LogFile.lines ⟨path, String.ofList text⟩)
      ((linesOf path bytes).filter carriesRecord) := by
  obtain ⟨pieces, rest, hpieces, hlines, hrest⟩ := Text.forall₂_physicalLines text
  have hmap := Text.Utf8.map_decode?_pieces h
  rw [hpieces, List.map_append] at hmap
  obtain ⟨sources, last, hsources, hleft, hright⟩ := List.map_eq_append_iff.mp hmap
  -- What is behind the last line feed is no line if it is empty, and then it carries no record.
  have hlast : (numbered path (1 + sources.length) last).filter carriesRecord = [] := by
    rw [List.filter_eq_nil_iff]
    intro line member
    obtain ⟨⟨found, number⟩, hzip, rfl⟩ := List.mem_map.mp member
    have hfound := List.mem_map_of_mem (f := Text.Utf8.decode?) (List.fst_mem_of_mem_zipIdx hzip)
    rw [hright] at hfound
    obtain ⟨piece, hpiece, hdecode⟩ := List.mem_map.mp hfound
    rw [hrest piece hpiece] at hdecode
    simp [carriesRecord, text?, ← hdecode, isIgnored]
  have hdecoded : List.Forall₂ (fun piece line => Text.Utf8.decode? line = some piece) pieces
      sources := by
    rw [← List.forall₂_eq_eq_eq, List.forall₂_map_left_iff, List.forall₂_map_right_iff] at hleft
    exact hleft.flip
  have hnumbered := forall₂_numbered path 1 ((forall₂_trans hlines hdecoded).imp (by
    rintro line source ⟨piece, hreturns, hpiece⟩
    exact ⟨piece, hpiece, hreturns⟩))
  rw [LogFile.lines_eq_filter, LogFile.allLines, linesOf, hsources, numbered_append,
    List.filter_append, hlast, List.append_nil]
  simp only [String.toList_ofList]
  refine List.rel_filter ?_ hnumbered
  intro line source hline
  simp only [hline.carriesRecord]

end ByteLine

/-! ## The first malformed line of text -/

open ByteLine

variable {contents : String → List UInt8} {paths : List String}

theorem forall₂_collectLines {files : List LogFile}
    (h : List.Forall₂ (fun path file => ∃ text, Text.Utf8.decode? (contents path) = some text ∧
      file = ⟨path, String.ofList text⟩) paths files) :
    List.Forall₂ Reads (collectLines files) ((linesOfAll contents paths).filter carriesRecord) := by
  induction h with
  | nil => exact .nil
  | cons hfile _ ih =>
      obtain ⟨text, htext, rfl⟩ := hfile
      rw [collectLines, List.flatMap_cons, linesOfAll, List.flatMap_cons, List.filter_append]
      exact List.rel_append (forall₂_lines _ htext) ih

theorem find?_of_firstFault {lines : List LogLine} {line : LogLine} {reason : Reason}
    (h : Entry.FirstFault lines line reason) : lines.find? (!Entry.accepts ·) = some line := by
  obtain ⟨before, after, rfl, hbefore, hline⟩ := h
  rw [List.find?_eq_some_iff_append]
  refine ⟨?_, before, after, rfl, ?_⟩
  · simp [Entry.accepts_eq_false_iff.mpr ⟨reason, hline⟩]
  · intro earlier member
    simp [hbefore earlier member]

/-- The first line that is no entry stands where the first malformed line stands. -/
theorem find?_isMalformed {lines : List LogLine} {sources : List ByteLine}
    (h : List.Forall₂ Reads lines (sources.filter carriesRecord))
    (htext : ∀ source ∈ sources, source.text? ≠ none) {line : LogLine}
    (hline : lines.find? (!Entry.accepts ·) = some line) :
    ∃ named, sources.find? isMalformed = some named ∧ Reads line named := by
  induction sources generalizing lines with
  | nil =>
      cases h
      cases hline
  | cons source sources ih =>
      have hrest : ∀ other ∈ sources, other.text? ≠ none := fun other member =>
        htext other (by simp [member])
      cases hcarries : source.carriesRecord with
      | false =>
          rw [List.filter_cons, hcarries] at h
          obtain ⟨text, hsource⟩ := Option.ne_none_iff_exists'.mp (htext source (by simp))
          have hsound : source.isMalformed = false := by
            simp_all [carriesRecord, isMalformed]
          rw [List.find?_cons, hsound]
          exact ih h hrest hline
      | true =>
          rw [List.filter_cons, hcarries] at h
          cases h with
          | cons hreads htail =>
              rw [List.find?_cons, hreads.isMalformed, hcarries, Bool.true_and]
              rw [List.find?_cons] at hline
              split at hline
              · cases hline
                exact ⟨source, rfl, hreads⟩
              · exact ih htail hrest hline

theorem LogFile.ofBytes_of_some (path : String) {bytes : List UInt8} {text : List Char}
    (h : Text.Utf8.decode? bytes = some text) :
    LogFile.ofBytes path bytes = .ok ⟨path, String.ofList text⟩ := by
  rw [Text.Utf8.decode?] at h
  rw [LogFile.ofBytes]
  cases hfault : Text.Utf8.fault? (Text.Utf8.scan bytes) with
  | none =>
      rw [hfault] at h
      cases h
      rfl
  | some fault =>
      rw [hfault] at h
      cases h

namespace Program

variable {tree : FileTree} {settings : Settings}

theorem look_mapM {α β : Type} (tree : FileTree) (reading : α → Reading β) (items : List α) :
    look tree (items.mapM reading) = items.mapM fun item => look tree (reading item) := by
  induction items with
  | nil => rfl
  | cons item items ih =>
      rw [List.mapM_cons, List.mapM_cons, look_bind]
      cases look tree (reading item) with
      | error error => rfl
      | ok result =>
          rw [Loop.ok_bind, ← ih]
          simp only [look_bind]
          cases look tree (items.mapM reading) <;> rfl

theorem look_openLog {path : String} {bytes : List UInt8} (h : tree.read path = .ok bytes) :
    look tree (openLog path) = (LogFile.ofBytes path bytes).mapError .analysis := by
  rw [openLog, look_bind, look_readFile, h]
  rfl

/-- The log that a file with these contents is, if it is text. -/
def opened (contents : String → List UInt8) (path : String) : LogFile :=
  ⟨path, String.ofList ((Text.Utf8.decode? (contents path)).getD [])⟩

/-- If all logs are text, the run comes to what an analysis of their lines comes to. -/
theorem look_report_of_text (readable : ∀ path ∈ settings.logs, tree.read path = .ok (contents path))
    (htext : ∀ path ∈ settings.logs, Text.Utf8.decode? (contents path) ≠ none) :
    ∃ files, List.Forall₂ Reads (collectLines files)
        ((linesOfAll contents settings.logs).filter carriesRecord) ∧
      look tree (report settings) = (analyze (collectLines files) settings).mapError .analysis := by
  have hopen : ∀ path ∈ settings.logs, look tree (openLog path) = .ok (opened contents path) := by
    intro path member
    obtain ⟨text, hpath⟩ := Option.ne_none_iff_exists'.mp (htext path member)
    rw [look_openLog (readable path member), LogFile.ofBytes_of_some path hpath]
    simp [opened, hpath, Except.mapError]
  have hfiles : look tree (settings.logs.mapM openLog) = .ok (settings.logs.map (opened contents)) := by
    rw [look_mapM, Loop.mapM_eq_ok_iff, List.forall₂_map_right_iff, List.forall₂_same]
    exact hopen
  refine ⟨settings.logs.map (opened contents), forall₂_collectLines ?_, ?_⟩
  · rw [List.forall₂_map_right_iff, List.forall₂_same]
    intro path member
    obtain ⟨text, hpath⟩ := Option.ne_none_iff_exists'.mp (htext path member)
    exact ⟨text, hpath, by simp [opened, hpath]⟩
  · rw [report, look_bind, hfiles]
    rfl

/-- A line that is not text is named before any record is read. -/
theorem look_report_of_not_text
    (readable : ∀ path ∈ settings.logs, tree.read path = .ok (contents path)) {bad : ByteLine}
    (hbad : (linesOfAll contents settings.logs).find? (·.text?.isNone) = some bad) :
    ∃ text fault, look tree (report settings) =
      .error (.analysis (.malformed ⟨bad.path, bad.number, text⟩ (.notText fault))) := by
  cases hfirst : settings.logs.find? fun path => (Text.Utf8.decode? (contents path)).isNone with
  | none =>
      have htext : ∀ path ∈ settings.logs, Text.Utf8.decode? (contents path) ≠ none := by
        simpa using List.find?_eq_none.mp hfirst
      have hbadtext := text?_ne_none_of_mem htext (List.mem_of_find?_eq_some hbad)
      exact absurd (by simpa using List.find?_some hbad) hbadtext
  | some path =>
      obtain ⟨hpath, before, after, hlogs, hbefore⟩ := List.find?_eq_some_iff_append.mp hfirst
      have hnone : Text.Utf8.decode? (contents path) = none := by simpa using hpath
      obtain ⟨first, text, fault, hfind, hofBytes⟩ := find?_linesOf_of_none path hnone
      obtain rfl : bad = first := Option.some.inj (hbad.symm.trans (find?_linesOfAll hfirst hfind))
      have hfiles : look tree (settings.logs.mapM openLog) = .error (.analysis
          (.malformed ⟨bad.path, bad.number, text⟩ (.notText fault))) := by
        rw [look_mapM, Loop.mapM_eq_error_iff]
        refine ⟨before, path, after, hlogs, ?_, ?_⟩
        · intro earlier member
          obtain ⟨text, hearlier⟩ := Option.isSome_iff_exists.mp
            (by simpa using hbefore earlier member)
          rw [look_openLog (readable earlier (by simp [hlogs, member])),
            LogFile.ofBytes_of_some earlier hearlier]
          exact ⟨_, rfl⟩
        · rw [look_openLog (readable path (by simp [hlogs])), hofBytes]
          rfl
      refine ⟨text, fault, ?_⟩
      rw [report, look_bind, hfiles]

/-- If a malformed line is named, it is the first one. -/
def NamesFirstMalformed (tree : FileTree) (settings : Settings) (lines : List ByteLine) : Prop :=
  ∀ line reason, look tree (report settings) = .error (.analysis (.malformed line reason)) →
    ∃ first, lines.find? isMalformed = some first ∧
      first.path = line.path ∧ first.number = line.number

theorem names_of_text (kind : settings.inputKind = .transactions)
    (readable : ∀ path ∈ settings.logs, tree.read path = .ok (contents path))
    (htext : ∀ path ∈ settings.logs, Text.Utf8.decode? (contents path) ≠ none) :
    NamesFirstMalformed tree settings (linesOfAll contents settings.logs) := by
  intro line reason hreport
  obtain ⟨files, hlines, hlook⟩ := look_report_of_text readable htext
  have hanalysis : Analysis.ofLines (collectLines files) settings = .error (.malformed line reason) := by
    obtain ⟨failure, hanalyze, hfailure⟩ := Loop.mapError_eq_error_iff.mp (hlook.symm.trans hreport)
    cases hfailure
    simp only [analyze, kind] at hanalyze
    rcases Loop.bind_eq_error_iff.mp hanalyze with herror | ⟨analysis, -, hok⟩
    · exact herror
    · cases hok
  have hfirst := find?_of_firstFault (Analysis.firstFault_of_ofLines hanalysis)
  obtain ⟨named, hnamed, hpath, hnumber, -⟩ :=
    find?_isMalformed hlines (fun _ => text?_ne_none_of_mem htext) hfirst
  exact ⟨named, hnamed, hpath.symm, hnumber.symm⟩

theorem names_of_not_overtaken
    (readable : ∀ path ∈ settings.logs, tree.read path = .ok (contents path)) {bad : ByteLine}
    (hbad : (linesOfAll contents settings.logs).find? (·.text?.isNone) = some bad)
    (h : ¬Overtaken (linesOfAll contents settings.logs)) :
    NamesFirstMalformed tree settings (linesOfAll contents settings.logs) := by
  intro line reason hreport
  have member := List.mem_of_find?_eq_some hbad
  have hnone : bad.text? = none := by simpa using List.find?_some hbad
  obtain ⟨text, fault, hlook⟩ := look_report_of_not_text readable hbad
  rw [hlook] at hreport
  cases hreport
  cases hfirst : (linesOfAll contents settings.logs).find? isMalformed with
  | none =>
      have hsound := List.find?_eq_none.mp hfirst bad member
      exact absurd (isMalformed_of_text?_eq_none hnone) hsound
  | some first =>
      have hfirstnone : first.text? = none := by
        by_contra htext
        exact h ⟨first, hfirst, htext, bad, member, hnone⟩
      have hsame := find?_not_text_of_find?_isMalformed hfirst hfirstnone
      rw [hbad, Option.some.injEq] at hsame
      subst hsame
      exact ⟨bad, rfl, rfl, rfl⟩

theorem not_names_of_overtaken
    (readable : ∀ path ∈ settings.logs, tree.read path = .ok (contents path))
    (h : Overtaken (linesOfAll contents settings.logs)) :
    ¬NamesFirstMalformed tree settings (linesOfAll contents settings.logs) := by
  intro names
  obtain ⟨first, hfirst, htext, line, member, hnone⟩ := h
  cases hbad : (linesOfAll contents settings.logs).find? (·.text?.isNone) with
  | none => simpa [hnone] using List.find?_eq_none.mp hbad line member
  | some bad =>
      obtain ⟨text, fault, hlook⟩ := look_report_of_not_text readable hbad
      obtain ⟨named, hnamed, hpath, hnumber⟩ := names _ _ hlook
      rw [hfirst, Option.some.injEq] at hnamed
      subst hnamed
      have hbytes := bytes_eq_of_mem (List.mem_of_find?_eq_some hfirst)
        (List.mem_of_find?_eq_some hbad) hpath hnumber
      have hbadnone : bad.text? = none := by simpa using List.find?_some hbad
      rw [text?, hbytes] at htext
      exact htext hbadnone

/-- Of transactions in logs that can be read, a malformed line that is named is the first one, unless the
    first one is text and a line behind it is not. The first line that is not text is always named. -/
theorem names_first_malformed_iff (kind : settings.inputKind = .transactions)
    (readable : ∀ path ∈ settings.logs, tree.read path = .ok (contents path)) :
    (NamesFirstMalformed tree settings (linesOfAll contents settings.logs) ↔
      ¬Overtaken (linesOfAll contents settings.logs)) ∧
    ∀ bad, (linesOfAll contents settings.logs).find? (·.text?.isNone) = some bad →
      ∃ text fault, look tree (report settings) =
        .error (.analysis (.malformed ⟨bad.path, bad.number, text⟩ (.notText fault))) := by
  refine ⟨⟨?_, ?_⟩, fun bad => look_report_of_not_text readable⟩
  · intro names overtaken
    exact not_names_of_overtaken readable overtaken names
  · intro h
    cases hbad : (linesOfAll contents settings.logs).find? (·.text?.isNone) with
    | some bad => exact names_of_not_overtaken readable hbad h
    | none =>
        apply names_of_text kind readable
        intro path member hnone
        obtain ⟨bad, -, -, hline, -⟩ := find?_linesOf_of_none path hnone
        have hmem := mem_linesOfAll member (List.mem_of_find?_eq_some hline)
        exact List.find?_eq_none.mp hbad _ hmem (by simpa using List.find?_some hline)

/-- A line that is no entry, and then one that is not text. -/
def wordThenByte : List UInt8 := "oops\n".toUTF8.toList ++ [0xFF, 10]

/-- A tree with one log. -/
def runLog (bytes : List UInt8) : FileTree := { root := [("run.log", .file bytes)] }

theorem read_wordThenByte : ∀ path ∈ ({ logs := ["run.log"] } : Settings).logs,
    (runLog wordThenByte).read path = .ok wordThenByte := by
  decide +kernel

theorem overtaken_wordThenByte : Overtaken (linesOfAll (fun _ => wordThenByte) ["run.log"]) :=
  ⟨⟨"run.log", 1, "oops".toUTF8.toList⟩, by decide +kernel, by decide +kernel,
    ⟨"run.log", 2, [0xFF]⟩, by decide +kernel, by decide +kernel⟩

/-- The second line is named, although the first one is malformed too. -/
theorem names_second_wordThenByte :
    (∃ text fault, look (runLog wordThenByte) (report { logs := ["run.log"] }) =
      .error (.analysis (.malformed ⟨"run.log", 2, text⟩ (.notText fault)))) ∧
    ByteLine.isMalformed ⟨"run.log", 1, "oops".toUTF8.toList⟩ = true ∧
    ¬NamesFirstMalformed (runLog wordThenByte) { logs := ["run.log"] }
      (linesOfAll (fun _ => wordThenByte) ["run.log"]) := by
  have hbad : (linesOfAll (fun _ => wordThenByte) ["run.log"]).find? (·.text?.isNone) =
      some ⟨"run.log", 2, [0xFF]⟩ := by
    decide +kernel
  refine ⟨look_report_of_not_text read_wordThenByte hbad, by decide +kernel, ?_⟩
  exact not_names_of_overtaken read_wordThenByte overtaken_wordThenByte

theorem names_first_malformed_iff_wordThenByte :
    (NamesFirstMalformed (runLog wordThenByte) { logs := ["run.log"] }
        (linesOfAll (fun _ => wordThenByte) ["run.log"]) ↔
      ¬Overtaken (linesOfAll (fun _ => wordThenByte) ["run.log"])) ∧
    Overtaken (linesOfAll (fun _ => wordThenByte) ["run.log"]) :=
  ⟨(names_first_malformed_iff rfl read_wordThenByte).1, overtaken_wordThenByte⟩

end Program

end BenchLog
