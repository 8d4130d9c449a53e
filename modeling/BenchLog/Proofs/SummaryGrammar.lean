import BenchLog.Microbench
import BenchLog.Proofs.EntryGrammar
import BenchLog.Proofs.LiteralText
import BenchLog.Proofs.Trimming

/-!
# The grammar of client summaries

A line is a client summary if and only if, without its last full stop, it is a layout of words with the
labels and the literals at their places, and then the summary has the values that the literals write
(`ClientSummary.Reports`). A line that a client puts together from literals of its values is read back to
these values, whatever the blanks, and with its full stop or without (`ofLine_reports`): the full stop that
is dropped may be the point of the last literal, but that literal writes the same without it
(`WritesFloat.of_append_point`).
-/

namespace BenchLog

open Decimal Text

namespace ClientSummary

/-! ## The full stop -/

/-- What is left of a text without the blanks at its end and without one full stop before them. -/
inductive DropsStop : List Char → List Char → Prop where
  | stop {body gap : List Char} (hgap : Blank gap) : DropsStop (body ++ '.' :: gap) body
  | plain {body gap : List Char} (hgap : Blank gap)
      (hlast : ∀ c ∈ body.getLast?, isBlank c = false ∧ c ≠ '.') : DropsStop (body ++ gap) body

theorem dropStop_eq_iff {text body : List Char} : dropStop text = body ↔ DropsStop text body := by
  constructor
  · rintro rfl
    obtain ⟨gap, hgap, htext, hlast⟩ := exists_trimEnd text
    unfold dropStop
    generalize trimEnd text = trimmed at htext hlast
    subst htext
    dsimp only
    split
    · rename_i hstop
      have hsplit : trimmed.dropLast ++ ['.'] = trimmed := List.dropLast_append_getLast? _ hstop
      have hdrops : DropsStop (trimmed.dropLast ++ '.' :: gap) trimmed.dropLast := .stop hgap
      rwa [← List.singleton_append, ← List.append_assoc, hsplit] at hdrops
    · rename_i hstop
      refine .plain hgap fun c hc => ⟨hlast c hc, ?_⟩
      rintro rfl
      exact hstop hc
  · rintro (⟨hgap⟩ | ⟨hgap, hlast⟩)
    · rename_i gap
      have hlast : ∀ c ∈ (body ++ ['.']).getLast?, isBlank c = false := by
        rw [List.getLast?_concat]
        rintro c ⟨⟩
        rfl
      have htrim : trimEnd (body ++ '.' :: gap) = body ++ ['.'] := by
        rw [List.append_cons]
        exact trimEnd_append hgap hlast
      simp [dropStop, htrim]
    · have htrim := trimEnd_append hgap fun c hc => (hlast c hc).1
      have hstop : body.getLast? ≠ some '.' := fun h => (hlast _ h).2 rfl
      simp [dropStop, htrim, hstop]

/-! ## Labels and values -/

/-- The words of a client's line, with labels and literals at their places, and the values that the
    literals write. -/
@[mk_iff]
structure Reports (words : List (List Char)) (client : ClientSummary) : Prop where
  enough : 22 ≤ words.length
  throughputLabel : words[5]? = some "throughput:".toList
  throughput : ∃ word ∈ words[6]?, WritesWord word client.throughput
  medianLabel : words[8]? = some "median".toList ∧ words[9]? = some "latency:".toList
  median : ∃ word ∈ words[10]?, WritesWord word client.median
  p99Label : words[12]? = some "99%".toList ∧ words[13]? = some "latency:".toList
  p99 : ∃ word ∈ words[14]?, WritesWord word client.p99
  p999Label : words[16]? = some "99.9%".toList ∧ words[17]? = some "latency:".toList
  p999 : ∃ word ∈ words[18]?, WritesWord word client.p999
  meanLabel : words[20]? = some "mean:".toList
  mean : ∃ word ∈ words[21]?, WritesFloat word client.mean

theorem getElem?_eq_wordAt {words : List (List Char)} {position : ℕ} (h : position < words.length) :
    words[position]? = some (wordAt words position) := by
  simp [wordAt, h]

theorem checkLabel_eq_ok_iff {words : List (List Char)} {label : ℕ × String} {u : Unit} :
    checkLabel words label = .ok u ↔ wordAt words label.1 = label.2.toList := by
  unfold checkLabel
  dsimp only
  split <;> simp_all

theorem forM_checkLabel_eq_ok_iff {words : List (List Char)} {found : List (ℕ × String)} {u : Unit} :
    found.forM (checkLabel words) = .ok u ↔
      ∀ label ∈ found, wordAt words label.1 = label.2.toList := by
  induction found with
  | nil => exact iff_of_true rfl (List.forall_mem_nil _)
  | cons label found ih =>
      show (checkLabel words label >>= fun _ => found.forM (checkLabel words)) = .ok u ↔ _
      rw [Loop.bind_eq_ok_iff, List.forall_mem_cons]
      simp only [checkLabel_eq_ok_iff, ih, exists_const]

/-- With enough words there is a word at each place. -/
theorem reports_iff_wordAt {words : List (List Char)} {client : ClientSummary}
    (h : 22 ≤ words.length) : Reports words client ↔
      (∀ label ∈ labels, wordAt words label.1 = label.2.toList) ∧
        WritesWord (wordAt words 6) client.throughput ∧ WritesWord (wordAt words 10) client.median ∧
        WritesWord (wordAt words 14) client.p99 ∧ WritesWord (wordAt words 18) client.p999 ∧
        WritesFloat (wordAt words 21) client.mean := by
  rw [reports_iff]
  simp (disch := omega) only [getElem?_eq_wordAt, Option.some_inj, Option.mem_def, exists_eq_left',
    labels, List.forall_mem_cons, h, true_and]
  constructor
  · rintro ⟨h5, h6, ⟨h8, h9⟩, h10, ⟨h12, h13⟩, h14, ⟨h16, h17⟩, h18, h20, h21⟩
    exact ⟨⟨h5, h8, h9, h12, h13, h16, h17, h20, List.forall_mem_nil _⟩, h6, h10, h14, h18, h21⟩
  · rintro ⟨⟨h5, h8, h9, h12, h13, h16, h17, h20, -⟩, h6, h10, h14, h18, h21⟩
    exact ⟨h5, h6, ⟨h8, h9⟩, h10, ⟨h12, h13⟩, h14, ⟨h16, h17⟩, h18, h20, h21⟩

theorem ofWords_eq_ok_iff {words : List (List Char)} {client : ClientSummary} :
    ofWords words = .ok client ↔ Reports words client := by
  unfold ofWords
  split
  · rename_i hshort
    refine iff_of_false (fun h => nomatch h) fun h => ?_
    exact absurd h.enough (not_le.mpr hshort)
  · rename_i hlong
    rw [reports_iff_wordAt (not_lt.mp hlong)]
    simp only [Loop.bind_eq_ok_iff, forM_checkLabel_eq_ok_iff, Entry.wordField_eq_ok_iff,
      Entry.floatField_eq_ok_iff, exists_const]
    constructor
    · rintro ⟨hlabels, _, hthroughput, _, hmedian, _, hp99, _, hp999, _, hmean, hclient⟩
      cases hclient
      exact ⟨hlabels, hthroughput, hmedian, hp99, hp999, hmean⟩
    · rintro ⟨hlabels, hthroughput, hmedian, hp99, hp999, hmean⟩
      exact ⟨hlabels, _, hthroughput, _, hmedian, _, hp99, _, hp999, _, hmean, rfl⟩

theorem ofLine_eq_ok_iff {line : LogLine} {client : ClientSummary} :
    ofLine line = .ok client ↔ ofWords (words (dropStop line.text.toList)) = .ok client :=
  Loop.mapError_eq_ok_iff

/-! ## Lines that a client writes -/

/-- What a client puts together in its line: five words, the literals of its values, and a unit for each of
    the integers. -/
structure Draft (client : ClientSummary) where
  lead : List (List Char)
  throughput : List Char
  median : List Char
  p99 : List Char
  p999 : List Char
  mean : List Char
  units : Fin 4 → List Char
  length_lead : lead.length = 5
  isWord_lead : ∀ word ∈ lead, IsWord word
  isWord_units : ∀ i, IsWord (units i)
  writes_throughput : WritesWord throughput client.throughput
  writes_median : WritesWord median client.median
  writes_p99 : WritesWord p99 client.p99
  writes_p999 : WritesWord p999 client.p999
  writes_mean : WritesFloat mean client.mean

namespace Draft

variable {client : ClientSummary}

/-- The draft with plain digits for the integers. -/
def ofDigits (lead : List (List Char)) (units : Fin 4 → List Char) (mean : List Char)
    (length_lead : lead.length = 5) (isWord_lead : ∀ word ∈ lead, IsWord word)
    (isWord_units : ∀ i, IsWord (units i))
    (hvalues : ∀ n ∈ [client.throughput, client.median, client.p99, client.p999], n < 2 ^ 64)
    (writes_mean : WritesFloat mean client.mean) : Draft client where
  lead := lead
  throughput := Nat.toDigits 10 client.throughput
  median := Nat.toDigits 10 client.median
  p99 := Nat.toDigits 10 client.p99
  p999 := Nat.toDigits 10 client.p999
  mean := mean
  units := units
  length_lead := length_lead
  isWord_lead := isWord_lead
  isWord_units := isWord_units
  writes_throughput := ⟨writesNat_toDigits _, hvalues _ (by simp)⟩
  writes_median := ⟨writesNat_toDigits _, hvalues _ (by simp)⟩
  writes_p99 := ⟨writesNat_toDigits _, hvalues _ (by simp)⟩
  writes_p999 := ⟨writesNat_toDigits _, hvalues _ (by simp)⟩
  writes_mean := writes_mean

/-- The words from the first label to the last one. -/
def labelled (draft : Draft client) : List (List Char) :=
  ["throughput:".toList, draft.throughput, draft.units 0,
    "median".toList, "latency:".toList, draft.median, draft.units 1,
    "99%".toList, "latency:".toList, draft.p99, draft.units 2,
    "99.9%".toList, "latency:".toList, draft.p999, draft.units 3, "mean:".toList]

/-- The words up to the last literal. -/
def front (draft : Draft client) : List (List Char) := draft.lead ++ draft.labelled

theorem isWord_front (draft : Draft client) : ∀ word ∈ draft.front, IsWord word := by
  refine List.forall_mem_append.mpr ⟨draft.isWord_lead, ?_⟩
  simp only [labelled, List.forall_mem_cons]
  exact ⟨by decide +kernel, draft.writes_throughput.1.isWord, draft.isWord_units 0,
    by decide +kernel, by decide +kernel, draft.writes_median.1.isWord, draft.isWord_units 1,
    by decide +kernel, by decide +kernel, draft.writes_p99.1.isWord, draft.isWord_units 2,
    by decide +kernel, by decide +kernel, draft.writes_p999.1.isWord, draft.isWord_units 3,
    by decide +kernel, List.forall_mem_nil _⟩

theorem reports (draft : Draft client) {mean : List Char} (h : WritesFloat mean client.mean) :
    Reports (draft.front ++ [mean]) client := by
  have hplace (position : ℕ) :
      (draft.front ++ [mean])[5 + position]? = (draft.labelled ++ [mean])[position]? := by
    have hle : draft.lead.length ≤ 5 + position := by
      rw [draft.length_lead]
      exact Nat.le_add_right _ _
    rw [front, List.append_assoc, List.getElem?_append_right hle, draft.length_lead,
      Nat.add_sub_cancel_left]
  exact {
    enough := by simp [front, labelled, draft.length_lead]
    throughputLabel := hplace 0
    throughput := ⟨_, hplace 1, draft.writes_throughput⟩
    medianLabel := ⟨hplace 3, hplace 4⟩
    median := ⟨_, hplace 5, draft.writes_median⟩
    p99Label := ⟨hplace 7, hplace 8⟩
    p99 := ⟨_, hplace 9, draft.writes_p99⟩
    p999Label := ⟨hplace 11, hplace 12⟩
    p999 := ⟨_, hplace 13, draft.writes_p999⟩
    meanLabel := hplace 15
    mean := ⟨_, hplace 16, h⟩ }

/-- The line with one space between any two words. -/
def text (draft : Draft client) : String :=
  String.ofList ([' '].intercalate (draft.front ++ [draft.mean]))

theorem spaced_text (draft : Draft client) :
    Spaced (draft.front ++ [draft.mean]) draft.text.toList := by
  rw [text, String.toList_ofList]
  obtain ⟨first, later, hwords⟩ : ∃ first later, draft.front ++ [draft.mean] = first :: later :=
    List.exists_cons_of_ne_nil (by simp)
  rw [hwords]
  exact spaced_intercalate (by decide) (by decide) first later

/-- A line with the words of a draft is read back to the values, with a full stop or without. -/
theorem ofLine_eq (draft : Draft client) {body stop gap : List Char}
    (hbody : Spaced (draft.front ++ [draft.mean]) body) (hstop : stop = [] ∨ stop = ['.'])
    (hgap : Blank gap) {line : LogLine} (hline : line.text.toList = body ++ stop ++ gap) :
    ofLine line = .ok client := by
  obtain ⟨front, rfl, hfront⟩ := hbody.exists_front
  obtain ⟨mean, hdrops, hmean⟩ : ∃ mean, DropsStop line.text.toList (front ++ mean) ∧
      WritesFloat mean client.mean := by
    rw [hline]
    rcases hstop with rfl | rfl
    · rw [List.append_nil]
      by_cases hpoint : draft.mean.getLast? = some '.'
      · -- The full stop that is dropped is the point of the literal.
        obtain ⟨short, hshort⟩ := List.getLast?_eq_some_iff.mp hpoint
        have hwrites := draft.writes_mean
        rw [hshort] at hwrites ⊢
        refine ⟨short, ?_, hwrites.of_append_point⟩
        rw [← List.append_assoc, List.append_assoc _ ['.'], List.singleton_append]
        exact .stop hgap
      · have hword := draft.writes_mean.isWord
        refine ⟨draft.mean, .plain hgap fun c hc => ?_, draft.writes_mean⟩
        rw [List.getLast?_append_of_ne_nil _ hword.1] at hc
        refine ⟨hword.2 c (List.mem_of_getLast? hc), ?_⟩
        rintro rfl
        exact hpoint hc
    · refine ⟨draft.mean, ?_, draft.writes_mean⟩
      rw [List.append_assoc _ ['.'], List.singleton_append]
      exact .stop hgap
  have hlaid : Laid (draft.front ++ [mean]) (front ++ mean) := by
    refine (hfront mean).laid (List.forall_mem_append.mpr ⟨draft.isWord_front, ?_⟩)
    simpa using hmean.isWord
  rw [ofLine_eq_ok_iff, dropStop_eq_iff.mpr hdrops, hlaid.words_eq]
  exact ofWords_eq_ok_iff.mpr (draft.reports hmean)

theorem ofLine_text (draft : Draft client) (path : String) (number : ℕ) :
    ofLine ⟨path, number, draft.text⟩ = .ok client :=
  draft.ofLine_eq draft.spaced_text (Or.inl rfl) blank_nil (by simp)

end Draft

/-- What is read of a line: a summary if and only if its words report one once the full stop is dropped, and
    else the line is malformed. What a client puts together in its line is read back. -/
theorem ofLine_reports :
    (∀ line client, ofLine line = .ok client ↔
      ∃ body words, DropsStop line.text.toList body ∧ Laid words body ∧ Reports words client) ∧
    (∀ line, (∃ client, ofLine line = .ok client) ∨
      ∃ reason, ofLine line = .error (.malformed line reason)) ∧
    ∀ client, ∀ draft : Draft client, ∀ body stop gap line,
      Spaced (draft.front ++ [draft.mean]) body → stop = [] ∨ stop = ['.'] → Blank gap →
        line.text.toList = body ++ stop ++ gap → ofLine line = .ok client := by
  refine ⟨fun line client => ?_, fun line => ?_, ?_⟩
  · simp only [ofLine_eq_ok_iff, ofWords_eq_ok_iff, laid_iff, ← dropStop_eq_iff]
    simp
  · unfold ofLine
    cases ofWords (words (dropStop line.text.toList)) with
    | ok client => exact Or.inl ⟨client, rfl⟩
    | error reason => exact Or.inr ⟨reason, rfl⟩
  · intro client draft body stop gap line hbody hstop hgap hline
    exact draft.ofLine_eq hbody hstop hgap hline

/-- A client whose mean is written with a point at its end. -/
def pointed (throughput : ℕ) : ClientSummary := ⟨throughput, 7, 15, 20, 9⟩

/-- The client's line, with plain digits for the integers. -/
def pointedDraft {throughput : ℕ} (h : throughput < 2 ^ 64) : Draft (pointed throughput) :=
  .ofDigits ["[INFO]".toList, "[client_main]".toList, "[1]".toList, "Final".toList, "statistics:".toList]
    ![ "IOPS".toList, "us".toList, "us".toList, "us".toList] "9.".toList rfl (by decide +kernel)
    (by decide +kernel) (by simpa [pointed] using h) (by
      have hread : (readFloat "9.".toList).toOption = some 9 := by decide +kernel
      exact readFloat_eq_ok_iff.mp (Loop.toOption_eq_some_iff.mp hread))

/-- The client's line up to the point. -/
def pointedText : String :=
  "[INFO] [client_main] [1] Final statistics: throughput: 515481 IOPS median latency: 7 us " ++
    "99% latency: 15 us 99.9% latency: 20 us mean: 9."

/-- The client's line is read back with its full stop and without. A line with other words is malformed. -/
theorem ofLine_reports_pointed :
    ofLine ⟨"c.log", 1, pointedText⟩ = .ok (pointed 515481) ∧
    ofLine ⟨"c.log", 2, pointedText ++ ". \t"⟩ = .ok (pointed 515481) ∧
    ∃ reason, ofLine ⟨"c.log", 3, "throughput: 515481"⟩ =
      .error (.malformed ⟨"c.log", 3, "throughput: 515481"⟩ reason) := by
  obtain ⟨-, htotal, hreads⟩ := ofLine_reports
  let draft : Draft (pointed 515481) := pointedDraft (by decide)
  have hspaced : Spaced (draft.front ++ [draft.mean]) pointedText.toList := by
    have htext : draft.text = pointedText := by decide +kernel
    rw [← htext]
    exact draft.spaced_text
  refine ⟨?_, ?_, ?_⟩
  · exact hreads _ draft _ [] [] _ hspaced (Or.inl rfl) (by decide) (by simp)
  · exact hreads _ draft _ ['.'] [' ', '\t'] _ hspaced (Or.inr rfl) (by decide) (by simp)
  · refine (htotal _).resolve_left ?_
    rintro ⟨client, hclient⟩
    have hnone : (ofLine ⟨"c.log", 3, "throughput: 515481"⟩).toOption = none := by decide +kernel
    rw [hclient] at hnone
    cases hnone

end ClientSummary

end BenchLog
