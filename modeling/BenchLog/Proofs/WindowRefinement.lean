import BenchLog.Proofs.Failures

/-!
# Analyzing inside a window

A window only chooses lines. Analyzing lines with a window is analyzing those of them that end inside it
without one (`Analysis.ofLines_window_refines`), although the first pass reads all of them, the parts are
cut elsewhere, and the lines outside are skipped one by one while the others are counted.
-/

namespace BenchLog

namespace Window

/-- The lines among some that are entries and end inside a window, both ends included. -/
def inside (window : Window) (lines : List LogLine) : List LogLine :=
  lines.filter fun line =>
    match Entry.ofLine line with
    | .ok entry => decide (window.start ≤ entry.finish ∧ entry.finish ≤ window.stop)
    | .error _ => false

theorem accepted_of_mem_inside {window : Window} {lines : List LogLine} {line : LogLine}
    (h : line ∈ window.inside lines) : Entry.accepts line = true := by
  have hinside := (List.mem_filter.mp h).2
  cases hline : Entry.ofLine line with
  | ok entry => exact Entry.accepts_iff.mpr ⟨entry, hline⟩
  | error failure =>
      rw [hline] at hinside
      cases hinside

/-- What is kept of some lines is the entries of those that end inside the window. -/
theorem ofAccepted_inside (window : Window) (lines : List LogLine) :
    Entry.ofAccepted (window.inside lines) = kept (some window) lines := by
  induction lines with
  | nil => rfl
  | cons line lines ih =>
      simp only [inside, kept] at ih ⊢
      cases hline : Entry.ofLine line with
      | error failure =>
          have hskip : Entry.ofAccepted (line :: lines) = Entry.ofAccepted lines := by
            simp [Entry.ofAccepted, hline, Except.toOption]
          simp only [List.filter_cons, hline, hskip, Bool.false_eq_true, if_false]
          exact ih
      | ok entry =>
          simp only [List.filter_cons, hline, Entry.ofAccepted_cons_of_ok hline]
          split
          · rw [Entry.ofAccepted_cons_of_ok hline, ih]
          · exact ih

end Window

namespace Analysis

variable {settings : Settings} {lines : List LogLine} {window : Window}

/-- Without a window every entry counts. -/
theorem counted_without_window (settings : Settings) (lines : List LogLine) :
    counted { settings with window := false } lines = Entry.ofAccepted lines := rfl

/-- Something counts if and only if some line ends inside the window. -/
theorem inside_eq_nil_iff (window : Window) (lines : List LogLine) :
    window.inside lines = [] ↔ Window.kept (some window) lines = [] := by
  rw [← Window.ofAccepted_inside]
  constructor
  · intro h
    rw [h]
    rfl
  · intro h
    by_contra hinside
    have hfinishes := finishes_ne_nil (fun _ => Window.accepted_of_mem_inside) hinside
    rw [Window.finishes, h] at hfinishes
    exact hfinishes rfl

/-- If the first pass finds a window and some line ends inside it, the analysis of all lines with the
    window and that of the lines inside without one both succeed or both fail, with any numbers of
    workers. The tally and the summary are the same ones then. If no line ends inside, nothing is left
    to be summarized. -/
theorem ofLines_window_refines
    (h : windowOf settings (parts lines settings.workers) = .ok (some window)) (workers : Nat) :
    (window.inside lines ≠ [] →
      ((∃ analysis, ofLines lines settings = .ok analysis) ↔
        ∃ analysis, ofLines (window.inside lines)
          { settings with window := false, workers := workers } = .ok analysis) ∧
      ∀ analysis analysis', ofLines lines settings = .ok analysis →
        ofLines (window.inside lines) { settings with window := false, workers := workers } =
          .ok analysis' →
        analysis.tally = analysis'.tally ∧ analysis.summary = analysis'.summary) ∧
    (window.inside lines = [] → settings.duration.isFinite = true ∧ 0 < settings.duration →
      ofLines lines settings = .error .noTransactions) := by
  obtain ⟨nonempty, accepted, halike⟩ := of_windowOf_eq_some h
  -- The cuts do not decide anything, so it is enough that both analyses count the same entries.
  have hcounted : counted settings lines = Entry.ofAccepted (window.inside lines) := by
    rw [counted, ← Window.kept_eq_of_alike halike, Window.ofAccepted_inside]
  have hinside : counted { settings with window := false, workers := workers }
      (window.inside lines) = counted settings lines :=
    (counted_without_window settings (window.inside lines)).trans hcounted.symm
  have hempty : window.inside lines = [] ↔ counted settings lines = [] := by
    rw [hcounted, inside_eq_nil_iff, Window.ofAccepted_inside]
  refine ⟨?_, ?_⟩
  · intro hsome
    refine ⟨?_, ?_⟩
    · rw [exists_ofLines_eq_ok_iff, exists_ofLines_eq_ok_iff, Countable, Countable, hinside]
      constructor
      · rintro ⟨-, ⟨-, fits⟩, hduration, hleft⟩
        exact ⟨hsome, ⟨fun _ => Window.accepted_of_mem_inside, fits⟩, hduration, hleft⟩
      · rintro ⟨-, ⟨-, fits⟩, hduration, hleft⟩
        exact ⟨nonempty, ⟨accepted, fits⟩, hduration, hleft⟩
    · intro analysis analysis' hlines hlines'
      have hperm : (counted settings lines).Perm
          (counted { settings with window := false, workers := workers } (window.inside lines)) := by
        rw [hinside]
      exact eq_of_counted_perm hlines hlines' rfl rfl hperm
  · intro hnone hduration
    have fits : Entry.extraSum (counted settings lines) ≤ Decimal.wordLimit := by
      rw [hempty.mp hnone]
      exact Nat.zero_le _
    exact ofLines_of_counted_eq_nil nonempty ⟨accepted, fits⟩ (isDuration_iff.mpr hduration)
      (hempty.mp hnone)

/-- After a warmup of four seconds the first line has ended too early, and the last one ends at no time. The
    extra retries of the other two just fit 64 bits. After a longer warmup no line is left. -/
def linesAround : List LogLine :=
  [⟨"run.log", 1, "1 0.0 1.0 10 1 2 18446744073709551615"⟩, ⟨"run.log", 2, "2 0.0 5.0 20 1 2 7"⟩,
    ⟨"run.log", 3, "3 0.0 15.0 30 2 2 18446744073709551608"⟩, ⟨"run.log", 4, "4 0.0 nan 40 1 3 9"⟩]

theorem ofLines_window_refines_linesAround :
    windowOf { duration := 10, warmup := 4, window := true, workers := 3 } (parts linesAround 3) =
        .ok (some ⟨5, 15⟩) ∧
      (Window.mk 5 15).inside linesAround ≠ [] ∧
      ∃ analysis analysis',
        ofLines linesAround { duration := 10, warmup := 4, window := true, workers := 3 } =
          .ok analysis ∧
        ofLines ((Window.mk 5 15).inside linesAround) { duration := 10, warmup := 4, workers := 1 } =
          .ok analysis' ∧
        analysis.tally = analysis'.tally ∧ analysis.summary = analysis'.summary ∧
        ofLines linesAround { duration := 10, warmup := 40, window := true, workers := 2 } =
          .error .noTransactions := by
  have h : windowOf { duration := 10, warmup := 4, window := true, workers := 3 }
      (parts linesAround 3) = .ok (some ⟨5, 15⟩) := by
    decide +kernel
  have hsome : (Window.mk 5 15).inside linesAround ≠ [] := by decide +kernel
  have hok : ∃ analysis,
      ofLines linesAround { duration := 10, warmup := 4, window := true, workers := 3 } =
        .ok analysis := by
    apply Loop.isOk_iff.mp
    decide +kernel
  obtain ⟨agree, same⟩ := (ofLines_window_refines h 1).1 hsome
  obtain ⟨analysis, hlines⟩ := hok
  obtain ⟨analysis', hlines'⟩ := agree.mp ⟨analysis, hlines⟩
  obtain ⟨htally, hsummary⟩ := same analysis analysis' hlines hlines'
  have hlate : windowOf { duration := 10, warmup := 40, window := true, workers := 2 }
      (parts linesAround 2) = .ok (some ⟨41, 51⟩) := by
    decide +kernel
  have hnone : (Window.mk 41 51).inside linesAround = [] := by decide +kernel
  have hduration : (10 : Float).isFinite = true ∧ 0 < (10 : Float) := by decide +kernel
  exact ⟨h, hsome, analysis, analysis', hlines, hlines', htally, hsummary,
    (ofLines_window_refines hlate 1).2 hnone hduration⟩

end Analysis

end BenchLog
