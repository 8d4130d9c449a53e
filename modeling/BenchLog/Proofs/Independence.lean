import BenchLog.Proofs.Outcome

/-!
# What the workers and the order of the lines do not decide

Which entries count is a matter of the bag of lines (`counted_perm`): the planned window is the same up to
the sign of a zero, and a comparison does not see that sign. Whether there is an analysis and what it says
follows from the entries that count, so neither the order of the lines nor the cut decides about it.
-/

namespace BenchLog.Analysis

variable {settings : Settings} {lines lines' : List LogLine}

theorem finishes_perm (h : lines.Perm lines') :
    (Window.finishes lines).Perm (Window.finishes lines') :=
  (Entry.ofAccepted_perm h).map _

/-- Beyond the times themselves, at most the sign of a zero is left to decide in the planned window. -/
theorem plannedWindow_of_mem_iff (settings : Settings)
    (h : ∀ time, time ∈ Window.finishes lines ↔ time ∈ Window.finishes lines') :
    Option.Rel Window.Alike (plannedWindow settings lines) (plannedWindow settings lines') := by
  by_cases hwindow : settings.window = true
  · have hopen {left right : List LogLine} {first : Float}
        (hsame : ∀ time, time ∈ Window.finishes left ↔ time ∈ Window.finishes right)
        (hfirst : Window.earliest? (Window.finishes left) = some first) :
        Option.Rel Window.Alike (plannedWindow settings left) (plannedWindow settings right) := by
      have hplanned := plannedWindow_of_isEarliest hwindow
        (Window.isEarliest_of_earliest? hfirst) hsame
      rwa [plannedWindow, if_pos hwindow, hfirst]
    cases hleft : Window.earliest? (Window.finishes lines) with
    | some first => exact hopen h hleft
    | none =>
        cases hright : Window.earliest? (Window.finishes lines') with
        | some first => exact Window.alike_symm (hopen (fun time => (h time).symm) hright)
        | none =>
            rw [plannedWindow, plannedWindow, if_pos hwindow, if_pos hwindow, hleft, hright]
            exact .none
  · rw [plannedWindow, plannedWindow, if_neg hwindow, if_neg hwindow]
    exact .none

/-- The order of the lines decides at most about the sign of a zero in the planned window. -/
theorem plannedWindow_perm (settings : Settings) (h : lines.Perm lines') :
    Option.Rel Window.Alike (plannedWindow settings lines) (plannedWindow settings lines') :=
  plannedWindow_of_mem_iff settings fun _ => (finishes_perm h).mem_iff

/-- The order of the lines does not decide which entries count. -/
theorem counted_perm (settings : Settings) (h : lines.Perm lines') :
    (counted settings lines).Perm (counted settings lines') := by
  rw [counted, counted, Window.kept_eq_of_alike (plannedWindow_perm settings h)]
  exact Window.kept_perm _ h

theorem Countable.perm (countable : Countable settings lines) (h : lines.Perm lines') :
    Countable settings lines' := by
  refine ⟨fun line member => countable.1 line (h.mem_iff.mpr member), ?_⟩
  rw [← Entry.extraSum_perm (counted_perm settings h)]
  exact countable.2

/-- If some lines have an analysis, so do the same lines in another order. -/
theorem exists_ofLines_of_perm (h : lines.Perm lines')
    (hlines : ∃ analysis, ofLines lines settings = .ok analysis) :
    ∃ analysis, ofLines lines' settings = .ok analysis := by
  obtain ⟨nonempty, countable, hduration, hcounted⟩ := exists_ofLines_eq_ok_iff.mp hlines
  refine exists_ofLines_eq_ok_iff.mpr ⟨?_, countable.perm h, hduration, ?_⟩
  · rintro rfl
    exact nonempty h.eq_nil
  · intro hnil
    have hperm := counted_perm settings h
    rw [hnil] at hperm
    exact hcounted hperm.eq_nil

/-- The number of workers decides only about how the lines are cut. -/
theorem exists_ofLines_workers_iff (settings : Settings) (lines : List LogLine)
    (workers workers' : Nat) :
    (∃ analysis, ofLines lines { settings with workers := workers } = .ok analysis) ↔
      ∃ analysis, ofLines lines { settings with workers := workers' } = .ok analysis := by
  rw [exists_ofLines_eq_ok_iff, exists_ofLines_eq_ok_iff]
  rfl

/-- Neither the number of workers nor the order of the lines decides whether there is an analysis. The
    tally and the summary are the same ones then, and the ends of the windows are equal as numbers. -/
theorem ofLines_workers_perm (settings : Settings) (workers workers' : Nat) (h : lines.Perm lines') :
    ((∃ analysis, ofLines lines { settings with workers := workers } = .ok analysis) ↔
      ∃ analysis, ofLines lines' { settings with workers := workers' } = .ok analysis) ∧
    ∀ analysis analysis',
      ofLines lines { settings with workers := workers } = .ok analysis →
      ofLines lines' { settings with workers := workers' } = .ok analysis' →
      analysis.tally = analysis'.tally ∧ analysis.summary = analysis'.summary ∧
        Option.Rel (fun one other => one.start == other.start ∧ one.stop == other.stop)
          analysis.window analysis'.window := by
  refine ⟨?_, ?_⟩
  · rw [exists_ofLines_workers_iff settings lines workers workers']
    exact ⟨exists_ofLines_of_perm h, exists_ofLines_of_perm h.symm⟩
  · intro analysis analysis' hlines hlines'
    obtain ⟨-, -, -, nonempty⟩ := exists_ofLines_eq_ok_iff.mp ⟨analysis, hlines⟩
    obtain ⟨htally, hsummary, hwindow⟩ := of_ofLines_eq_ok hlines
    obtain ⟨htally', hsummary', hwindow'⟩ := of_ofLines_eq_ok hlines'
    have hsame : analysis.tally = analysis'.tally := by
      rw [htally, htally']
      exact MergedTally.ofEntries_eq_of_perm (counted_perm settings h)
    refine ⟨hsame, ?_, ?_⟩
    · rw [hsame, hsummary'] at hsummary
      exact (Except.ok.inj hsummary).symm
    · have hplanned : Option.Rel Window.Alike (plannedWindow settings lines) analysis'.window :=
        Window.alike_trans (plannedWindow_perm settings h) (Window.alike_symm hwindow')
      apply Window.beq_of_alike (Window.alike_trans hwindow hplanned)
      rwa [Window.kept_eq_of_alike hwindow]

/-- The two ends are zeros of different sign, and either of them may open the window. -/
theorem ofLines_workers_perm_zeros :
    [LogLine.mk "run.log" 1 "1 0.0 0.0 5 1", LogLine.mk "run.log" 2 "2 0.0 -0.0 7 1 2 4"].Perm
      [LogLine.mk "run.log" 2 "2 0.0 -0.0 7 1 2 4", LogLine.mk "run.log" 1 "1 0.0 0.0 5 1"] ∧
    ∃ analysis analysis',
      ofLines [⟨"run.log", 1, "1 0.0 0.0 5 1"⟩, ⟨"run.log", 2, "2 0.0 -0.0 7 1 2 4"⟩]
        { duration := 1, warmup := 0, window := true, workers := 1 } = .ok analysis ∧
      ofLines [⟨"run.log", 2, "2 0.0 -0.0 7 1 2 4"⟩, ⟨"run.log", 1, "1 0.0 0.0 5 1"⟩]
        { duration := 1, warmup := 0, window := true, workers := 2 } = .ok analysis' ∧
      analysis.tally = analysis'.tally ∧ analysis.summary = analysis'.summary ∧
        Option.Rel (fun one other => one.start == other.start ∧ one.stop == other.stop)
          analysis.window analysis'.window := by
  have swapped := List.Perm.swap (LogLine.mk "run.log" 2 "2 0.0 -0.0 7 1 2 4")
    (LogLine.mk "run.log" 1 "1 0.0 0.0 5 1") []
  obtain ⟨agree, same⟩ :=
    ofLines_workers_perm { duration := 1, warmup := 0, window := true } 1 2 swapped
  have hok : ∃ analysis,
      ofLines [⟨"run.log", 1, "1 0.0 0.0 5 1"⟩, ⟨"run.log", 2, "2 0.0 -0.0 7 1 2 4"⟩]
        { duration := 1, warmup := 0, window := true, workers := 1 } = .ok analysis := by
    apply Loop.isOk_iff.mp
    decide +kernel
  obtain ⟨analysis, hlines⟩ := hok
  obtain ⟨analysis', hlines'⟩ := agree.mp ⟨analysis, hlines⟩
  exact ⟨swapped, analysis, analysis', hlines, hlines',
    same analysis analysis' hlines hlines'⟩

end BenchLog.Analysis
