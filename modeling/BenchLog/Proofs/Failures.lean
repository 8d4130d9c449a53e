import BenchLog.Proofs.Outcome

/-!
# Why an analysis fails

Each failure has its cause in the lines and the settings (`fails_of_ofLines`). No lines, a duration that
cannot divide a count, and a window that keeps nothing are reported whenever nothing else comes before
them. A malformed line is always the first one, and an overflow is always one of the entries before it.
-/

namespace BenchLog.Analysis

variable {settings : Settings} {lines : List LogLine}

/-- The cause of a failure. -/
inductive Fails (settings : Settings) (lines : List LogLine) : Failure → Prop where
  | noInput (empty : lines = []) : Fails settings lines .noInput
  | malformed {line : LogLine} {reason : Reason} (fault : Entry.FirstFault lines line reason) :
      Fails settings lines (.malformed line reason)
  /-- With a window the lines were all read before anything was added up. -/
  | overflow {origin : Origin}
      (exceeds : Decimal.wordLimit < Entry.extraSum
        (Window.kept (plannedWindow settings lines) (lines.takeWhile Entry.accepts)))
      (accepted : settings.window = true → ∀ line ∈ lines, Entry.accepts line = true) :
      Fails settings lines (.overflow .extraAll origin)
  | badDuration (nonempty : lines ≠ []) (countable : Countable settings lines)
      (duration : isDuration settings.duration = false) :
      Fails settings lines (.badDuration settings.duration)
  | noTransactions (nonempty : lines ≠ []) (countable : Countable settings lines)
      (duration : isDuration settings.duration = true) (empty : counted settings lines = []) :
      Fails settings lines .noTransactions

theorem isDuration_iff {seconds : Float} :
    isDuration seconds = true ↔ seconds.isFinite = true ∧ 0 < seconds := by
  simp [isDuration]

theorem ofLines_of_not_isDuration (nonempty : lines ≠ []) (countable : Countable settings lines)
    (h : isDuration settings.duration = false) :
    ofLines lines settings = .error (.badDuration settings.duration) := by
  obtain ⟨window?, -, hlines⟩ := ofLines_of_countable nonempty countable
  rw [hlines, TransactionSummary.ofTally_of_not_isDuration _ h]
  rfl

theorem ofLines_of_counted_eq_nil (nonempty : lines ≠ []) (countable : Countable settings lines)
    (h : isDuration settings.duration = true) (hcounted : counted settings lines = []) :
    ofLines lines settings = .error .noTransactions := by
  obtain ⟨window?, -, hlines⟩ := ofLines_of_countable nonempty countable
  rw [hlines, hcounted, TransactionSummary.ofTally_of_nil h]
  rfl

theorem fails_of_ofLines {failure : Failure} (h : ofLines lines settings = .error failure) :
    Fails settings lines failure := by
  by_cases nonempty : lines = []
  · subst nonempty
    rw [ofLines_nil] at h
    cases h
    exact .noInput rfl
  · by_cases countable : Countable settings lines
    · cases hduration : isDuration settings.duration with
      | false =>
          rw [ofLines_of_not_isDuration nonempty countable hduration] at h
          cases h
          exact .badDuration nonempty countable hduration
      | true =>
          by_cases hcounted : counted settings lines = []
          · rw [ofLines_of_counted_eq_nil nonempty countable hduration hcounted] at h
            cases h
            exact .noTransactions nonempty countable hduration hcounted
          · obtain ⟨analysis, hok⟩ :=
              exists_ofLines_eq_ok_iff.mpr ⟨nonempty, countable, hduration, hcounted⟩
            rw [h] at hok
            cases hok
    · rcases ofLines_of_not_countable nonempty countable with
        ⟨line, reason, herror, fault⟩ | ⟨origin, herror, exceeds, accepted, -⟩
      · rw [h] at herror
        cases herror
        exact .malformed fault
      · rw [h] at herror
        cases herror
        exact .overflow exceeds accepted

/-- The extra retries fit 64 bits if they stay below the first number of 65. -/
theorem countable_iff : Countable settings lines ↔
    (∀ line ∈ lines, Entry.accepts line = true) ∧
      Entry.extraSum (counted settings lines) < 2 ^ 64 :=
  and_congr_right fun _ => Nat.le_sub_one_iff_lt (Nat.two_pow_pos 64)

/-- Without a window every entry counts, so something is left of lines that are all entries. -/
theorem window_of_counted_eq_nil (nonempty : lines ≠ [])
    (accepted : ∀ line ∈ lines, Entry.accepts line = true) (h : counted settings lines = []) :
    settings.window = true := by
  by_contra hwindow
  have hfinishes := finishes_ne_nil accepted nonempty
  rw [counted, plannedWindow, if_neg hwindow] at h
  rw [Window.finishes, show Entry.ofAccepted lines = [] from h] at hfinishes
  exact hfinishes rfl

/-! ## The failures one by one -/

theorem ofLines_eq_noInput_iff : ofLines lines settings = .error .noInput ↔ lines = [] := by
  constructor
  · intro h
    cases fails_of_ofLines h with
    | noInput empty => exact empty
  · rintro rfl
    rfl

theorem firstFault_of_ofLines {line : LogLine} {reason : Reason}
    (h : ofLines lines settings = .error (.malformed line reason)) :
    Entry.FirstFault lines line reason := by
  cases fails_of_ofLines h with
  | malformed fault => exact fault

/-- With a window every line is read before anything is added up. -/
theorem exists_malformed_of_window (hwindow : settings.window = true)
    (h : ∃ line ∈ lines, Entry.accepts line = false) :
    ∃ line reason, ofLines lines settings = .error (.malformed line reason) := by
  obtain ⟨line, member, rejected⟩ := h
  obtain ⟨first, reason, fault⟩ := Entry.firstFault_of_mem member rejected
  rcases ofLines_of_fault settings fault with herror | ⟨hnone, -⟩
  · exact ⟨first, reason, herror⟩
  · rw [hwindow] at hnone
    cases hnone

theorem overflow_of_ofLines {counter : Counter} {origin : Origin}
    (h : ofLines lines settings = .error (.overflow counter origin)) :
    counter = .extraAll ∧ 2 ^ 64 ≤ Entry.extraSum
      (Window.kept (plannedWindow settings lines) (lines.takeWhile Entry.accepts)) := by
  cases fails_of_ofLines h with
  | overflow exceeds _ => exact ⟨rfl, Nat.le_of_pred_lt exceeds⟩

theorem ofLines_eq_badDuration_iff {seconds : Float} :
    ofLines lines settings = .error (.badDuration seconds) ↔
      seconds = settings.duration ∧ lines ≠ [] ∧ Countable settings lines ∧
        isDuration settings.duration = false := by
  constructor
  · intro h
    cases fails_of_ofLines h with
    | badDuration nonempty countable hduration => exact ⟨rfl, nonempty, countable, hduration⟩
  · rintro ⟨rfl, nonempty, countable, hduration⟩
    exact ofLines_of_not_isDuration nonempty countable hduration

theorem ofLines_eq_noTransactions_iff :
    ofLines lines settings = .error .noTransactions ↔
      lines ≠ [] ∧ (∀ line ∈ lines, Entry.accepts line = true) ∧
        isDuration settings.duration = true ∧ settings.window = true ∧
        counted settings lines = [] := by
  constructor
  · intro h
    cases fails_of_ofLines h with
    | noTransactions nonempty countable hduration empty =>
        exact ⟨nonempty, countable.1, hduration,
          window_of_counted_eq_nil nonempty countable.1 empty, empty⟩
  · rintro ⟨nonempty, accepted, hduration, -, empty⟩
    have fits : Entry.extraSum (counted settings lines) ≤ Decimal.wordLimit := by simp [empty]
    exact ofLines_of_counted_eq_nil nonempty ⟨accepted, fits⟩ hduration empty

/-- Which failure is reported, and when: no lines; the first malformed line, and with a window always if
    there is one; an overflow of the entries that count before that line, always of the sum among all
    transactions; a duration that cannot divide a count; a window that keeps nothing. -/
theorem ofLines_failures (lines : List LogLine) (settings : Settings) :
    (ofLines lines settings = .error .noInput ↔ lines = []) ∧
    (∀ line reason, ofLines lines settings = .error (.malformed line reason) →
      Entry.FirstFault lines line reason) ∧
    (settings.window = true → (∃ line ∈ lines, Entry.accepts line = false) →
      ∃ line reason, ofLines lines settings = .error (.malformed line reason)) ∧
    (∀ counter origin, ofLines lines settings = .error (.overflow counter origin) →
      counter = .extraAll ∧ 2 ^ 64 ≤ Entry.extraSum
        (Window.kept (plannedWindow settings lines) (lines.takeWhile Entry.accepts))) ∧
    (∀ seconds, ofLines lines settings = .error (.badDuration seconds) ↔
      seconds = settings.duration ∧ lines ≠ [] ∧ (∀ line ∈ lines, Entry.accepts line = true) ∧
        Entry.extraSum (counted settings lines) < 2 ^ 64 ∧
        ¬(settings.duration.isFinite = true ∧ 0 < settings.duration)) ∧
    (ofLines lines settings = .error .noTransactions ↔
      lines ≠ [] ∧ (∀ line ∈ lines, Entry.accepts line = true) ∧
        (settings.duration.isFinite = true ∧ 0 < settings.duration) ∧
        settings.window = true ∧ counted settings lines = []) := by
  refine ⟨ofLines_eq_noInput_iff, fun _ _ => firstFault_of_ofLines, exists_malformed_of_window,
    fun _ _ => overflow_of_ofLines, ?_, ?_⟩
  · intro seconds
    rw [ofLines_eq_badDuration_iff, countable_iff, ← isDuration_iff, Bool.not_eq_true, and_assoc]
  · rw [ofLines_eq_noTransactions_iff, isDuration_iff]

end BenchLog.Analysis
