import BenchLog.Proofs.Failures
import BenchLog.Proofs.Fields

/-!
# What the workers decide about a failure

The number of workers does not decide whether an analysis fails. It can decide how: if the extra retries
pass 64 bits before the first malformed line, one worker stops at the overflow, while workers that take a
line each never add two of them up before they meet the malformed one. With a window the lines are read
ahead of the tally, and the first malformed line comes first whatever the cut. Apart from that one case
every number of workers reports the same failure (`failures_agree_iff`).
-/

namespace BenchLog

/-- A failure without what was being added when a sum grew too large. -/
def Failure.withoutOrigin : Failure → Failure
  | .overflow counter _ => .overflow counter .merge
  | failure => failure

namespace Analysis

variable {settings : Settings} {lines : List LogLine}

/-- If one number of workers fails so does every other, in the same way but for the origin of an
    overflow. -/
def FailuresAgree (settings : Settings) (lines : List LogLine) : Prop :=
  ∀ (workers workers' : Nat) (failure : Failure),
    ofLines lines { settings with workers := workers } = .error failure →
    ∃ failure', ofLines lines { settings with workers := workers' } = .error failure' ∧
      failure'.withoutOrigin = failure.withoutOrigin

/-- If some line is malformed, every number of workers reports the first such line. -/
def FirstFaultReported (settings : Settings) (lines : List LogLine) : Prop :=
  ∀ (workers : Nat) (line : LogLine) (reason : Reason), Entry.FirstFault lines line reason →
    ofLines lines { settings with workers := workers } = .error (.malformed line reason)

/-- There is no window, some line is malformed, and the extra retries of the entries before the first
    such line do not fit 64 bits. -/
def OverflowsBeforeFault (settings : Settings) (lines : List LogLine) : Prop :=
  settings.window = false ∧ (∃ line ∈ lines, Entry.accepts line = false) ∧
    2 ^ 64 ≤ Entry.extraSum (Entry.ofAccepted (lines.takeWhile Entry.accepts))

/-! ## The workers that disagree -/

theorem parts_one (nonempty : lines ≠ []) : parts lines 1 = [lines] := by
  have hlength := List.length_pos_of_ne_nil nonempty
  rw [parts, Nat.max_self, Nat.min_eq_left hlength, slices_one]

theorem length_le_one_of_mem_parts {part : List LogLine} (h : part ∈ parts lines lines.length) :
    part.length ≤ 1 := by
  have hworkers : min (max lines.length 1) lines.length = lines.length := by omega
  rw [parts, hworkers] at h
  exact length_le_one_of_mem_slices h

/-- One line does not make a sum overflow. -/
theorem extraSum_le_of_length_le_one {part : List LogLine} (h : part.length ≤ 1) :
    Entry.extraSum (Entry.ofAccepted part) ≤ Decimal.wordLimit := by
  match part, h with
  | [], _ => exact Nat.zero_le _
  | [line], _ =>
      cases haccept : Entry.accepts line with
      | false =>
          obtain ⟨reason, hline⟩ := Entry.accepts_eq_false_iff.mp haccept
          simp [Entry.ofAccepted, hline, Except.toOption]
      | true =>
          obtain ⟨entry, hline⟩ := Entry.accepts_iff.mp haccept
          rw [Entry.ofAccepted_cons_of_ok hline, Entry.extraSum_cons]
          exact Entry.extra_le hline

/-- A single worker adds up everything before the first malformed line, and stops when it overflows. -/
theorem ofLines_one_worker (h : OverflowsBeforeFault settings lines) :
    ∃ origin, ofLines lines { settings with workers := 1 } =
      .error (.overflow .extraAll origin) := by
  obtain ⟨hwindow, ⟨line, member, -⟩, hsum⟩ := h
  have nonempty : lines ≠ [] := List.ne_nil_of_mem member
  have exceeds : Decimal.wordLimit <
      Entry.extraSum (Window.kept none (lines.takeWhile Entry.accepts)) :=
    Nat.lt_of_lt_of_le (by decide) hsum
  obtain ⟨origin, herror⟩ := Tally.ofLines_of_overflow settings.tracked exceeds
  have hplanned : windowOf { settings with workers := 1 } [lines] = .ok none := by
    rw [windowOf, if_neg (by simp [hwindow])]
    rfl
  have htally : MergedTally.ofParts settings.tracked none [lines] =
      .error (.overflow .extraAll origin) := by
    rw [MergedTally.ofParts, List.mapM_cons, herror]
    rfl
  refine ⟨origin, ?_⟩
  rw [ofLines_of_ne_nil _ nonempty, parts_one nonempty, hplanned, Loop.ok_bind, htally]
  rfl

/-- With a worker for each line nothing is added up before every line has been read. -/
theorem ofLines_worker_each {line : LogLine} {reason : Reason}
    (fault : Entry.FirstFault lines line reason) :
    ofLines lines { settings with workers := lines.length } =
      .error (.malformed line reason) := by
  rcases ofLines_of_fault { settings with workers := lines.length } fault with
    herror | ⟨-, -, part, hpart, exceeds⟩
  · exact herror
  · have hlength := length_le_one_of_mem_parts hpart
    exact absurd exceeds (Nat.not_lt.mpr (extraSum_le_of_length_le_one hlength))

/-! ## The workers that agree -/

/-- Unless the extra retries overflow before it, the first malformed line is what is reported. -/
theorem firstFaultReported_of_not (h : ¬OverflowsBeforeFault settings lines) :
    FirstFaultReported settings lines := by
  intro workers line reason fault
  rcases ofLines_of_fault { settings with workers := workers } fault with
    herror | ⟨hwindow, exceeds, -⟩
  · exact herror
  · exact absurd ⟨hwindow, ⟨line, fault.exists_rejected⟩, Nat.le_of_pred_lt exceeds⟩ h

/-- Every failure has a cause that does not depend on the number of workers. -/
theorem failuresAgree_of_not (h : ¬OverflowsBeforeFault settings lines) :
    FailuresAgree settings lines := by
  intro workers workers' failure hlines
  cases fails_of_ofLines hlines with
  | noInput empty =>
      subst empty
      exact ⟨.noInput, rfl, rfl⟩
  | @malformed line reason fault =>
      exact ⟨.malformed line reason, firstFaultReported_of_not h workers' line reason fault, rfl⟩
  | @overflow origin exceeds _ =>
      rcases Entry.accepted_or_firstFault lines with haccepted | ⟨line, reason, fault⟩
      · -- Nothing cuts the sum short, and the sum over all lines is too great for any cut.
        rw [List.takeWhile_eq_self_iff.mpr haccepted] at exceeds
        have uncountable : ¬Countable { settings with workers := workers' } lines :=
          fun countable => absurd exceeds (Nat.not_lt.mpr countable.2)
        have nonempty : lines ≠ [] := by
          rintro rfl
          simp at exceeds
        rcases ofLines_of_not_countable nonempty uncountable with
          ⟨line, reason, -, fault⟩ | ⟨origin', herror, -⟩
        · exact absurd haccepted fault.not_accepted
        · exact ⟨.overflow .extraAll origin', herror, rfl⟩
      · rw [firstFaultReported_of_not h workers line reason fault] at hlines
        cases hlines
  | badDuration nonempty countable hduration =>
      exact ⟨.badDuration settings.duration,
        ofLines_of_not_isDuration nonempty countable hduration, rfl⟩
  | noTransactions nonempty countable hduration empty =>
      exact ⟨.noTransactions, ofLines_of_counted_eq_nil nonempty countable hduration empty, rfl⟩

/-- Every number of workers fails in the same way, and reports the first malformed line if there is one,
    in exactly the cases in which no overflow comes before that line. -/
theorem failures_agree_iff (settings : Settings) (lines : List LogLine) :
    (FailuresAgree settings lines ↔ ¬OverflowsBeforeFault settings lines) ∧
      (FirstFaultReported settings lines ↔ ¬OverflowsBeforeFault settings lines) := by
  have disagree (h : OverflowsBeforeFault settings lines) : ∃ line reason origin,
      Entry.FirstFault lines line reason ∧
      ofLines lines { settings with workers := 1 } = .error (.overflow .extraAll origin) ∧
      ofLines lines { settings with workers := lines.length } =
        .error (.malformed line reason) := by
    obtain ⟨-, ⟨line, member, rejected⟩, -⟩ := id h
    obtain ⟨first, reason, fault⟩ := Entry.firstFault_of_mem member rejected
    obtain ⟨origin, hone⟩ := ofLines_one_worker h
    exact ⟨first, reason, origin, fault, hone, ofLines_worker_each fault⟩
  refine ⟨⟨?_, failuresAgree_of_not⟩, ⟨?_, firstFaultReported_of_not⟩⟩
  · intro agree h
    obtain ⟨line, reason, origin, -, hone, heach⟩ := disagree h
    obtain ⟨failure, herror, hsame⟩ := agree 1 lines.length _ hone
    rw [heach] at herror
    cases herror
    cases hsame
  · intro reported h
    obtain ⟨line, reason, origin, fault, hone, -⟩ := disagree h
    rw [reported 1 line reason fault] at hone
    cases hone

/-- The extra retries of the first two lines pass 64 bits, and the third line is no entry. -/
def overflowThenFault : List LogLine :=
  [⟨"run.log", 1, "1 0.0 0.1 5 1 2 18446744073709551615"⟩, ⟨"run.log", 2, "2 0.0 0.1 5 1 2 1"⟩,
    ⟨"run.log", 3, "oops"⟩]

/-- Of these lines one worker reports the overflow, and three report the line that is no entry. -/
theorem failures_disagree_of_overflowThenFault :
    ¬FailuresAgree { duration := 1 } overflowThenFault ∧
      ¬FirstFaultReported { duration := 1 } overflowThenFault := by
  have hone : ofLines overflowThenFault { duration := 1, workers := 1 } =
      .error (.overflow .extraAll (.line "run.log" 2)) := by
    decide +kernel
  have hthree : ofLines overflowThenFault { duration := 1, workers := 3 } =
      .error (.malformed ⟨"run.log", 3, "oops"⟩ (.fieldCount 1)) := by
    decide +kernel
  refine ⟨?_, ?_⟩
  · intro agree
    obtain ⟨failure, herror, hsame⟩ := agree 1 3 _ hone
    rw [hthree] at herror
    cases herror
    cases hsame
  · intro reported
    rw [reported 1 _ _ (firstFault_of_ofLines hthree)] at hone
    cases hone

end Analysis

end BenchLog
