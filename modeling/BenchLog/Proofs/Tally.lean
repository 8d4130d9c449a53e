import BenchLog.Proofs.Kept
import BenchLog.Tally

/-!
# What a tally holds

The tally of some entries is known in advance: the latencies of each grouping in the order of the
entries, and the exact sums (`Tally.ofEntries`). Counting one more entry either extends that tally by it
or leaves the tally as it is, and fails if and only if the sum among all transactions passes 64 bits
(`Tally.record_ofEntries`): the sums by outcome are never the greater ones. The tally of some lines is
then the tally of the entries that count.
-/

namespace BenchLog

namespace Entry

/-- The extra retries of some entries: of all, of the committed and of the aborted ones. -/
def extras (entries : List Entry) : Sides Nat where
  all := extraSum entries
  committed := extraSum (entries.filter fun entry => decide (entry.outcome = .committed))
  aborted := extraSum (entries.filter fun entry => decide (entry.outcome ≠ .committed))

/-- An entry is committed or aborted, so the two sums by outcome make up the sum of all. -/
theorem extras_all (entries : List Entry) :
    (extras entries).all = (extras entries).committed + (extras entries).aborted := by
  induction entries with
  | nil => rfl
  | cons entry entries ih =>
      simp only [extras] at ih ⊢
      by_cases h : entry.outcome = .committed
      · simp only [List.filter_cons, h, decide_true, not_true_eq_false, decide_false, ne_eq,
          if_true, extraSum_cons] at ih ⊢
        simp only [Bool.false_eq_true, if_false]
        omega
      · simp only [List.filter_cons, h, decide_false, not_false_eq_true, decide_true, ne_eq,
          if_true, extraSum_cons] at ih ⊢
        simp only [Bool.false_eq_true, if_false]
        omega

theorem extras_append_singleton (entries : List Entry) (entry : Entry) :
    extras (entries ++ [entry]) =
      if entry.outcome = .committed then
        { extras entries with
          all := extraSum entries + entry.extra
          committed := (extras entries).committed + entry.extra }
      else
        { extras entries with
          all := extraSum entries + entry.extra
          aborted := (extras entries).aborted + entry.extra } := by
  by_cases h : entry.outcome = .committed <;>
    simp [extras, extraSum_append, extraSum_cons, h]

end Entry

namespace Tally

/-- The tally of some entries, whatever the size of the sums. -/
def ofEntries (tracked : Tracked) (entries : List Entry) : Tally where
  groups := Groups.ofFn fun grouping =>
    ((entries.filter (grouping.holds tracked)).map Entry.latency).toArray
  extras := Entry.extras entries

@[simp] theorem get_ofEntries (tracked : Tracked) (entries : List Entry) (grouping : Grouping) :
    (ofEntries tracked entries).groups.get grouping =
      ((entries.filter (grouping.holds tracked)).map Entry.latency).toArray :=
  Groups.get_ofFn _ _

@[simp] theorem extras_ofEntries (tracked : Tracked) (entries : List Entry) :
    (ofEntries tracked entries).extras = Entry.extras entries := rfl

/-- Counting among all and counting by outcome push the latency once to each of its groupings. -/
theorem push_push_ofEntries (tracked : Tracked) (entries : List Entry) (entry : Entry) :
    push (push (ofEntries tracked entries).groups entry.latency (· == .all)) entry.latency
        (fun grouping => grouping != .all && grouping.holds tracked entry) =
      (ofEntries tracked (entries ++ [entry])).groups := by
  apply Groups.ext_get
  intro grouping
  simp only [get_push, get_ofEntries, List.filter_append, List.map_append, List.filter_cons,
    List.filter_nil]
  by_cases hall : grouping = .all
  · subst hall
    simp [Grouping.holds]
  · by_cases hholds : grouping.holds tracked entry = true <;> simp [hall, hholds]

theorem countAll_of_fits {line : LogLine} {entry : Entry} {tally : Tally}
    (fits : tally.extras.all + entry.extra ≤ Decimal.wordLimit) :
    countAll line entry tally = .ok {
      groups := push tally.groups entry.latency (· == .all)
      extras := { tally.extras with all := tally.extras.all + entry.extra } } := by
  simp [countAll, Counter.add, fits]

theorem countOutcome_of_committed {tracked : Tracked} {line : LogLine} {entry : Entry}
    {tally : Tally} (committed : entry.outcome = .committed)
    (fits : tally.extras.committed + entry.extra ≤ Decimal.wordLimit) :
    countOutcome tracked line entry tally = .ok {
      groups := push tally.groups entry.latency fun grouping =>
        grouping != .all && grouping.holds tracked entry
      extras := { tally.extras with committed := tally.extras.committed + entry.extra } } := by
  simp [countOutcome, Counter.add, committed, fits]

theorem countOutcome_of_aborted {tracked : Tracked} {line : LogLine} {entry : Entry}
    {tally : Tally} (aborted : entry.outcome ≠ .committed)
    (fits : tally.extras.aborted + entry.extra ≤ Decimal.wordLimit) :
    countOutcome tracked line entry tally = .ok {
      groups := push tally.groups entry.latency fun grouping =>
        grouping != .all && grouping.holds tracked entry
      extras := { tally.extras with aborted := tally.extras.aborted + entry.extra } } := by
  simp [countOutcome, Counter.add, aborted, fits]

/-- An entry extends the tally by itself, unless the sum among all transactions passes 64 bits. -/
theorem record_ofEntries (tracked : Tracked) (line : LogLine) (entry : Entry)
    (entries : List Entry) :
    record tracked line entry (ofEntries tracked entries) =
      if Entry.extraSum entries + entry.extra ≤ Decimal.wordLimit then
        (ofEntries tracked (entries ++ [entry]), none)
      else (ofEntries tracked entries, some (.overflow .extraAll line.origin)) := by
  have hsplit := Entry.extras_all entries
  have hall : (Entry.extras entries).all = Entry.extraSum entries := rfl
  by_cases fits : Entry.extraSum entries + entry.extra ≤ Decimal.wordLimit
  · have hgroups := push_push_ofEntries tracked entries entry
    have hextras := Entry.extras_append_singleton entries entry
    rw [if_pos fits, record, countAll_of_fits (by simpa [hall] using fits)]
    -- The sum by outcome is at most the sum of all, so the second addition cannot fail.
    by_cases houtcome : entry.outcome = .committed
    · rw [if_pos houtcome] at hextras
      simp only
      rw [countOutcome_of_committed houtcome (by simp only [extras_ofEntries]; omega)]
      simp only [hgroups, extras_ofEntries, hall, ← hextras]
      rfl
    · rw [if_neg houtcome] at hextras
      simp only
      rw [countOutcome_of_aborted houtcome (by simp only [extras_ofEntries]; omega)]
      simp only [hgroups, extras_ofEntries, hall, ← hextras]
      rfl
  · simp [record, countAll, Counter.add, hall, fits]

/-! ## Lines -/

variable {tracked : Tracked} {window? : Option Window}

theorem recordLine_of_error {tally : Tally} {line : LogLine} {failure : Failure}
    (hline : Entry.ofLine line = .error failure) :
    recordLine tracked window? tally line = .error failure := by
  simp [recordLine, hline]

/-- A line that is an entry extends the tally by that entry, if it counts and the sum fits. -/
theorem recordLine_of_ok {entries : List Entry} {line : LogLine} {entry : Entry}
    (hline : Entry.ofLine line = .ok entry) (hfits : Entry.extraSum entries ≤ Decimal.wordLimit) :
    recordLine tracked window? (ofEntries tracked entries) line =
      if Entry.extraSum (entries ++ Window.kept window? [line]) ≤ Decimal.wordLimit then
        .ok (ofEntries tracked (entries ++ Window.kept window? [line]))
      else .error (.overflow .extraAll line.origin) := by
  cases hadmits : Window.admits window? entry with
  | false =>
      simp [recordLine, hline, hadmits, Window.kept_cons_of_not_admits hline hadmits, hfits]
  | true =>
      simp only [recordLine, hline, Loop.ok_bind, hadmits, if_true, record_ofEntries,
        Window.kept_cons_of_admits hline hadmits, Window.kept_nil, Entry.extraSum_append,
        Entry.extraSum_cons, Entry.extraSum_nil, Nat.add_zero]
      by_cases fits : Entry.extraSum entries + entry.extra ≤ Decimal.wordLimit
      · simp only [if_pos fits]
        rfl
      · simp only [if_neg fits]
        rfl

/-- If every line is an entry and the sum fits, the tally is that of the entries that count. -/
theorem foldlM_recordLine_of_accepted {lines : List LogLine} (entries : List Entry)
    (accepted : ∀ line ∈ lines, Entry.accepts line = true)
    (fits : Entry.extraSum (entries ++ Window.kept window? lines) ≤ Decimal.wordLimit) :
    lines.foldlM (recordLine tracked window?) (ofEntries tracked entries) =
      .ok (ofEntries tracked (entries ++ Window.kept window? lines)) := by
  induction lines generalizing entries with
  | nil => simp
  | cons line lines ih =>
      obtain ⟨entry, hline⟩ := Entry.accepts_iff.mp (accepted line (by simp))
      have hkept : entries ++ Window.kept window? (line :: lines) =
          (entries ++ Window.kept window? [line]) ++ Window.kept window? lines := by
        rw [List.append_assoc, ← Window.kept_append, List.singleton_append]
      rw [hkept] at fits ⊢
      have hhead := Entry.extraSum_append entries (Window.kept window? [line])
      have htail := Entry.extraSum_append (entries ++ Window.kept window? [line])
        (Window.kept window? lines)
      rw [List.foldlM_cons, recordLine_of_ok hline (by omega), if_pos (by omega), Loop.ok_bind]
      exact ih _ (fun other member => accepted other (by simp [member])) fits

/-- If the sum over the lines before the first fault passes 64 bits, counting stops there. -/
theorem foldlM_recordLine_of_overflow {lines : List LogLine} (entries : List Entry)
    (hfits : Entry.extraSum entries ≤ Decimal.wordLimit)
    (exceeds : Decimal.wordLimit <
      Entry.extraSum (entries ++ Window.kept window? (lines.takeWhile Entry.accepts))) :
    ∃ origin, lines.foldlM (recordLine tracked window?) (ofEntries tracked entries) =
      .error (.overflow .extraAll origin) := by
  induction lines generalizing entries with
  | nil =>
      simp only [List.takeWhile_nil, Window.kept_nil, List.append_nil] at exceeds
      omega
  | cons line lines ih =>
      cases haccept : Entry.accepts line with
      | false =>
          -- The sum has ended and still fits.
          simp only [List.takeWhile_cons, haccept, Bool.false_eq_true, if_false, Window.kept_nil,
            List.append_nil] at exceeds
          omega
      | true =>
          obtain ⟨entry, hline⟩ := Entry.accepts_iff.mp haccept
          rw [List.foldlM_cons, recordLine_of_ok hline hfits]
          split
          · rename_i fits
            rw [Loop.ok_bind]
            apply ih _ fits
            rw [List.takeWhile_cons, haccept] at exceeds
            rwa [List.append_assoc, ← Window.kept_append, List.singleton_append]
          · exact ⟨line.origin, rfl⟩

/-- The tally of lines that are all entries. -/
theorem ofLines_of_accepted (tracked : Tracked) {lines : List LogLine}
    (accepted : ∀ line ∈ lines, Entry.accepts line = true)
    (fits : Entry.extraSum (Window.kept window? lines) ≤ Decimal.wordLimit) :
    ofLines tracked window? lines = .ok (ofEntries tracked (Window.kept window? lines)) :=
  foldlM_recordLine_of_accepted [] accepted fits

/-- A sum that passes 64 bits before any line is malformed is reported. -/
theorem ofLines_of_overflow (tracked : Tracked) {lines : List LogLine}
    (exceeds : Decimal.wordLimit <
      Entry.extraSum (Window.kept window? (lines.takeWhile Entry.accepts))) :
    ∃ origin, ofLines tracked window? lines = .error (.overflow .extraAll origin) :=
  foldlM_recordLine_of_overflow [] (Nat.zero_le _) exceeds

/-- A malformed line is reported if the sum over the lines before it fits. -/
theorem ofLines_of_fault (tracked : Tracked) {lines : List LogLine} {line : LogLine}
    {reason : Reason}
    (fault : Entry.FirstFault lines line reason)
    (fits : Entry.extraSum (Window.kept window? (lines.takeWhile Entry.accepts)) ≤
      Decimal.wordLimit) :
    ofLines tracked window? lines = .error (.malformed line reason) := by
  obtain ⟨before, after, rfl, hbefore, hline⟩ := fault
  rw [Entry.FirstFault.takeWhile_eq hbefore (Entry.accepts_eq_false_iff.mpr ⟨reason, hline⟩)]
    at fits
  rw [ofLines, List.foldlM_append]
  have hrun := ofLines_of_accepted tracked hbefore fits
  rw [ofLines] at hrun
  rw [hrun, Loop.ok_bind, List.foldlM_cons, recordLine_of_error hline, Loop.error_bind]

/-- Lines have a tally if and only if all are entries and the sum over those that count fits. -/
theorem ofLines_eq_ok_iff {lines : List LogLine} {tally : Tally} :
    ofLines tracked window? lines = .ok tally ↔
      (∀ line ∈ lines, Entry.accepts line = true) ∧
        Entry.extraSum (Window.kept window? lines) ≤ Decimal.wordLimit ∧
        tally = ofEntries tracked (Window.kept window? lines) := by
  constructor
  · intro h
    by_cases exceeds : Decimal.wordLimit <
        Entry.extraSum (Window.kept window? (lines.takeWhile Entry.accepts))
    · obtain ⟨origin, herror⟩ := ofLines_of_overflow tracked exceeds
      rw [h] at herror
      cases herror
    · rcases Entry.accepted_or_firstFault lines with accepted | ⟨line, reason, fault⟩
      · rw [List.takeWhile_eq_self_iff.mpr accepted, Nat.not_lt] at exceeds
        rw [ofLines_of_accepted tracked accepted exceeds] at h
        cases h
        exact ⟨accepted, exceeds, rfl⟩
      · rw [ofLines_of_fault tracked fault (by omega)] at h
        cases h
  · rintro ⟨accepted, fits, rfl⟩
    exact ofLines_of_accepted tracked accepted fits

/-- Lines without a tally have a malformed line or too great a sum; the first of the two counts. -/
theorem ofLines_eq_error {lines : List LogLine} {failure : Failure}
    (h : ofLines tracked window? lines = .error failure) :
    (∃ line reason, failure = .malformed line reason ∧ Entry.FirstFault lines line reason) ∨
      ∃ origin, failure = .overflow .extraAll origin ∧ Decimal.wordLimit <
        Entry.extraSum (Window.kept window? (lines.takeWhile Entry.accepts)) := by
  by_cases exceeds : Decimal.wordLimit <
      Entry.extraSum (Window.kept window? (lines.takeWhile Entry.accepts))
  · obtain ⟨origin, herror⟩ := ofLines_of_overflow tracked exceeds
    rw [h] at herror
    cases herror
    exact Or.inr ⟨origin, rfl, exceeds⟩
  · rcases Entry.accepted_or_firstFault lines with accepted | ⟨line, reason, fault⟩
    · rw [List.takeWhile_eq_self_iff.mpr accepted, Nat.not_lt] at exceeds
      rw [ofLines_of_accepted tracked accepted exceeds] at h
      cases h
    · rw [ofLines_of_fault tracked fault (by omega)] at h
      cases h
      exact Or.inl ⟨line, reason, rfl, fault⟩

end Tally

end BenchLog
