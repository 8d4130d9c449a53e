import BenchLog.Analysis
import BenchLog.Proofs.FirstEnd
import BenchLog.Proofs.MergedTally
import BenchLog.Proofs.Partition

/-!
# How an analysis ends

The lines and the settings alone decide which entries count (`Analysis.counted`), and the lines can be
tallied if each of them is an entry and the extra retries of the entries that count fit 64 bits
(`Analysis.Countable`). If they can, the rest of the analysis is a function of the entries that count
(`ofLines_of_countable`); if they cannot, the first fault or an overflow is reported, and which of the two
it is may depend on the cut (`ofLines_of_not_countable`).
-/

namespace BenchLog

namespace MergedTally

variable {tracked : Tracked}

theorem isEmpty_ofEntries (tracked : Tracked) (entries : List Entry) :
    (ofEntries tracked entries).groups.all.isEmpty = true ↔ entries = [] := by
  have hperm := SortedLatencies.toList_ofList_perm (entries.map Entry.latency)
  have hfilter : entries.filter (Grouping.all.holds tracked) = entries :=
    List.filter_eq_self.mpr fun _ _ => rfl
  have hall : (ofEntries tracked entries).groups.all = .ofList (entries.map Entry.latency) := by
    simp only [ofEntries, Groups.ofFn, hfilter]
  rw [hall, SortedLatencies.isEmpty, List.isEmpty_iff]
  constructor
  · intro h
    rw [h] at hperm
    exact List.map_eq_nil_iff.mp hperm.nil_eq.symm
  · rintro rfl
    exact hperm.eq_nil

end MergedTally

namespace TransactionSummary

variable {tracked : Tracked} {entries : List Entry} {duration : Float}

theorem ofTally_of_not_isDuration (tally : MergedTally) (h : isDuration duration = false) :
    ofTally tally duration = .error (.badDuration duration) := by
  simp [ofTally, h]

theorem ofTally_of_nil (h : isDuration duration = true) :
    ofTally (.ofEntries tracked []) duration = .error .noTransactions := by
  have hempty := (MergedTally.isEmpty_ofEntries tracked []).mpr rfl
  simp [ofTally, h, hempty]

theorem ofTally_of_ne_nil (tracked : Tracked) (h : isDuration duration = true)
    (nonempty : entries ≠ []) :
    ∃ summary, ofTally (.ofEntries tracked entries) duration = .ok summary := by
  have hempty := mt (MergedTally.isEmpty_ofEntries tracked entries).mp nonempty
  rw [ofTally, h, if_neg (by simp), if_neg hempty]
  exact ⟨_, rfl⟩

end TransactionSummary

namespace Analysis

variable {settings : Settings} {lines : List LogLine}

/-- The window that the settings ask for, if the earliest of the given lines' ends opens it. -/
def plannedWindow (settings : Settings) (lines : List LogLine) : Option Window :=
  if settings.window then
    (Window.earliest? (Window.finishes lines)).map fun first =>
      .afterWarmup first settings.warmup settings.duration
  else none

/-- The entries that count. -/
def counted (settings : Settings) (lines : List LogLine) : List Entry :=
  Window.kept (plannedWindow settings lines) lines

/-- Every line is an entry, and the extra retries of the entries that count fit 64 bits. -/
def Countable (settings : Settings) (lines : List LogLine) : Prop :=
  (∀ line ∈ lines, Entry.accepts line = true) ∧
    Entry.extraSum (counted settings lines) ≤ Decimal.wordLimit

@[simp] theorem flatten_parts (lines : List LogLine) (workers : Nat) :
    (parts lines workers).flatten = lines :=
  flatten_slices _ _

/-! ## The window -/

theorem afterWarmup_alike {first other : Float} (h : FloatOrder.Alike first other)
    (warmup duration : Float) :
    (Window.afterWarmup first warmup duration).Alike (.afterWarmup other warmup duration) :=
  ⟨h.add warmup, (h.add warmup).add duration⟩

theorem finishes_ne_nil (accepted : ∀ line ∈ lines, Entry.accepts line = true)
    (nonempty : lines ≠ []) : Window.finishes lines ≠ [] := by
  cases lines with
  | nil => exact absurd rfl nonempty
  | cons line lines =>
      obtain ⟨entry, hline⟩ := Entry.accepts_iff.mp (accepted line (by simp))
      simp [Window.finishes, Entry.ofAccepted_cons_of_ok hline]

/-- The window that an earliest end opens is the planned one, up to the sign of a zero. -/
theorem plannedWindow_of_isEarliest {first : Float} (hwindow : settings.window = true)
    {times : List Float} (hfirst : Window.IsEarliest times first)
    (hsame : ∀ time, time ∈ times ↔ time ∈ Window.finishes lines) :
    Option.Rel Window.Alike (some (.afterWarmup first settings.warmup settings.duration))
      (plannedWindow settings lines) := by
  have hother : ∃ other, Window.IsEarliest (Window.finishes lines) other := by
    refine ⟨first, (hsame first).mp hfirst.1, ?_⟩
    exact fun time member => hfirst.2 time ((hsame time).mpr member)
  obtain ⟨_, hother⟩ := hother
  obtain ⟨other, hplanned⟩ := Window.exists_earliest? hother
  rw [plannedWindow, if_pos hwindow, hplanned]
  exact .some (afterWarmup_alike (hfirst.alike (Window.isEarliest_of_earliest? hplanned) hsame) _ _)

/-- The first pass ends with the first fault, or all lines are entries and the window is as planned.
    Without a window there is no first pass, and nothing is said about the lines. -/
theorem windowOf_cases (settings : Settings) {parts : List (List LogLine)}
    (nonempty : parts.flatten ≠ []) :
    (∃ line reason, settings.window = true ∧ Entry.FirstFault parts.flatten line reason ∧
      windowOf settings parts = .error (.malformed line reason)) ∨
    ∃ window?, windowOf settings parts = .ok window? ∧
      (settings.window = true → ∀ line ∈ parts.flatten, Entry.accepts line = true) ∧
      Option.Rel Window.Alike window? (plannedWindow settings parts.flatten) := by
  by_cases hwindow : settings.window = true
  · rw [windowOf, if_pos hwindow]
    rcases Entry.accepted_or_firstFault parts.flatten with accepted | ⟨line, reason, fault⟩
    · obtain ⟨first, hfirst, earliest⟩ :=
        Window.earliestEnd_of_accepted accepted (finishes_ne_nil accepted nonempty)
      rw [hfirst]
      exact Or.inr ⟨_, rfl, fun _ => accepted, plannedWindow_of_isEarliest hwindow earliest fun _ => Iff.rfl⟩
    · rw [Window.earliestEnd_of_fault fault]
      exact Or.inl ⟨line, reason, hwindow, fault, rfl⟩
  · rw [windowOf, plannedWindow, if_neg hwindow, if_neg hwindow]
    exact Or.inr ⟨none, rfl, fun h => absurd h hwindow, .none⟩

/-- If the first pass finds a window, there are lines, all of them are entries, and it is the planned
    window up to the sign of a zero. -/
theorem of_windowOf_eq_some {window : Window}
    (h : windowOf settings (parts lines settings.workers) = .ok (some window)) :
    lines ≠ [] ∧ (∀ line ∈ lines, Entry.accepts line = true) ∧
      Option.Rel Window.Alike (some window) (plannedWindow settings lines) := by
  have hflatten := flatten_parts lines settings.workers
  have hwindow : settings.window = true := by
    by_contra hnone
    rw [windowOf, if_neg hnone] at h
    cases h
  have nonempty : lines ≠ [] := by
    rintro rfl
    rw [windowOf, if_pos hwindow, Window.earliestEnd_of_flatten_eq_nil hflatten] at h
    cases h
  rcases windowOf_cases settings (by rwa [hflatten]) with
    ⟨line, reason, -, -, herror⟩ | ⟨window?, hok, accepted, halike⟩
  · rw [h] at herror
    cases herror
  · rw [h] at hok
    cases hok
    rw [hflatten] at accepted halike
    exact ⟨nonempty, accepted hwindow, halike⟩

/-! ## The analysis -/

theorem ofLines_nil (settings : Settings) : ofLines [] settings = .error .noInput := rfl

/-- The part of an analysis that follows once there are lines. -/
theorem ofLines_of_ne_nil (settings : Settings) (nonempty : lines ≠ []) :
    ofLines lines settings = (do
      let window ← windowOf settings (parts lines settings.workers)
      let tally ← MergedTally.ofParts settings.tracked window (parts lines settings.workers)
      let summary ← TransactionSummary.ofTally tally settings.duration
      return { summary, tally, window }) := by
  have hempty : lines.isEmpty = false := by simpa using nonempty
  rw [ofLines, hempty]
  rfl

/-- If the lines can be tallied, the tally is that of the entries that count, and the rest depends on
    nothing but the tally and the duration. -/
theorem ofLines_of_countable (nonempty : lines ≠ []) (countable : Countable settings lines) :
    ∃ window?, Option.Rel Window.Alike window? (plannedWindow settings lines) ∧
      ofLines lines settings = (do
        let summary ← TransactionSummary.ofTally
          (.ofEntries settings.tracked (counted settings lines)) settings.duration
        return {
          summary
          tally := .ofEntries settings.tracked (counted settings lines)
          window := window? }) := by
  have hflatten := flatten_parts lines settings.workers
  rw [ofLines_of_ne_nil settings nonempty]
  rcases windowOf_cases settings (by rwa [hflatten]) with
    ⟨line, reason, -, fault, -⟩ | ⟨window?, hwindow, -, halike⟩
  · rw [hflatten] at fault
    exact absurd countable.1 fault.not_accepted
  · rw [hflatten] at halike
    have htally : MergedTally.ofParts settings.tracked window? (parts lines settings.workers) =
        .ok (.ofEntries settings.tracked (counted settings lines)) := by
      apply MergedTally.ofParts_eq_ok_iff.mpr
      rw [hflatten, Window.kept_eq_of_alike halike]
      exact ⟨countable.1, countable.2, rfl⟩
    rw [hwindow, Loop.ok_bind, htally, Loop.ok_bind]
    exact ⟨window?, halike, rfl⟩

/-- If the lines cannot be tallied, the first fault is reported or an overflow is. The overflow is one of
    the entries before the first fault; with a window it means that there is no fault. -/
theorem ofLines_of_not_countable (nonempty : lines ≠ []) (h : ¬Countable settings lines) :
    (∃ line reason, ofLines lines settings = .error (.malformed line reason) ∧
      Entry.FirstFault lines line reason) ∨
    ∃ origin, ofLines lines settings = .error (.overflow .extraAll origin) ∧
      Decimal.wordLimit < Entry.extraSum
        (Window.kept (plannedWindow settings lines) (lines.takeWhile Entry.accepts)) ∧
      (settings.window = true → ∀ line ∈ lines, Entry.accepts line = true) ∧
      ((∀ line ∈ lines, Entry.accepts line = true) ∨
        ∃ part ∈ parts lines settings.workers, Decimal.wordLimit <
          Entry.extraSum (Window.kept (plannedWindow settings lines) part)) := by
  have hflatten := flatten_parts lines settings.workers
  rw [ofLines_of_ne_nil settings nonempty]
  rcases windowOf_cases settings (by rwa [hflatten]) with
    ⟨line, reason, -, fault, hwindow⟩ | ⟨window?, hwindow, accepted, halike⟩
  · rw [hflatten] at fault
    rw [hwindow]
    exact Or.inl ⟨line, reason, rfl, fault⟩
  · rw [hflatten] at accepted halike
    have hkept := Window.kept_eq_of_alike halike
    rw [hwindow, Loop.ok_bind]
    cases htally : MergedTally.ofParts settings.tracked window?
        (parts lines settings.workers) with
    | ok merged =>
        obtain ⟨haccepted, hfits, -⟩ := MergedTally.ofParts_eq_ok_iff.mp htally
        rw [hflatten] at haccepted hfits
        rw [hkept] at hfits
        exact absurd ⟨haccepted, hfits⟩ h
    | error failure =>
        have hcause := MergedTally.ofParts_eq_error htally
        simp only [hflatten, hkept] at hcause
        rcases hcause with ⟨line, reason, rfl, fault⟩ | ⟨origin, rfl, exceeds, hwhere⟩
        · exact Or.inl ⟨line, reason, rfl, fault⟩
        · exact Or.inr ⟨origin, rfl, exceeds, accepted, hwhere⟩

/-- Of lines that are not all entries the first fault is reported, unless there is no window and the extra
    retries pass 64 bits, both before that fault and within one part. -/
theorem ofLines_of_fault (settings : Settings) {line : LogLine} {reason : Reason}
    (fault : Entry.FirstFault lines line reason) :
    ofLines lines settings = .error (.malformed line reason) ∨
      settings.window = false ∧
        Decimal.wordLimit <
          Entry.extraSum (Entry.ofAccepted (lines.takeWhile Entry.accepts)) ∧
        ∃ part ∈ parts lines settings.workers,
          Decimal.wordLimit < Entry.extraSum (Entry.ofAccepted part) := by
  have nonempty : lines ≠ [] := List.ne_nil_of_mem fault.exists_rejected.1
  have uncountable : ¬Countable settings lines := fun countable => fault.not_accepted countable.1
  rcases ofLines_of_not_countable nonempty uncountable with
    ⟨other, cause, herror, hfault⟩ | ⟨origin, -, exceeds, accepted, hwhere⟩
  · obtain ⟨rfl, rfl⟩ := hfault.unique fault
    exact Or.inl herror
  · have hwindow : settings.window = false := by
      by_contra h
      exact fault.not_accepted (accepted (by simpa using h))
    have hplanned : plannedWindow settings lines = none := by simp [plannedWindow, hwindow]
    rw [hplanned] at exceeds hwhere
    exact Or.inr ⟨hwindow, exceeds, hwhere.resolve_left fault.not_accepted⟩

/-- Lines have an analysis if and only if they can be tallied, the duration can divide a count and some
    entry counts. -/
theorem exists_ofLines_eq_ok_iff :
    (∃ analysis, ofLines lines settings = .ok analysis) ↔
      lines ≠ [] ∧ Countable settings lines ∧ isDuration settings.duration = true ∧
        counted settings lines ≠ [] := by
  constructor
  · rintro ⟨analysis, h⟩
    have nonempty : lines ≠ [] := by
      rintro rfl
      rw [ofLines_nil] at h
      cases h
    by_cases countable : Countable settings lines
    · refine ⟨nonempty, countable, ?_⟩
      obtain ⟨window?, -, hlines⟩ := ofLines_of_countable nonempty countable
      rw [hlines] at h
      obtain ⟨summary, hsummary, -⟩ := Loop.bind_eq_ok_iff.mp h
      cases hduration : isDuration settings.duration with
      | false =>
          rw [TransactionSummary.ofTally_of_not_isDuration _ hduration] at hsummary
          cases hsummary
      | true =>
          refine ⟨rfl, ?_⟩
          intro hcounted
          rw [hcounted, TransactionSummary.ofTally_of_nil hduration] at hsummary
          cases hsummary
    · rcases ofLines_of_not_countable nonempty countable with
        ⟨line, reason, herror, -⟩ | ⟨origin, herror, -⟩
      · rw [h] at herror
        cases herror
      · rw [h] at herror
        cases herror
  · rintro ⟨nonempty, countable, hduration, hcounted⟩
    obtain ⟨window?, -, hlines⟩ := ofLines_of_countable nonempty countable
    obtain ⟨summary, hsummary⟩ :=
      TransactionSummary.ofTally_of_ne_nil settings.tracked hduration hcounted
    rw [hlines]
    exact ⟨_, Loop.bind_eq_ok_iff.mpr ⟨summary, hsummary, rfl⟩⟩

/-- What an analysis holds: the tally of the entries that count, its summary, and the planned window. -/
theorem of_ofLines_eq_ok {analysis : Analysis} (h : ofLines lines settings = .ok analysis) :
    analysis.tally = .ofEntries settings.tracked (counted settings lines) ∧
      TransactionSummary.ofTally analysis.tally settings.duration = .ok analysis.summary ∧
      Option.Rel Window.Alike analysis.window (plannedWindow settings lines) := by
  obtain ⟨nonempty, countable, -⟩ := exists_ofLines_eq_ok_iff.mp ⟨analysis, h⟩
  obtain ⟨window?, halike, hlines⟩ := ofLines_of_countable nonempty countable
  rw [hlines] at h
  obtain ⟨summary, hsummary, hanalysis⟩ := Loop.bind_eq_ok_iff.mp h
  cases hanalysis
  exact ⟨rfl, hsummary, halike⟩

/-- Analyses in which the same entries count, in whatever order, have the same tally and the same summary,
    if they are to track the same kinds and have the same duration. -/
theorem eq_of_counted_perm {settings' : Settings} {lines' : List LogLine}
    {analysis analysis' : Analysis} (h : ofLines lines settings = .ok analysis)
    (h' : ofLines lines' settings' = .ok analysis')
    (htracked : settings.tracked = settings'.tracked)
    (hduration : settings.duration = settings'.duration)
    (hcounted : (counted settings lines).Perm (counted settings' lines')) :
    analysis.tally = analysis'.tally ∧ analysis.summary = analysis'.summary := by
  obtain ⟨htally, hsummary, -⟩ := of_ofLines_eq_ok h
  obtain ⟨htally', hsummary', -⟩ := of_ofLines_eq_ok h'
  have hsame : analysis.tally = analysis'.tally := by
    rw [htally, htally', htracked]
    exact MergedTally.ofEntries_eq_of_perm hcounted
  refine ⟨hsame, ?_⟩
  rw [hsame, hduration, hsummary'] at hsummary
  exact (Except.ok.inj hsummary).symm

end Analysis

end BenchLog
