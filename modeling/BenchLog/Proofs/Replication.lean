import BenchLog.Proofs.Independence
import BenchLog.Proofs.OrderStatistics

/-!
# Lines that are there several times

Analyzing some lines several times over multiplies every count and every sum, and changes neither the
window nor the latency of a rank (`Analysis.ofLines_copies`). The window depends on which times there are
and not on how often. The latency of a rank is told by counting, and as the counts are multiplied so is
the place that the rank asks for: what is lost by rounding it down is less than one copy
(`SortedLatencies.nearestRank_of_copies`).
-/

namespace BenchLog

/-! ## Copies of a list -/

section Copies

variable {α β : Type}

/-- A list several times over. -/
def copies (count : Nat) (items : List α) : List α :=
  (List.replicate count items).flatten

variable {count : Nat} {items : List α}

theorem copies_succ (count : Nat) (items : List α) :
    copies (count + 1) items = items ++ copies count items := rfl

theorem mem_of_mem_copies {item : α} (h : item ∈ copies count items) : item ∈ items := by
  obtain ⟨copy, hcopy, member⟩ := List.mem_flatten.mp h
  rwa [List.eq_of_mem_replicate hcopy] at member

theorem mem_copies_iff (positive : 0 < count) {item : α} : item ∈ copies count items ↔ item ∈ items := by
  refine ⟨mem_of_mem_copies, ?_⟩
  intro member
  exact List.mem_flatten.mpr ⟨items, List.mem_replicate.mpr ⟨positive.ne', rfl⟩, member⟩

theorem map_copies (f : α → β) (count : Nat) (items : List α) :
    (copies count items).map f = copies count (items.map f) := by
  rw [copies, List.map_flatten, List.map_replicate, copies]

theorem filter_copies (p : α → Bool) (count : Nat) (items : List α) :
    (copies count items).filter p = copies count (items.filter p) := by
  rw [copies, List.filter_flatten, List.map_replicate, copies]

theorem length_copies (count : Nat) (items : List α) :
    (copies count items).length = count * items.length := by
  rw [copies, List.length_flatten, List.map_replicate, List.sum_replicate_nat]

theorem countP_copies (p : α → Bool) (count : Nat) (items : List α) :
    (copies count items).countP p = count * items.countP p := by
  rw [copies, List.countP_flatten, List.map_replicate, List.sum_replicate_nat]

theorem copies_perm {others : List α} (count : Nat) (h : items.Perm others) :
    (copies count items).Perm (copies count others) := by
  induction count with
  | zero => exact .refl _
  | succ count ih => exact h.append ih

end Copies

/-! ## Ranks -/

namespace SortedLatencies

variable {whole part : SortedLatencies} {count num den : Nat}

theorem size_of_copies (h : whole.toList.Perm (copies count part.toList)) :
    whole.size = count * part.size :=
  h.length_eq.trans (length_copies count part.toList)

theorem countP_of_copies (h : whole.toList.Perm (copies count part.toList)) (p : Nat → Bool) :
    whole.toList.countP p = count * part.toList.countP p :=
  (h.countP_eq p).trans (countP_copies p count part.toList)

/-- Several copies of some latencies have the same latency at every rank. -/
theorem nearestRank_of_copies (h : whole.toList.Perm (copies count part.toList))
    (positive : 0 < count) (hrank : num < den) :
    whole.nearestRank num den = part.nearestRank num den := by
  have hden : 0 < den := Nat.zero_lt_of_lt hrank
  by_cases hpart : part.toList = []
  · have hwhole : whole.toList = [] := by
      rw [← List.length_eq_zero_iff, h.length_eq, length_copies, hpart, List.length_nil, Nat.mul_zero]
    rw [nearestRank_of_nil hpart, nearestRank_of_nil hwhole]
  · have hwhole : whole.toList ≠ [] := by
      obtain ⟨latency, member⟩ := List.exists_mem_of_ne_nil _ hpart
      exact List.ne_nil_of_mem (h.mem_iff.mpr ((mem_copies_iff positive).mpr member))
    apply Nat.le_antisymm
    · have upto := (nearestRank_le_iff hpart hrank).mp (Nat.le_refl (part.nearestRank num den))
      rw [Nat.div_lt_iff_lt_mul hden] at upto
      rw [nearestRank_le_iff hwhole hrank, size_of_copies h, countP_of_copies h,
        Nat.div_lt_iff_lt_mul hden, Nat.mul_assoc, Nat.mul_assoc]
      exact Nat.mul_lt_mul_of_pos_left upto positive
    · have below := (le_nearestRank_iff hpart hrank).mp (Nat.le_refl (part.nearestRank num den))
      rw [Nat.le_div_iff_mul_le hden] at below
      rw [le_nearestRank_iff hwhole hrank, size_of_copies h, countP_of_copies h,
        Nat.le_div_iff_mul_le hden, Nat.mul_assoc, Nat.mul_assoc]
      exact Nat.mul_le_mul_left count below

end SortedLatencies

/-! ## Entries and tallies -/

namespace Entry

theorem ofAccepted_copies (count : Nat) (lines : List LogLine) :
    ofAccepted (copies count lines) = copies count (ofAccepted lines) := by
  induction count with
  | zero => rfl
  | succ count ih => rw [copies_succ, ofAccepted_append, ih, copies_succ]

theorem extraSum_copies (count : Nat) (entries : List Entry) :
    extraSum (copies count entries) = count * extraSum entries := by
  induction count with
  | zero => simp [copies]
  | succ count ih => rw [copies_succ, extraSum_append, ih, Nat.succ_mul, Nat.add_comm]

theorem extras_copies (count : Nat) (entries : List Entry) :
    extras (copies count entries) =
      ⟨count * (extras entries).all, count * (extras entries).committed,
        count * (extras entries).aborted⟩ := by
  simp only [extras, filter_copies, extraSum_copies]

theorem latencies_copies (tracked : Tracked) (grouping : Grouping) (count : Nat)
    (entries : List Entry) :
    latencies tracked grouping (copies count entries) =
      copies count (latencies tracked grouping entries) := by
  rw [latencies, filter_copies, map_copies, latencies]

end Entry

theorem Window.kept_copies (window? : Option Window) (count : Nat) (lines : List LogLine) :
    kept window? (copies count lines) = copies count (kept window? lines) := by
  rw [kept_eq_filter, Entry.ofAccepted_copies, filter_copies, kept_eq_filter]

theorem MergedTally.toList_get_copies (tracked : Tracked) (count : Nat) (entries : List Entry)
    (grouping : Grouping) :
    ((ofEntries tracked (copies count entries)).groups.get grouping).toList.Perm
      (copies count ((ofEntries tracked entries).groups.get grouping).toList) := by
  have hcopies := toList_get_perm tracked (copies count entries) grouping
  rw [Entry.latencies_copies] at hcopies
  exact hcopies.trans (copies_perm count (toList_get_perm tracked entries grouping)).symm

/-! ## Analyses -/

namespace Analysis

variable {settings : Settings} {lines : List LogLine} {analysis analysis' : Analysis} {count : Nat}

/-- Copies of the lines plan the same window, up to the sign of a zero. -/
theorem plannedWindow_copies (settings : Settings) (lines : List LogLine) (positive : 0 < count) :
    Option.Rel Window.Alike (plannedWindow settings (copies count lines))
      (plannedWindow settings lines) := by
  apply plannedWindow_of_mem_iff
  intro time
  rw [Window.finishes, Entry.ofAccepted_copies, map_copies, mem_copies_iff positive, Window.finishes]

theorem counted_copies (settings : Settings) (lines : List LogLine) (positive : 0 < count) :
    counted settings (copies count lines) = copies count (counted settings lines) := by
  rw [counted, Window.kept_eq_of_alike (plannedWindow_copies settings lines positive),
    Window.kept_copies, counted]

/-- Lines that have an analysis have one several times over, if the extra retries still fit 64 bits. -/
theorem exists_ofLines_copies (h : ofLines lines settings = .ok analysis) (positive : 0 < count)
    (fits : count * analysis.summary.extras.all < 2 ^ 64) :
    ∃ analysis', ofLines (copies count lines) settings = .ok analysis' := by
  obtain ⟨nonempty, countable, hduration, hcounted⟩ := exists_ofLines_eq_ok_iff.mp ⟨analysis, h⟩
  obtain ⟨htally, hsummary, -⟩ := of_ofLines_eq_ok h
  have hextras := (TransactionSummary.of_ofTally_eq_ok hsummary).2
  have copies_ne_nil {α : Type} {items : List α} (h : items ≠ []) : copies count items ≠ [] := by
    obtain ⟨item, member⟩ := List.exists_mem_of_ne_nil _ h
    exact List.ne_nil_of_mem ((mem_copies_iff positive).mpr member)
  refine exists_ofLines_eq_ok_iff.mpr ⟨copies_ne_nil nonempty, ⟨?_, ?_⟩, hduration, ?_⟩
  · exact fun line member => countable.1 line (mem_of_mem_copies member)
  · rw [hextras, htally] at fits
    rw [counted_copies settings lines positive, Entry.extraSum_copies]
    exact Nat.le_pred_of_lt fits
  · rw [counted_copies settings lines positive]
    exact copies_ne_nil hcounted

/-- Two analyses that plan alike windows have windows that are equal as numbers. -/
theorem window_beq_of_alike {lines' : List LogLine} {settings' : Settings}
    (h : ofLines lines settings = .ok analysis) (h' : ofLines lines' settings' = .ok analysis')
    (hplanned : Option.Rel Window.Alike (plannedWindow settings lines)
      (plannedWindow settings' lines')) :
    Option.Rel (fun one other => one.start == other.start ∧ one.stop == other.stop)
      analysis.window analysis'.window := by
  obtain ⟨-, -, -, nonempty⟩ := exists_ofLines_eq_ok_iff.mp ⟨analysis, h⟩
  obtain ⟨-, -, hwindow⟩ := of_ofLines_eq_ok h
  obtain ⟨-, -, hwindow'⟩ := of_ofLines_eq_ok h'
  have halike := Window.alike_trans hplanned (Window.alike_symm hwindow')
  apply Window.beq_of_alike (Window.alike_trans hwindow halike)
  rwa [Window.kept_eq_of_alike hwindow]

/-- If some lines have an analysis and the sum of their extra retries fits 64 bits when it is multiplied,
    the same lines several times over have one. It has the same window, every count and every sum is
    multiplied, and the median and the high percentiles are the same ones. -/
theorem ofLines_copies (h : ofLines lines settings = .ok analysis) (positive : 0 < count)
    (fits : count * analysis.summary.extras.all < 2 ^ 64) :
    ∃ analysis', ofLines (copies count lines) settings = .ok analysis' ∧
      Option.Rel (fun one other => one.start == other.start ∧ one.stop == other.stop)
        analysis.window analysis'.window ∧
      (∀ grouping, (analysis'.tally.groups.get grouping).size =
        count * (analysis.tally.groups.get grouping).size) ∧
      analysis'.summary.counts = {
        total := count * analysis.summary.counts.total
        committed := count * analysis.summary.counts.committed
        aborted := count * analysis.summary.counts.aborted
        writeAborted := count * analysis.summary.counts.writeAborted
        readAborted := count * analysis.summary.counts.readAborted } ∧
      analysis'.summary.extras = {
        all := count * analysis.summary.extras.all
        committed := count * analysis.summary.extras.committed
        aborted := count * analysis.summary.extras.aborted } ∧
      ∀ statistic ∈ LatencySummary.orderStatistics,
        statistic analysis'.summary.latency.all = statistic analysis.summary.latency.all ∧
        statistic analysis'.summary.latency.committed =
          statistic analysis.summary.latency.committed ∧
        statistic analysis'.summary.latency.aborted =
          statistic analysis.summary.latency.aborted := by
  obtain ⟨analysis', h'⟩ := exists_ofLines_copies h positive fits
  obtain ⟨htally, hsummary, -⟩ := of_ofLines_eq_ok h
  obtain ⟨htally', hsummary', -⟩ := of_ofLines_eq_ok h'
  obtain ⟨hcounts, hextras⟩ := TransactionSummary.of_ofTally_eq_ok hsummary
  obtain ⟨hcounts', hextras'⟩ := TransactionSummary.of_ofTally_eq_ok hsummary'
  rw [counted_copies settings lines positive] at htally'
  have hgroups : ∀ grouping, (analysis'.tally.groups.get grouping).toList.Perm
      (copies count (analysis.tally.groups.get grouping).toList) := by
    rw [htally, htally']
    exact MergedTally.toList_get_copies _ _ _
  have hsizes (grouping : Grouping) := SortedLatencies.size_of_copies (hgroups grouping)
  refine ⟨analysis', h', ?_, hsizes, ?_, ?_, ?_⟩
  · exact window_beq_of_alike h h' (Window.alike_symm (plannedWindow_copies settings lines positive))
  · rw [hcounts, hcounts', Counts.mk.injEq]
    exact ⟨hsizes .all, hsizes .committed, hsizes .aborted, hsizes .writeAborted,
      hsizes .readAborted⟩
  · rw [hextras, hextras', htally, htally']
    exact Entry.extras_copies count _
  · intro statistic hstatistic
    obtain ⟨num, den, hrank, hvalue⟩ := LatencySummary.exists_rank_of_mem hstatistic
    have hsame (grouping : Grouping) :=
      SortedLatencies.nearestRank_of_copies (hgroups grouping) positive hrank
    simp only [latency_of_ofLines_eq_ok h, latency_of_ofLines_eq_ok h', hvalue]
    exact ⟨hsame .all, hsame .committed, hsame .aborted⟩

/-- The earliest ends are zeros of different sign, and the last line ends outside the window. -/
def linesAtZero : List LogLine :=
  [⟨"run.log", 1, "1 0.0 0.0 5 1 2 7"⟩, ⟨"run.log", 2, "2 0.0 -0.0 9 2 3 1"⟩,
    ⟨"run.log", 3, "3 0.0 0.5 7 1"⟩, ⟨"run.log", 4, "4 0.0 3.0 8 3"⟩]

/-- The lines three times over. -/
theorem ofLines_copies_linesAtZero :
    ∃ analysis,
      ofLines linesAtZero { duration := 1, warmup := 0, window := true, workers := 3 } =
        .ok analysis ∧
      3 * analysis.summary.extras.all < 2 ^ 64 ∧
      ∃ analysis',
        ofLines (copies 3 linesAtZero) { duration := 1, warmup := 0, window := true, workers := 3 } =
          .ok analysis' ∧
        Option.Rel (fun one other => one.start == other.start ∧ one.stop == other.stop)
          analysis.window analysis'.window ∧
        analysis'.summary.counts = ⟨9, 6, 3, 3, 0⟩ ∧ analysis'.summary.extras = ⟨24, 21, 3⟩ ∧
        analysis'.summary.latency.committed.p99 = analysis.summary.latency.committed.p99 := by
  have hvalue : (ofLines linesAtZero
      { duration := 1, warmup := 0, window := true, workers := 3 }).toOption.map
        (fun analysis => (analysis.summary.counts, analysis.summary.extras)) =
      some (⟨3, 2, 1, 1, 0⟩, ⟨8, 7, 1⟩) := by
    decide +kernel
  obtain ⟨analysis, hanalysis, hsizes⟩ := Option.map_eq_some_iff.mp hvalue
  obtain ⟨hcounts, hextras⟩ := Prod.mk.inj hsizes
  have hlines := Loop.toOption_eq_some_iff.mp hanalysis
  have fits : 3 * analysis.summary.extras.all < 2 ^ 64 := by
    rw [hextras]
    decide
  obtain ⟨analysis', hlines', hwindow, -, hcounts', hextras', hstatistics⟩ :=
    ofLines_copies hlines (by decide) fits
  rw [hcounts] at hcounts'
  rw [hextras] at hextras'
  have hmember : LatencySummary.p99 ∈ LatencySummary.orderStatistics := by
    simp [LatencySummary.orderStatistics]
  exact ⟨analysis, hlines, fits, analysis', hlines', hwindow, hcounts', hextras',
    (hstatistics _ hmember).2.1⟩

end Analysis

end BenchLog
