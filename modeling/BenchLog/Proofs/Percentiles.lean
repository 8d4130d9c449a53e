import BenchLog.Proofs.OrderStatistics

/-!
# Order statistics of a whole and of its two parts

If two groupings make up a third one, the latency of a rank in the third one lies between their latencies
of that rank (`SortedLatencies.min_le_nearestRank`, `SortedLatencies.nearestRank_le_max`). How many
latencies of the whole lie below a bound is counted in both parts, and the places of the rank in the parts
add up to its place in the whole or to one less, which is what either side of the bound can bear.
-/

namespace BenchLog

namespace SortedLatencies

variable {whole left right : SortedLatencies} {num den : Nat}

theorem place_add_le (leftSize rightSize num den : Nat) :
    leftSize * num / den + rightSize * num / den ≤ (leftSize + rightSize) * num / den := by
  rw [Nat.add_mul]
  exact Nat.div_add_div_le_add_div

theorem place_le_add_succ (leftSize rightSize num : Nat) (positive : 0 < den) :
    (leftSize + rightSize) * num / den ≤ leftSize * num / den + rightSize * num / den + 1 := by
  rw [Nat.add_mul, Nat.add_div positive]
  split
  · exact Nat.le_refl _
  · exact Nat.le_succ _

theorem size_of_perm (h : whole.toList.Perm (left.toList ++ right.toList)) :
    whole.size = left.size + right.size :=
  h.length_eq.trans List.length_append

theorem countP_of_perm (h : whole.toList.Perm (left.toList ++ right.toList)) (p : Nat → Bool) :
    whole.toList.countP p = left.toList.countP p + right.toList.countP p :=
  (h.countP_eq p).trans List.countP_append

theorem ne_nil_of_perm (h : whole.toList.Perm (left.toList ++ right.toList))
    (nonempty : left.toList ≠ []) : whole.toList ≠ [] := by
  intro hnil
  rw [hnil] at h
  exact nonempty (List.append_eq_nil_iff.mp h.nil_eq.symm).1

/-- At most so many latencies as the places of the parts say lie below both bounds of the parts. -/
theorem min_le_nearestRank (h : whole.toList.Perm (left.toList ++ right.toList))
    (hleft : left.toList ≠ []) (hright : right.toList ≠ []) (hrank : num < den) :
    min (left.nearestRank num den) (right.nearestRank num den) ≤ whole.nearestRank num den := by
  rw [le_nearestRank_iff (ne_nil_of_perm h hleft) hrank, size_of_perm h, countP_of_perm h]
  have belowLeft := (le_nearestRank_iff hleft hrank).mp
    (Nat.min_le_left (left.nearestRank num den) (right.nearestRank num den))
  have belowRight := (le_nearestRank_iff hright hrank).mp
    (Nat.min_le_right (left.nearestRank num den) (right.nearestRank num den))
  exact (Nat.add_le_add belowLeft belowRight).trans (place_add_le _ _ _ _)

/-- Each part has one latency more than its place says up to the greater bound, so the whole has two more
    than the places of the parts say. -/
theorem nearestRank_le_max (h : whole.toList.Perm (left.toList ++ right.toList))
    (hleft : left.toList ≠ []) (hright : right.toList ≠ []) (hrank : num < den) :
    whole.nearestRank num den ≤ max (left.nearestRank num den) (right.nearestRank num den) := by
  rw [nearestRank_le_iff (ne_nil_of_perm h hleft) hrank, size_of_perm h, countP_of_perm h]
  have uptoLeft := (nearestRank_le_iff hleft hrank).mp
    (Nat.le_max_left (left.nearestRank num den) (right.nearestRank num den))
  have uptoRight := (nearestRank_le_iff hright hrank).mp
    (Nat.le_max_right (left.nearestRank num den) (right.nearestRank num den))
  have hplace := place_le_add_succ left.size right.size num (Nat.zero_lt_of_lt hrank)
  omega

/-- A part that has everything is the whole. -/
theorem eq_left_of_perm (h : whole.toList.Perm (left.toList ++ right.toList))
    (hright : right.size = 0) : whole = left := by
  rw [List.length_eq_zero_iff.mp hright, List.append_nil] at h
  exact ext_perm h

end SortedLatencies

namespace Analysis

variable {lines : List LogLine} {settings : Settings} {analysis : Analysis}

/-- All transactions of an analysis are the committed and the aborted ones. -/
theorem all_perm_of_ofLines_eq_ok (h : ofLines lines settings = .ok analysis) :
    analysis.tally.groups.all.toList.Perm
      (analysis.tally.groups.committed.toList ++ analysis.tally.groups.aborted.toList) := by
  rw [(of_ofLines_eq_ok h).1, (MergedTally.decomposes_ofEntries _ _).all]
  exact List.mergeSort_perm _ _

/-- The median and the high percentiles of all transactions lie between those of the committed and those of
    the aborted ones, if there are transactions of both outcomes. If there are none of one outcome, they
    are those of the other. -/
theorem ofLines_percentiles_between (h : ofLines lines settings = .ok analysis)
    {statistic : LatencySummary → Nat} (hstatistic : statistic ∈ LatencySummary.orderStatistics) :
    (0 < analysis.summary.counts.committed → 0 < analysis.summary.counts.aborted →
      min (statistic analysis.summary.latency.committed) (statistic analysis.summary.latency.aborted) ≤
          statistic analysis.summary.latency.all ∧
        statistic analysis.summary.latency.all ≤
          max (statistic analysis.summary.latency.committed)
            (statistic analysis.summary.latency.aborted)) ∧
    (analysis.summary.counts.committed = 0 →
      statistic analysis.summary.latency.all = statistic analysis.summary.latency.aborted) ∧
    (analysis.summary.counts.aborted = 0 →
      statistic analysis.summary.latency.all = statistic analysis.summary.latency.committed) := by
  obtain ⟨num, den, hrank, hvalue⟩ := LatencySummary.exists_rank_of_mem hstatistic
  have hperm := all_perm_of_ofLines_eq_ok h
  have hcounts := (TransactionSummary.of_ofTally_eq_ok (of_ofLines_eq_ok h).2.1).1
  simp only [latency_of_ofLines_eq_ok h, hvalue, hcounts, Counts.ofTally]
  refine ⟨?_, ?_, ?_⟩
  · intro committed aborted
    have hcommitted := List.ne_nil_of_length_pos committed
    have haborted := List.ne_nil_of_length_pos aborted
    exact ⟨SortedLatencies.min_le_nearestRank hperm hcommitted haborted hrank,
      SortedLatencies.nearestRank_le_max hperm hcommitted haborted hrank⟩
  · intro committed
    rw [SortedLatencies.eq_left_of_perm (hperm.trans List.perm_append_comm) committed]
  · intro aborted
    rw [SortedLatencies.eq_left_of_perm hperm aborted]

/-- Of the lines of different kinds three transactions committed and two were aborted. The median of all of
    them is that of the committed ones. -/
theorem ofLines_percentiles_between_mixedLines :
    ∃ analysis,
      ofLines mixedLines { duration := 2, window := true, warmup := 0, workers := 3 } =
        .ok analysis ∧
      LatencySummary.median ∈ LatencySummary.orderStatistics ∧
      analysis.summary.counts.committed = 3 ∧ analysis.summary.counts.aborted = 2 ∧
      min analysis.summary.latency.committed.median analysis.summary.latency.aborted.median ≤
        analysis.summary.latency.all.median ∧
      analysis.summary.latency.all.median ≤
        max analysis.summary.latency.committed.median analysis.summary.latency.aborted.median := by
  have hmember : LatencySummary.median ∈ LatencySummary.orderStatistics := List.mem_cons_self
  have hvalue : (ofLines mixedLines
      { duration := 2, window := true, warmup := 0, workers := 3 }).toOption.map
        (fun analysis => (analysis.summary.counts.committed, analysis.summary.counts.aborted)) =
      some (3, 2) := by
    decide +kernel
  obtain ⟨analysis, hanalysis, hcounts⟩ := Option.map_eq_some_iff.mp hvalue
  obtain ⟨hcommitted, haborted⟩ := Prod.mk.inj hcounts
  have hlines := Loop.toOption_eq_some_iff.mp hanalysis
  have hbetween := (ofLines_percentiles_between hlines hmember).1
  rw [hcommitted, haborted] at hbetween
  exact ⟨analysis, hlines, hmember, hcommitted, haborted, hbetween (by decide) (by decide)⟩

end Analysis

end BenchLog
