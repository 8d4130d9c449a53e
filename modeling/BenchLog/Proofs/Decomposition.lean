import BenchLog.Proofs.Groupings
import BenchLog.Proofs.Outcome

/-!
# How a result is made up

The tally of an analysis is made up as its groupings are: the latencies of all transactions are those of
the committed and the aborted ones in one ascending list, and so on down (`MergedTally.Decomposes`). The
counts and the sums of the summary are then made up in the same way, for every tally that a summary is
asked of and whether or not the summary is given.
-/

namespace BenchLog

/-- Every transaction is counted as committed or as aborted, and every aborted one as one that writes or
    as one that only reads. -/
structure Counts.Balanced (counts : Counts) : Prop where
  total : counts.total = counts.committed + counts.aborted
  aborted : counts.aborted = counts.writeAborted + counts.readAborted

namespace MergedTally

variable {tracked : Tracked} {window? : Option Window}

/-- The groupings of a merged tally make each other up, and so do the sums. -/
structure Decomposes (tracked : Tracked) (merged : MergedTally) : Prop where
  all : merged.groups.all.toList =
    (merged.groups.committed.toList ++ merged.groups.aborted.toList).mergeSort (· ≤ ·)
  aborted : merged.groups.aborted.toList =
    (merged.groups.writeAborted.toList ++ merged.groups.readAborted.toList).mergeSort (· ≤ ·)
  follow : merged.groups.follow.toList.Subperm merged.groups.committed.toList
  tweet : merged.groups.tweet.toList.Subperm merged.groups.committed.toList
  tracked : tracked.follow ≠ tracked.tweet →
    (merged.groups.follow.toList ++ merged.groups.tweet.toList).Subperm
      merged.groups.committed.toList
  extras : merged.extras.all = merged.extras.committed + merged.extras.aborted

theorem toList_get_perm (tracked : Tracked) (entries : List Entry) (grouping : Grouping) :
    ((ofEntries tracked entries).groups.get grouping).toList.Perm
      (Entry.latencies tracked grouping entries) := by
  rw [ofEntries, Groups.get_ofFn]
  exact SortedLatencies.toList_ofList_perm _

/-- A grouping that is made up of two others holds their latencies in one ascending list. -/
theorem toList_get_of_splits {whole left right : Grouping}
    (h : Grouping.Splits tracked whole left right) (entries : List Entry) :
    ((ofEntries tracked entries).groups.get whole).toList =
      (((ofEntries tracked entries).groups.get left).toList ++
        ((ofEntries tracked entries).groups.get right).toList).mergeSort (· ≤ ·) := by
  apply SortedLatencies.toList_eq_mergeSort
  have hwhole := (Entry.interleaves_latencies h entries).perm
  have hparts := (toList_get_perm tracked entries left).append (toList_get_perm tracked entries right)
  exact (toList_get_perm tracked entries whole).trans (hwhole.trans hparts.symm)

/-- What lies among some entries' committed latencies lies among those that the tally holds. -/
theorem subperm_committed {entries : List Entry} {held among : List Nat} (hheld : held.Perm among)
    (h : among.Subperm (Entry.latencies tracked .committed entries)) :
    held.Subperm (ofEntries tracked entries).groups.committed.toList :=
  (hheld.subperm.trans h).trans (toList_get_perm tracked entries .committed).symm.subperm

theorem decomposes_ofEntries (tracked : Tracked) (entries : List Entry) :
    Decomposes tracked (ofEntries tracked entries) := by
  have hfollow := toList_get_perm tracked entries .follow
  have htweet := toList_get_perm tracked entries .tweet
  exact {
    all := toList_get_of_splits (Grouping.splits_all tracked) entries
    aborted := toList_get_of_splits (Grouping.splits_aborted tracked) entries
    follow := subperm_committed hfollow
      (Entry.sublist_latencies (fun _ => Grouping.committed_of_follow) entries).subperm
    tweet := subperm_committed htweet
      (Entry.sublist_latencies (fun _ => Grouping.committed_of_tweet) entries).subperm
    tracked := fun differ =>
      subperm_committed (hfollow.append htweet) (Entry.subperm_tracked differ entries)
    extras := Entry.extras_all entries }

/-- The numbers of latencies add up as the groupings do. -/
theorem Decomposes.balanced {merged : MergedTally} (h : Decomposes tracked merged) :
    (Counts.ofTally merged).Balanced := by
  refine ⟨?_, ?_⟩
  · have hlength := congrArg List.length h.all
    rwa [List.length_mergeSort, List.length_append] at hlength
  · have hlength := congrArg List.length h.aborted
    rwa [List.length_mergeSort, List.length_append] at hlength

/-- However lines are cut and whatever the window, the tally that they have decomposes. -/
theorem decomposes_of_ofParts {parts : List (List LogLine)} {merged : MergedTally}
    (h : ofParts tracked window? parts = .ok merged) : Decomposes tracked merged := by
  obtain ⟨-, -, rfl⟩ := ofParts_eq_ok_iff.mp h
  exact decomposes_ofEntries tracked _

/-- A tally counts no more transactions than there are entries. -/
theorem total_ofEntries (tracked : Tracked) (entries : List Entry) :
    (Counts.ofTally (ofEntries tracked entries)).total = entries.length := by
  have hlength := (toList_get_perm tracked entries .all).length_eq
  have hall : entries.filter (Grouping.all.holds tracked) = entries :=
    List.filter_eq_self.mpr fun _ _ => rfl
  rwa [Entry.latencies, hall, List.length_map] at hlength

end MergedTally

namespace TransactionSummary

/-- The counts and the sums of a summary are those of its tally. -/
theorem of_ofTally_eq_ok {merged : MergedTally} {duration : Float} {summary : TransactionSummary}
    (h : ofTally merged duration = .ok summary) :
    summary.counts = .ofTally merged ∧ summary.extras = merged.extras := by
  unfold ofTally at h
  split at h
  · cases h
  · split at h
    · cases h
    · cases h
      exact ⟨rfl, rfl⟩

end TransactionSummary

namespace Analysis

variable {settings : Settings} {lines : List LogLine}

theorem length_counted_le (settings : Settings) (lines : List LogLine) :
    (counted settings lines).length ≤ lines.length := by
  rw [counted, Window.kept_eq_filter]
  exact (List.length_filter_le _ _).trans (List.length_filterMap_le _ _)

/-- Every tally that a summary is asked of has balanced counts. In an analysis the groupings of the tally
    make each other up, and so do the counts and the sums of the summary, none of which is too large for
    64 bits unless there are as many lines. -/
theorem ofLines_decomposes (lines : List LogLine) (settings : Settings) :
    (∀ window? merged,
      MergedTally.ofParts settings.tracked window? (parts lines settings.workers) = .ok merged →
      (Counts.ofTally merged).Balanced) ∧
    ∀ analysis, ofLines lines settings = .ok analysis →
      analysis.tally.Decomposes settings.tracked ∧
      analysis.summary.counts.Balanced ∧
      analysis.summary.counts.total ≤ lines.length ∧
      analysis.summary.extras.all =
        analysis.summary.extras.committed + analysis.summary.extras.aborted ∧
      analysis.summary.extras.all < 2 ^ 64 := by
  refine ⟨?_, ?_⟩
  · intro window? merged hmerged
    exact (MergedTally.decomposes_of_ofParts hmerged).balanced
  · intro analysis hlines
    obtain ⟨-, countable, -⟩ := exists_ofLines_eq_ok_iff.mp ⟨analysis, hlines⟩
    obtain ⟨htally, hsummary, -⟩ := of_ofLines_eq_ok hlines
    obtain ⟨hcounts, hextras⟩ := TransactionSummary.of_ofTally_eq_ok hsummary
    have hdecomposes := MergedTally.decomposes_ofEntries settings.tracked (counted settings lines)
    rw [← htally] at hdecomposes
    refine ⟨hdecomposes, ?_, ?_, ?_, ?_⟩
    · rw [hcounts]
      exact hdecomposes.balanced
    · rw [hcounts, htally, MergedTally.total_ofEntries]
      exact length_counted_le settings lines
    · rw [hextras]
      exact hdecomposes.extras
    · rw [hextras, htally]
      exact Nat.lt_of_le_pred (by decide) countable.2

/-- A transaction of each outcome and of each tracked kind, one that ended at no time and so is left out,
    and extra retries that just fit 64 bits. -/
def mixedLines : List LogLine :=
  [⟨"run.log", 1, "1 0.0 1.0 500 1 2 18446744073709551610"⟩, ⟨"run.log", 2, "2 0.0 1.2 200 1 3 1"⟩,
    ⟨"run.log", 3, "3 0.0 1.9 900 2 2 3"⟩, ⟨"run.log", 4, "4 0.0 nan 400 2 1 99"⟩,
    ⟨"run.log", 5, "5 0.0 1.1 100 3 3 1"⟩, ⟨"run.log", 6, "6 0.0 1.3 300 1"⟩]

theorem ofLines_decomposes_mixedLines :
    ∃ analysis,
      ofLines mixedLines { duration := 1, warmup := 0, window := true, workers := 4 } =
        .ok analysis ∧
      analysis.tally.Decomposes {} ∧ analysis.summary.counts.Balanced ∧
      analysis.summary.counts.total ≤ 6 ∧
      analysis.summary.extras.all =
        analysis.summary.extras.committed + analysis.summary.extras.aborted ∧
      analysis.summary.extras.all < 2 ^ 64 := by
  have hok : ∃ analysis,
      ofLines mixedLines { duration := 1, warmup := 0, window := true, workers := 4 } =
        .ok analysis := by
    apply Loop.isOk_iff.mp
    decide +kernel
  obtain ⟨analysis, hlines⟩ := hok
  exact ⟨analysis, hlines, (ofLines_decomposes mixedLines _).2 analysis hlines⟩

end Analysis

end BenchLog
