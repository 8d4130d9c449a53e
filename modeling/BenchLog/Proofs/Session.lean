import BenchLog.Proofs.Groupings
import BenchLog.Proofs.Tally

/-!
# Counting entry by entry

Entries may be counted one after the other, and counting may go on after one was refused. Every tally on
the way is the tally of the entries that were not refused (`Tally.afterCalls_ofEntries`). That is why a
refused entry leaves nothing behind, although it is counted among all transactions before the sum for its
outcome is looked at: the sum among all is the greater one and is refused first.
-/

namespace BenchLog.Tally

variable {tracked : Tracked}

/-- The tally after some entries were counted, each with the line it comes from. An entry that is refused
    does not end the count. -/
def afterCalls (tracked : Tracked) (calls : List (LogLine × Entry)) (tally : Tally) : Tally :=
  calls.foldl (fun tally call => (tally.record tracked call.1 call.2).1) tally

/-- The entries among them that are not refused. -/
def accepted (tracked : Tracked) : List (LogLine × Entry) → Tally → List Entry
  | [], _ => []
  | (line, entry) :: calls, tally =>
      match tally.record tracked line entry with
      | (next, none) => entry :: accepted tracked calls next
      | (next, some _) => accepted tracked calls next

/-- Each grouping holds its latencies in the order in which they came, and the sums make each other up. -/
structure Consistent (tally : Tally) : Prop where
  all : Interleaves tally.groups.committed.toList tally.groups.aborted.toList
    tally.groups.all.toList
  aborted : Interleaves tally.groups.writeAborted.toList tally.groups.readAborted.toList
    tally.groups.aborted.toList
  follow : tally.groups.follow.toList.Sublist tally.groups.committed.toList
  tweet : tally.groups.tweet.toList.Sublist tally.groups.committed.toList
  extras : tally.extras.all = tally.extras.committed + tally.extras.aborted

theorem consistent_ofEntries (tracked : Tracked) (entries : List Entry) :
    (ofEntries tracked entries).Consistent where
  all := Entry.interleaves_latencies (Grouping.splits_all tracked) entries
  aborted := Entry.interleaves_latencies (Grouping.splits_aborted tracked) entries
  follow := Entry.sublist_latencies (fun _ => Grouping.committed_of_follow) entries
  tweet := Entry.sublist_latencies (fun _ => Grouping.committed_of_tweet) entries
  extras := Entry.extras_all entries

theorem ofEntries_nil (tracked : Tracked) : ofEntries tracked [] = empty := rfl

/-- One call refuses its entry or extends the tally by it; a run of calls extends the tally by the entries
    that were not refused, and their extra retries fit 64 bits. -/
theorem afterCalls_ofEntries (tracked : Tracked) (calls : List (LogLine × Entry))
    (entries : List Entry) (hfits : Entry.extraSum entries ≤ Decimal.wordLimit) :
    afterCalls tracked calls (ofEntries tracked entries) =
        ofEntries tracked (entries ++ accepted tracked calls (ofEntries tracked entries)) ∧
      Entry.extraSum (entries ++ accepted tracked calls (ofEntries tracked entries)) ≤
        Decimal.wordLimit := by
  -- On the calls. What carries it is that the tally so far is that of some entries whose extra retries
  -- fit, which a refused call leaves as it is.
  induction calls generalizing entries with
  | nil =>
      rw [accepted, List.append_nil]
      exact ⟨rfl, hfits⟩
  | cons call calls ih =>
      obtain ⟨line, entry⟩ := call
      have hstep := record_ofEntries tracked line entry entries
      rw [afterCalls, List.foldl_cons, accepted]
      by_cases fits : Entry.extraSum entries + entry.extra ≤ Decimal.wordLimit
      · rw [if_pos fits] at hstep
        have hnext : Entry.extraSum (entries ++ [entry]) ≤ Decimal.wordLimit := by
          simpa [Entry.extraSum_append, Entry.extraSum_cons] using fits
        obtain ⟨hrun, hsum⟩ := ih (entries ++ [entry]) hnext
        rw [hstep]
        rw [List.append_assoc, List.singleton_append] at hrun hsum
        exact ⟨hrun, hsum⟩
      · rw [if_neg fits] at hstep
        rw [hstep]
        exact ih entries hfits

/-- After any calls, failed ones among them, the latencies of each grouping stand in the order of the
    entries, the sum among all transactions is the exact one of the entries that were not refused, and it
    is made up of the other two. The next entry is refused if and only if that sum would pass 64 bits; the
    failure names that sum, and the tally stays as it is. -/
theorem afterCalls_consistent (tracked : Tracked) (calls : List (LogLine × Entry)) :
    (afterCalls tracked calls empty).Consistent ∧
    (afterCalls tracked calls empty).extras.all =
      ((accepted tracked calls empty).map Entry.extra).sum ∧
    (afterCalls tracked calls empty).extras.all < 2 ^ 64 ∧
    ∀ line entry,
      ((∃ next failure,
          (afterCalls tracked calls empty).record tracked line entry = (next, some failure)) ↔
        2 ^ 64 ≤ (afterCalls tracked calls empty).extras.all + entry.extra) ∧
      ∀ next failure,
        (afterCalls tracked calls empty).record tracked line entry = (next, some failure) →
        failure = .overflow .extraAll line.origin ∧ next = afterCalls tracked calls empty := by
  obtain ⟨hrun, hfits⟩ := afterCalls_ofEntries tracked calls [] (Nat.zero_le _)
  rw [ofEntries_nil, List.nil_append] at hrun hfits
  generalize accepted tracked calls empty = entries at hrun hfits ⊢
  rw [hrun]
  refine ⟨consistent_ofEntries tracked entries, rfl, Nat.lt_of_le_pred (by decide) hfits, ?_⟩
  intro line entry
  have hall : (ofEntries tracked entries).extras.all = Entry.extraSum entries := rfl
  rw [record_ofEntries, hall]
  by_cases fits : Entry.extraSum entries + entry.extra ≤ Decimal.wordLimit
  · have below : Entry.extraSum entries + entry.extra < 2 ^ 64 := Nat.lt_of_le_pred (by decide) fits
    rw [if_pos fits]
    refine ⟨⟨?_, fun h => absurd below (Nat.not_lt.mpr h)⟩, ?_⟩
    · rintro ⟨next, failure, hrecord⟩
      cases hrecord
    · intro next failure hrecord
      cases hrecord
  · rw [if_neg fits]
    have exceeds : 2 ^ 64 ≤ Entry.extraSum entries + entry.extra :=
      Nat.le_of_pred_lt (Nat.lt_of_not_le fits)
    refine ⟨⟨fun _ => exceeds, fun _ => ⟨_, _, rfl⟩⟩, ?_⟩
    intro next failure hrecord
    cases hrecord
    exact ⟨rfl, rfl⟩

end BenchLog.Tally
