import BenchLog.MergedTally
import BenchLog.Proofs.Tally

/-!
# What a merged tally holds

Merging the tallies of several parts gives the tally of all their entries, sorted, and fails if and only
if the sum over all parts passes 64 bits. With the tallies of the parts known, tallying lines in parts
depends on the lines alone: where the parts are cut decides at most which failure is reported.
-/

namespace BenchLog

namespace SortedLatencies

/-- Latencies in ascending order are the library's merge sort of whatever holds the same ones. -/
theorem toList_eq_mergeSort {latencies : SortedLatencies} {others : List Nat}
    (hperm : latencies.toList.Perm others) : latencies.toList = others.mergeSort (· ≤ ·) := by
  have hsorted : (others.mergeSort (· ≤ ·)).Pairwise fun a b => decide (a ≤ b) = true :=
    List.pairwise_mergeSort (fun a b c => by simpa using Nat.le_trans)
      (fun a b => by simpa using Nat.le_total a b) others
  exact (hperm.trans (List.mergeSort_perm others (· ≤ ·)).symm).eq_of_pairwise
    (fun _ _ _ _ => Nat.le_antisymm) latencies.sorted (by simpa using hsorted)

theorem toList_ofList (latencies : List Nat) :
    (ofList latencies).toList = latencies.mergeSort (· ≤ ·) :=
  toList_eq_mergeSort (toList_ofList_perm latencies)

end SortedLatencies

namespace MergedTally

variable {tracked : Tracked} {window? : Option Window}

/-- The merged tally of some entries, whatever the size of the sums. -/
def ofEntries (tracked : Tracked) (entries : List Entry) : MergedTally where
  groups := Groups.ofFn fun grouping =>
    .ofList ((entries.filter (grouping.holds tracked)).map Entry.latency)
  extras := Entry.extras entries

/-- The order of the entries does not matter. -/
theorem ofEntries_eq_of_perm {left right : List Entry} (h : left.Perm right) :
    ofEntries tracked left = ofEntries tracked right := by
  have hextras : Entry.extras left = Entry.extras right := by
    simp only [Entry.extras, Entry.extraSum_perm h, Entry.extraSum_perm (h.filter _)]
  have hgroups : ∀ grouping : Grouping,
      SortedLatencies.ofList ((left.filter (grouping.holds tracked)).map Entry.latency) =
        .ofList ((right.filter (grouping.holds tracked)).map Entry.latency) :=
    fun grouping => SortedLatencies.ofList_eq_of_perm ((h.filter _).map _)
  simp only [ofEntries, hextras, hgroups]

/-! ## Merging -/

/-- The sum among all transactions is added first, and if it fits so do the sums by outcome. -/
theorem addExtras_extras (done part : List Entry) :
    addExtras (Entry.extras done) (Entry.extras part) =
      if Entry.extraSum (done ++ part) ≤ Decimal.wordLimit then
        .ok (Entry.extras (done ++ part))
      else .error (.overflow .extraAll .merge) := by
  have hall : (Entry.extras done).all + (Entry.extras part).all = Entry.extraSum (done ++ part) :=
    (Entry.extraSum_append done part).symm
  have hcommitted : (Entry.extras done).committed + (Entry.extras part).committed =
      (Entry.extras (done ++ part)).committed := by
    simp [Entry.extras, Entry.extraSum_append]
  have haborted : (Entry.extras done).aborted + (Entry.extras part).aborted =
      (Entry.extras (done ++ part)).aborted := by
    simp [Entry.extras, Entry.extraSum_append]
  have hsplit : Entry.extraSum (done ++ part) = _ := Entry.extras_all (done ++ part)
  by_cases fits : Entry.extraSum (done ++ part) ≤ Decimal.wordLimit
  · have committedFits : (Entry.extras (done ++ part)).committed ≤ Decimal.wordLimit := by omega
    have abortedFits : (Entry.extras (done ++ part)).aborted ≤ Decimal.wordLimit := by omega
    simp only [addExtras, Counter.add, hall, hcommitted, haborted, if_pos fits,
      if_pos committedFits, if_pos abortedFits, Loop.ok_bind]
    rfl
  · simp only [addExtras, Counter.add, hall, if_neg fits, Loop.error_bind]

/-- The sums of the parts are added up without loss, or the sum among all transactions is reported. -/
theorem foldlM_addExtras (parts : List (List Entry)) (done : List Entry)
    (hfits : Entry.extraSum done ≤ Decimal.wordLimit) :
    (parts.map Entry.extras).foldlM addExtras (Entry.extras done) =
      if Entry.extraSum (done ++ parts.flatten) ≤ Decimal.wordLimit then
        .ok (Entry.extras (done ++ parts.flatten))
      else .error (.overflow .extraAll .merge) := by
  induction parts generalizing done with
  | nil => simp [hfits]
  | cons part parts ih =>
      rw [List.map_cons, List.foldlM_cons, addExtras_extras, List.flatten_cons, ← List.append_assoc]
      split
      · rename_i fits
        rw [Loop.ok_bind, ih _ fits]
      · rename_i exceeds
        rw [Entry.extraSum_append (done ++ part), if_neg (by omega), Loop.error_bind]

theorem gather_ofEntries (parts : List (List Entry)) (grouping : Grouping) :
    gather (parts.map (Tally.ofEntries tracked)) grouping =
      (parts.flatten.filter (grouping.holds tracked)).map Entry.latency := by
  induction parts with
  | nil => rfl
  | cons part parts ih =>
      simp only [gather] at ih
      simp [gather, ih]

/-- The tallies of several parts merge to the tally of all entries if the sum over all of them fits. -/
theorem merge_ofEntries (parts : List (List Entry)) :
    merge (parts.map (Tally.ofEntries tracked)) =
      if Entry.extraSum parts.flatten ≤ Decimal.wordLimit then
        .ok (ofEntries tracked parts.flatten)
      else .error (.overflow .extraAll .merge) := by
  have hfold := foldlM_addExtras parts [] (Nat.zero_le _)
  have hextras : (parts.map (Tally.ofEntries tracked)).map Tally.extras =
      parts.map Entry.extras := by
    simp [Function.comp_def]
  have hnone : Entry.extras [] = ⟨0, 0, 0⟩ := rfl
  rw [hnone, List.nil_append] at hfold
  simp only [merge, hextras, hfold, gather_ofEntries]
  split <;> rfl

/-! ## Tallying in parts -/

theorem mapM_ofLines_eq_ok_iff {parts : List (List LogLine)} {tallies : List Tally} :
    parts.mapM (Tally.ofLines tracked window?) = .ok tallies ↔
      (∀ part ∈ parts, (∀ line ∈ part, Entry.accepts line = true) ∧
        Entry.extraSum (Window.kept window? part) ≤ Decimal.wordLimit) ∧
      tallies = (parts.map (Window.kept window?)).map (Tally.ofEntries tracked) := by
  rw [Loop.mapM_eq_ok_iff]
  induction parts generalizing tallies with
  | nil => simp
  | cons part parts ih =>
      rw [List.forall₂_cons_left_iff]
      constructor
      · rintro ⟨tally, rest, hpart, hparts, rfl⟩
        obtain ⟨accepted, fits, rfl⟩ := Tally.ofLines_eq_ok_iff.mp hpart
        obtain ⟨each, rfl⟩ := ih.mp hparts
        refine ⟨?_, rfl⟩
        intro other member
        rcases List.mem_cons.mp member with rfl | member
        · exact ⟨accepted, fits⟩
        · exact each other member
      · rintro ⟨each, rfl⟩
        obtain ⟨accepted, fits⟩ := each part (by simp)
        refine ⟨_, _, Tally.ofLines_of_accepted tracked accepted fits, ih.mpr ⟨?_, rfl⟩, rfl⟩
        exact fun other member => each other (by simp [member])

/-- Lines have a merged tally if and only if all are entries and the sum over those that count fits.
    It is then the tally of the entries that count, however the lines are cut. -/
theorem ofParts_eq_ok_iff {parts : List (List LogLine)} {merged : MergedTally} :
    ofParts tracked window? parts = .ok merged ↔
      (∀ line ∈ parts.flatten, Entry.accepts line = true) ∧
        Entry.extraSum (Window.kept window? parts.flatten) ≤ Decimal.wordLimit ∧
        merged = ofEntries tracked (Window.kept window? parts.flatten) := by
  rw [ofParts, Loop.bind_eq_ok_iff, Window.kept_flatten]
  constructor
  · rintro ⟨tallies, htallies, hmerge⟩
    obtain ⟨each, rfl⟩ := mapM_ofLines_eq_ok_iff.mp htallies
    rw [merge_ofEntries] at hmerge
    split at hmerge
    · rename_i fits
      cases hmerge
      refine ⟨?_, fits, rfl⟩
      intro line member
      obtain ⟨part, hpart, hline⟩ := List.mem_flatten.mp member
      exact (each part hpart).1 line hline
    · cases hmerge
  · rintro ⟨accepted, fits, rfl⟩
    refine ⟨_, mapM_ofLines_eq_ok_iff.mpr ⟨?_, rfl⟩, by rw [merge_ofEntries, if_pos fits]⟩
    intro part member
    refine ⟨fun line hline => accepted line (List.mem_flatten.mpr ⟨part, member, hline⟩), ?_⟩
    obtain ⟨before, after, rfl⟩ := List.append_of_mem member
    simp only [List.map_append, List.map_cons, List.flatten_append, List.flatten_cons,
      Entry.extraSum_append] at fits
    omega

/-- Why lines have no merged tally: the first malformed line, or a sum that passes 64 bits either
    within a part, before any line is malformed, or over all parts, when no line is. -/
theorem ofParts_eq_error {parts : List (List LogLine)} {failure : Failure}
    (h : ofParts tracked window? parts = .error failure) :
    (∃ line reason, failure = .malformed line reason ∧
      Entry.FirstFault parts.flatten line reason) ∨
    ∃ origin, failure = .overflow .extraAll origin ∧
      Decimal.wordLimit <
        Entry.extraSum (Window.kept window? (parts.flatten.takeWhile Entry.accepts)) ∧
      ((∀ line ∈ parts.flatten, Entry.accepts line = true) ∨
        ∃ part ∈ parts, Decimal.wordLimit < Entry.extraSum (Window.kept window? part)) := by
  rw [ofParts, Loop.bind_eq_error_iff] at h
  rcases h with h | ⟨tallies, htallies, hmerge⟩
  · -- The parts before the failing one were read to their ends, so its first fault is that of all.
    obtain ⟨before, part, after, rfl, hbefore, hpart⟩ := Loop.mapM_eq_error_iff.mp h
    have accepted : ∀ line ∈ before.flatten, Entry.accepts line = true := by
      intro line member
      obtain ⟨earlier, hearlier, hline⟩ := List.mem_flatten.mp member
      obtain ⟨tally, htally⟩ := hbefore earlier hearlier
      exact (Tally.ofLines_eq_ok_iff.mp htally).1 line hline
    rw [List.flatten_append, List.flatten_cons]
    rcases Tally.ofLines_eq_error hpart with ⟨line, reason, rfl, fault⟩ | ⟨origin, rfl, exceeds⟩
    · exact Or.inl ⟨line, reason, rfl, (fault.append_right after.flatten).append_left accepted⟩
    · refine Or.inr ⟨origin, rfl, ?_, Or.inr ⟨part, by simp, ?_⟩⟩
      · exact exceeds.trans_le (Window.extraSum_kept_takeWhile_le window? accepted part after.flatten)
      · have hle := Window.extraSum_kept_le_append window? (part.takeWhile Entry.accepts)
          (part.dropWhile Entry.accepts)
        rw [List.takeWhile_append_dropWhile] at hle
        exact exceeds.trans_le hle
  · obtain ⟨each, rfl⟩ := mapM_ofLines_eq_ok_iff.mp htallies
    have accepted : ∀ line ∈ parts.flatten, Entry.accepts line = true := by
      intro line member
      obtain ⟨part, hpart, hline⟩ := List.mem_flatten.mp member
      exact (each part hpart).1 line hline
    rw [merge_ofEntries, ← Window.kept_flatten] at hmerge
    split at hmerge
    · cases hmerge
    · rename_i exceeds
      cases hmerge
      refine Or.inr ⟨.merge, rfl, ?_, Or.inl accepted⟩
      rw [List.takeWhile_eq_self_iff.mpr accepted]
      omega

/-! ## The tally of the entries that count -/

/-- The latencies of some entries in ascending order. -/
def ascending (entries : List Entry) : List Nat :=
  (entries.map Entry.latency).mergeSort (· ≤ ·)

/-- A merged tally holds exactly these entries: the latencies of each class, as often as they occur and
    in ascending order, and the exact sums of the extra retries. -/
structure Describes (tracked : Tracked) (entries : List Entry) (merged : MergedTally) : Prop where
  all : merged.groups.all.toList = ascending entries
  committed : merged.groups.committed.toList =
    ascending (entries.filter (·.outcome = .committed))
  aborted : merged.groups.aborted.toList =
    ascending (entries.filter fun entry =>
      entry.outcome = .writeAborted ∨ entry.outcome = .readAborted)
  writeAborted : merged.groups.writeAborted.toList =
    ascending (entries.filter (·.outcome = .writeAborted))
  readAborted : merged.groups.readAborted.toList =
    ascending (entries.filter (·.outcome = .readAborted))
  follow : merged.groups.follow.toList =
    ascending (entries.filter fun entry =>
      entry.outcome = .committed ∧ entry.kind = tracked.follow)
  tweet : merged.groups.tweet.toList =
    ascending (entries.filter fun entry =>
      entry.outcome = .committed ∧ entry.kind = tracked.tweet)
  extraAll : merged.extras.all = (entries.map Entry.extra).sum
  extraCommitted : merged.extras.committed =
    ((entries.filter (·.outcome = .committed)).map Entry.extra).sum
  extraAborted : merged.extras.aborted =
    ((entries.filter fun entry =>
      entry.outcome = .writeAborted ∨ entry.outcome = .readAborted).map Entry.extra).sum

theorem toList_get_ofEntries (tracked : Tracked) (entries : List Entry) (grouping : Grouping)
    {member : Entry → Bool} (holds : ∀ entry, grouping.holds tracked entry = member entry) :
    ((ofEntries tracked entries).groups.get grouping).toList = ascending (entries.filter member) := by
  have hfilter : entries.filter (grouping.holds tracked) = entries.filter member :=
    List.filter_congr fun entry _ => holds entry
  rw [ofEntries, Groups.get_ofFn, SortedLatencies.toList_ofList, hfilter, ascending]

theorem describes_ofEntries (tracked : Tracked) (entries : List Entry) :
    Describes tracked entries (ofEntries tracked entries) := by
  have aborted_iff (entry : Entry) : entry.outcome ≠ .committed ↔
      entry.outcome = .writeAborted ∨ entry.outcome = .readAborted := by
    cases entry.outcome <;> simp
  have holds (grouping : Grouping) {member : Entry → Bool}
      (h : ∀ entry, grouping.holds tracked entry = member entry) :=
    toList_get_ofEntries tracked entries grouping h
  exact {
    all := by
      have hall : _ = ascending (entries.filter fun _ => true) := holds .all fun _ => rfl
      rwa [List.filter_true] at hall
    committed := holds .committed fun _ => rfl
    aborted := holds .aborted fun entry => by
      simp only [Grouping.holds, ← aborted_iff, bne, beq_eq_decide, decide_not]
    writeAborted := holds .writeAborted fun _ => rfl
    readAborted := holds .readAborted fun _ => rfl
    follow := holds .follow fun entry => by
      simp only [Grouping.holds, beq_eq_decide, Bool.decide_and]
    tweet := holds .tweet fun entry => by
      simp only [Grouping.holds, beq_eq_decide, Bool.decide_and]
    extraAll := rfl
    extraCommitted := rfl
    extraAborted := by simp only [ofEntries, Entry.extras, Entry.extraSum, aborted_iff] }

/-- Tallying lines in parts succeeds if and only if every line is an entry and the extra retries of the
    entries that count fit 64 bits. It then gives each class of those entries in ascending order and
    their exact sums, and nothing but the bag of those entries decides about it. -/
theorem ofParts_describes_kept (tracked : Tracked) (window? : Option Window)
    (parts : List (List LogLine)) :
    ((∃ merged, ofParts tracked window? parts = .ok merged) ↔
      (∀ part ∈ parts, ∀ line ∈ part, ∃ entry, Entry.ofLine line = .ok entry) ∧
        ((Window.kept window? parts.flatten).map Entry.extra).sum < 2 ^ 64) ∧
    (∀ merged, ofParts tracked window? parts = .ok merged →
      Describes tracked (Window.kept window? parts.flatten) merged) ∧
    ∀ (window' : Option Window) (parts' : List (List LogLine)) (merged merged' : MergedTally),
      (Window.kept window? parts.flatten).Perm (Window.kept window' parts'.flatten) →
      ofParts tracked window? parts = .ok merged → ofParts tracked window' parts' = .ok merged' →
      merged = merged' := by
  refine ⟨?_, ?_, ?_⟩
  · have accepted_iff : (∀ line ∈ parts.flatten, Entry.accepts line = true) ↔
        ∀ part ∈ parts, ∀ line ∈ part, ∃ entry, Entry.ofLine line = .ok entry := by
      simp only [List.mem_flatten, Entry.accepts_iff]
      constructor
      · exact fun h part hpart line hline => h line ⟨part, hpart, hline⟩
      · rintro h line ⟨part, hpart, hline⟩
        exact h part hpart line hline
    simp only [ofParts_eq_ok_iff, accepted_iff, Entry.extraSum]
    constructor
    · rintro ⟨_, accepted, fits, -⟩
      exact ⟨accepted, Nat.lt_of_le_pred (by decide) fits⟩
    · rintro ⟨accepted, fits⟩
      exact ⟨_, accepted, Nat.le_pred_of_lt fits, rfl⟩
  · intro merged hmerged
    obtain ⟨-, -, rfl⟩ := ofParts_eq_ok_iff.mp hmerged
    exact describes_ofEntries tracked _
  · intro window' parts' merged merged' hperm hmerged hmerged'
    obtain ⟨-, -, rfl⟩ := ofParts_eq_ok_iff.mp hmerged
    obtain ⟨-, -, rfl⟩ := ofParts_eq_ok_iff.mp hmerged'
    exact ofEntries_eq_of_perm hperm

end MergedTally

end BenchLog
