import BenchLog.Proofs.Decomposition
import Mathlib.Algebra.Order.Field.Basic
import Mathlib.Algebra.Order.Ring.Rat
import Mathlib.Tactic.NormNum

/-!
# Order statistics

A latency of a given rank is told by counting: it is at most a bound if and only if more latencies than
the rank asks for are, and it reaches a bound if and only if no more than that lie below it
(`SortedLatencies.nearestRank_le_iff`, `SortedLatencies.le_nearestRank_iff`). Counting does not see the
order of the latencies, so what these two say of an ascending list they say of the latencies as they were
given, and every other fact on ranks follows from them.
-/

namespace BenchLog

namespace SortedLatencies

variable {latencies : SortedLatencies} {num den : Nat}

/-! ## Counting -/

/-- A condition that goes down with the latency is met by the leading ones of an ascending list, so how
    many meet it tells which ones do. -/
theorem apply_getElem_iff {ascending : List Nat} (sorted : ascending.Pairwise (· ≤ ·))
    {p : Nat → Bool} (down : ∀ low high, low ≤ high → p high = true → p low = true) {place : Nat}
    (h : place < ascending.length) : p ascending[place] = true ↔ place < ascending.countP p := by
  induction ascending generalizing place with
  | nil => cases h
  | cons first rest ih =>
      obtain ⟨hfirst, hrest⟩ := List.pairwise_cons.mp sorted
      cases hp : p first with
      | true =>
          cases place with
          | zero => simp [hp]
          | succ place => simp [hp, ih hrest]
      | false =>
          have hnone : ∀ other ∈ first :: rest, ¬p other = true := by
            intro other member hother
            have hle : first ≤ other := by
              rcases List.mem_cons.mp member with rfl | member
              · exact Nat.le_refl _
              · exact hfirst other member
            rw [down first other hle hother] at hp
            cases hp
          simp only [List.countP_eq_zero.mpr hnone, Nat.not_lt_zero, iff_false]
          exact hnone _ (List.getElem_mem h)

/-- A fraction of a number lies below it. -/
theorem place_lt {size : Nat} (positive : 0 < size) (h : num < den) : size * num / den < size := by
  apply Nat.div_lt_of_lt_mul
  rw [Nat.mul_comm den]
  exact Nat.mul_lt_mul_of_pos_left h positive

/-- The latency of a rank stands at the place that the rank asks for. -/
theorem nearestRank_eq_getElem (nonempty : latencies.toList ≠ []) (h : num < den) :
    ∃ hplace : latencies.size * num / den < latencies.toList.length,
      latencies.nearestRank num den = latencies.toList[latencies.size * num / den] := by
  have hplace : latencies.size * num / den < latencies.toList.length :=
    place_lt (List.length_pos_of_ne_nil nonempty) h
  refine ⟨hplace, ?_⟩
  rw [nearestRank, List.getElem?_eq_getElem hplace, Option.getD_some]

theorem nearestRank_mem (nonempty : latencies.toList ≠ []) (h : num < den) :
    latencies.nearestRank num den ∈ latencies.toList := by
  obtain ⟨hplace, heq⟩ := nearestRank_eq_getElem nonempty h
  rw [heq]
  exact List.getElem_mem hplace

theorem nearestRank_le_iff (nonempty : latencies.toList ≠ []) (h : num < den) {bound : Nat} :
    latencies.nearestRank num den ≤ bound ↔
      latencies.size * num / den < latencies.toList.countP (· ≤ bound) := by
  obtain ⟨hplace, heq⟩ := nearestRank_eq_getElem nonempty h
  have hcount := apply_getElem_iff latencies.sorted (p := (· ≤ bound))
    (fun low high hle => by simpa using hle.trans) hplace
  rw [← hcount, heq, decide_eq_true_eq]

theorem le_nearestRank_iff (nonempty : latencies.toList ≠ []) (h : num < den) {bound : Nat} :
    bound ≤ latencies.nearestRank num den ↔
      latencies.toList.countP (· < bound) ≤ latencies.size * num / den := by
  obtain ⟨hplace, heq⟩ := nearestRank_eq_getElem nonempty h
  have hcount := apply_getElem_iff latencies.sorted (p := (· < bound))
    (fun low high hle => by simpa using hle.trans_lt) hplace
  rw [← Nat.not_lt, ← Nat.not_lt, ← hcount, heq, decide_eq_true_eq]

theorem nearestRank_of_nil (h : latencies.toList = []) (num den : Nat) :
    latencies.nearestRank num den = 0 := by
  simp [nearestRank, h]

/-! ## Ranks in order -/

theorem place_mono {num' den' : Nat} (size : Nat) (positive : 0 < den) (positive' : 0 < den')
    (h : num * den' ≤ num' * den) : size * num / den ≤ size * num' / den' := by
  rw [Nat.le_div_iff_mul_le positive']
  apply Nat.le_of_mul_le_mul_right _ positive
  calc size * num / den * den' * den
      = size * num / den * den * den' := Nat.mul_right_comm _ _ _
    _ ≤ size * num * den' := Nat.mul_le_mul_right _ (Nat.div_mul_le_self _ _)
    _ = size * (num * den') := Nat.mul_assoc _ _ _
    _ ≤ size * (num' * den) := Nat.mul_le_mul_left _ h
    _ = size * num' * den := (Nat.mul_assoc _ _ _).symm

/-- A greater rank has no smaller latency. -/
theorem nearestRank_mono {num' den' : Nat} (latencies : SortedLatencies) (h : num < den)
    (h' : num' < den') (hle : num * den' ≤ num' * den) :
    latencies.nearestRank num den ≤ latencies.nearestRank num' den' := by
  by_cases nonempty : latencies.toList = []
  · rw [nearestRank_of_nil nonempty, nearestRank_of_nil nonempty]
  · have hplace := place_mono latencies.size (Nat.zero_lt_of_lt h) (Nat.zero_lt_of_lt h') hle
    apply (nearestRank_le_iff nonempty h).mpr
    exact hplace.trans_lt ((nearestRank_le_iff nonempty h').mp (Nat.le_refl _))

/-- `value` has the given place among some latencies once they are in order, the least one having place
    zero: it is one of them, at most so many of them are smaller, and more than so many are no greater. -/
structure HasPlace (latencies : List Nat) (place value : Nat) : Prop where
  mem : value ∈ latencies
  below : latencies.countP (· < value) ≤ place
  upTo : place + 1 ≤ latencies.countP (· ≤ value)

theorem hasPlace_nearestRank (nonempty : latencies.toList ≠ []) (h : num < den) :
    HasPlace latencies.toList (latencies.size * num / den) (latencies.nearestRank num den) where
  mem := nearestRank_mem nonempty h
  below := (le_nearestRank_iff nonempty h).mp (Nat.le_refl _)
  upTo := (nearestRank_le_iff nonempty h).mp (Nat.le_refl _)

/-- Places are told by counting, so the order in which latencies are given does not matter. -/
theorem HasPlace.perm {given others : List Nat} {place value : Nat} (h : HasPlace given place value)
    (hperm : given.Perm others) : HasPlace others place value where
  mem := hperm.mem_iff.mp h.mem
  below := hperm.countP_eq (· < value) ▸ h.below
  upTo := hperm.countP_eq (· ≤ value) ▸ h.upTo

end SortedLatencies

namespace LatencySummary

/-- What a summary says that is the latency of a rank. -/
def orderStatistics : List (LatencySummary → Nat) := [median, p99, p999]

theorem exists_rank_of_mem {statistic : LatencySummary → Nat} (h : statistic ∈ orderStatistics) :
    ∃ num den, num < den ∧ ∀ latencies, statistic (ofSorted latencies) = latencies.nearestRank num den := by
  simp only [orderStatistics, List.mem_cons, List.not_mem_nil, or_false] at h
  rcases h with rfl | rfl | rfl
  · exact ⟨1, 2, by decide, fun _ => rfl⟩
  · exact ⟨99, 100, by decide, fun _ => rfl⟩
  · exact ⟨999, 1000, by decide, fun _ => rfl⟩

/-- The order statistics of a summary of some latencies ascend up to the greatest latency, and are zero if
    there are none. -/
structure Ascends (summary : LatencySummary) (latencies : List Nat) : Prop where
  median_le : summary.median ≤ summary.p99
  p99_le : summary.p99 ≤ summary.p999
  p999_le : summary.p999 ≤ latencies.max?.getD 0
  empty : latencies = [] → summary.median = 0 ∧ summary.p99 = 0 ∧ summary.p999 = 0

theorem ascends_ofSorted (latencies : SortedLatencies) :
    (ofSorted latencies).Ascends latencies.toList where
  median_le := latencies.nearestRank_mono (by decide) (by decide) (by decide)
  p99_le := latencies.nearestRank_mono (by decide) (by decide) (by decide)
  p999_le := by
    by_cases nonempty : latencies.toList = []
    · exact (SortedLatencies.nearestRank_of_nil nonempty 999 1000).trans_le (Nat.zero_le _)
    · exact List.le_max?_getD_of_mem (SortedLatencies.nearestRank_mem nonempty (by decide))
  empty := by
    intro hempty
    have hzero := SortedLatencies.nearestRank_of_nil hempty
    exact ⟨hzero 1 2, hzero 99 100, hzero 999 1000⟩

end LatencySummary

/-- The latencies of a summary are summaries of groupings of its tally. -/
theorem TransactionSummary.latency_of_ofTally_eq_ok {merged : MergedTally} {duration : Float}
    {summary : TransactionSummary} (h : ofTally merged duration = .ok summary) :
    summary.latency = ⟨.ofSorted merged.groups.all, .ofSorted merged.groups.committed,
      .ofSorted merged.groups.aborted⟩ := by
  unfold ofTally at h
  split at h
  · cases h
  · split at h
    · cases h
    · cases h
      rfl

namespace Analysis

theorem latency_of_ofLines_eq_ok {lines : List LogLine} {settings : Settings} {analysis : Analysis}
    (h : ofLines lines settings = .ok analysis) :
    analysis.summary.latency = ⟨.ofSorted analysis.tally.groups.all,
      .ofSorted analysis.tally.groups.committed, .ofSorted analysis.tally.groups.aborted⟩ :=
  TransactionSummary.latency_of_ofTally_eq_ok (of_ofLines_eq_ok h).2.1

/-- However many latencies are given and in whatever order, the latency of a rank is one of them, and has
    among them the place that the rank asks for; a greater rank has no smaller latency. So in every
    analysis the order statistics of each grouping ascend up to its greatest latency. -/
theorem nearestRank_hasPlace {latencies : List Nat} (nonempty : latencies ≠ []) {num den : Nat}
    (h : num < den) :
    SortedLatencies.HasPlace latencies (latencies.length * num / den)
      ((SortedLatencies.ofList latencies).nearestRank num den) ∧
    (∀ others, latencies.Perm others →
      (SortedLatencies.ofList latencies).nearestRank num den =
        (SortedLatencies.ofList others).nearestRank num den) ∧
    (∀ num' den' : Nat, num' < den' → (num : ℚ) / den ≤ num' / den' →
      (SortedLatencies.ofList latencies).nearestRank num den ≤
        (SortedLatencies.ofList latencies).nearestRank num' den') ∧
    ∀ lines settings analysis, ofLines lines settings = .ok analysis →
      (∀ grouping, (LatencySummary.ofSorted (analysis.tally.groups.get grouping)).Ascends
        (analysis.tally.groups.get grouping).toList) ∧
      analysis.summary.latency = ⟨.ofSorted analysis.tally.groups.all,
        .ofSorted analysis.tally.groups.committed, .ofSorted analysis.tally.groups.aborted⟩ := by
  have hperm := SortedLatencies.toList_ofList_perm latencies
  refine ⟨?_, ?_, ?_, ?_⟩
  · have hsorted : (SortedLatencies.ofList latencies).toList ≠ [] :=
      fun hnil => nonempty (hnil ▸ hperm).nil_eq.symm
    have hplace := (SortedLatencies.hasPlace_nearestRank hsorted h).perm hperm
    rwa [SortedLatencies.size, hperm.length_eq] at hplace
  · intro others hothers
    rw [SortedLatencies.ofList_eq_of_perm hothers]
  · intro num' den' h' hle
    have positive : (0 : ℚ) < den := Nat.cast_pos.mpr (Nat.zero_lt_of_lt h)
    have positive' : (0 : ℚ) < den' := Nat.cast_pos.mpr (Nat.zero_lt_of_lt h')
    rw [div_le_div_iff₀ positive positive'] at hle
    exact SortedLatencies.nearestRank_mono _ h h' (by exact_mod_cast hle)
  · intro lines settings analysis hlines
    exact ⟨fun grouping => LatencySummary.ascends_ofSorted _, latency_of_ofLines_eq_ok hlines⟩

/-- Two of four latencies are the same one, and the median is the upper one of the two in the middle. -/
theorem nearestRank_hasPlace_tie :
    ∃ median, (SortedLatencies.ofList [30, 10, 20, 10]).nearestRank 1 2 = median ∧
      SortedLatencies.HasPlace [30, 10, 20, 10] 2 median ∧
      (SortedLatencies.ofList [10, 10, 20, 30]).nearestRank 1 2 = median ∧
      median ≤ (SortedLatencies.ofList [30, 10, 20, 10]).nearestRank 3 4 ∧
      ∃ analysis, ofLines mixedLines { duration := 2, window := true, warmup := 0, workers := 3 } =
          .ok analysis ∧
        (LatencySummary.ofSorted analysis.tally.groups.aborted).Ascends
          analysis.tally.groups.aborted.toList := by
  obtain ⟨hplace, hsame, hmono, hascends⟩ :=
    nearestRank_hasPlace (by decide : [30, 10, 20, 10] ≠ []) (by decide : 1 < 2)
  have hok : ∃ analysis,
      ofLines mixedLines { duration := 2, window := true, warmup := 0, workers := 3 } =
        .ok analysis := by
    apply Loop.isOk_iff.mp
    decide +kernel
  obtain ⟨analysis, hlines⟩ := hok
  exact ⟨_, rfl, hplace, (hsame _ (by decide)).symm, hmono 3 4 (by decide) (by norm_num), analysis,
    hlines, (hascends _ _ _ hlines).1 .aborted⟩

end Analysis

end BenchLog
