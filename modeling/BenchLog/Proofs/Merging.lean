import BenchLog.Proofs.MergedTally

/-!
# Merging tallies of any kind

The tallies that are merged need not come from lines: their groupings may hold anything, and their sums need
not make each other up. Three sums are checked at every step, and the first one that passes 64 bits ends the
loop. Still the loop gets through if and only if the sums fit at the end (`foldlM_addExtras_eq_ok_iff`), so
that neither the order of the tallies nor joining some of them beforehand decides about success or about the
result.
-/

namespace BenchLog

/-! ## Sums -/

namespace Sides

/-- The sums, side by side. -/
def add (left right : Sides Nat) : Sides Nat where
  all := left.all + right.all
  committed := left.committed + right.committed
  aborted := left.aborted + right.aborted

/-- The sums over all members of a list, side by side. -/
def total (sides : List (Sides Nat)) : Sides Nat where
  all := (sides.map Sides.all).sum
  committed := (sides.map Sides.committed).sum
  aborted := (sides.map Sides.aborted).sum

/-- Each of the three numbers fits 64 bits. -/
structure Fits (sums : Sides Nat) : Prop where
  all : sums.all < 2 ^ 64
  committed : sums.committed < 2 ^ 64
  aborted : sums.aborted < 2 ^ 64

/-- A counter of extra retries whose number does not fit 64 bits. -/
inductive Exceeds (sums : Sides Nat) : Counter → Prop where
  | all (h : 2 ^ 64 ≤ sums.all) : Exceeds sums .extraAll
  | committed (h : 2 ^ 64 ≤ sums.committed) : Exceeds sums .extraCommitted
  | aborted (h : 2 ^ 64 ≤ sums.aborted) : Exceeds sums .extraAborted

variable {left right : Sides Nat} {counter : Counter}

theorem add_assoc (left middle right : Sides Nat) :
    (left.add middle).add right = left.add (middle.add right) := by
  simp [add, Nat.add_assoc]

@[simp] theorem add_zero (sums : Sides Nat) : sums.add ⟨0, 0, 0⟩ = sums := rfl

@[simp] theorem zero_add (sums : Sides Nat) : add ⟨0, 0, 0⟩ sums = sums := by
  simp [add]

@[simp] theorem total_nil : total [] = ⟨0, 0, 0⟩ := rfl

@[simp] theorem total_cons (part : Sides Nat) (sides : List (Sides Nat)) :
    total (part :: sides) = part.add (total sides) := rfl

@[simp] theorem total_append (front back : List (Sides Nat)) :
    total (front ++ back) = (total front).add (total back) := by
  simp [total, add]

theorem total_perm {sides other : List (Sides Nat)} (h : sides.Perm other) :
    total sides = total other := by
  simp only [total, (h.map Sides.all).sum_nat, (h.map Sides.committed).sum_nat,
    (h.map Sides.aborted).sum_nat]

theorem fits_zero : Fits ⟨0, 0, 0⟩ := ⟨by decide, by decide, by decide⟩

/-- What is a part of sums that fit, fits. -/
theorem Fits.of_add (h : (left.add right).Fits) : left.Fits where
  all := Nat.lt_of_le_of_lt (Nat.le_add_right _ _) h.all
  committed := Nat.lt_of_le_of_lt (Nat.le_add_right _ _) h.committed
  aborted := Nat.lt_of_le_of_lt (Nat.le_add_right _ _) h.aborted

/-- What exceeds 64 bits in a part, exceeds them in the sum. -/
theorem Exceeds.add (h : left.Exceeds counter) : (left.add right).Exceeds counter := by
  cases h with
  | all h => exact .all (Nat.le_add_right_of_le h)
  | committed h => exact .committed (Nat.le_add_right_of_le h)
  | aborted h => exact .aborted (Nat.le_add_right_of_le h)

end Sides

theorem Decimal.le_wordLimit_iff {n : Nat} : n ≤ Decimal.wordLimit ↔ n < 2 ^ 64 :=
  Nat.le_sub_one_iff_lt (Nat.two_pow_pos 64)

namespace Counter

variable {counter : Counter} {origin : Origin} {total amount sum : Nat}

theorem add_eq_ok_iff :
    counter.add origin total amount = .ok sum ↔ total + amount < 2 ^ 64 ∧ total + amount = sum := by
  simp only [add, Decimal.le_wordLimit_iff]
  split <;> simp_all

theorem add_eq_error_iff {failure : Failure} :
    counter.add origin total amount = .error failure ↔
      2 ^ 64 ≤ total + amount ∧ .overflow counter origin = failure := by
  simp only [add, Decimal.le_wordLimit_iff]
  split
  · rename_i fits
    constructor
    · intro h
      cases h
    · intro h
      exact absurd fits (Nat.not_lt.mpr h.1)
  · rename_i exceeds
    rw [Except.error.injEq, and_iff_right (Nat.not_lt.mp exceeds)]

end Counter

namespace MergedTally

/-! ## The loop over the sums -/

theorem addExtras_eq_ok_iff {total part sums : Sides Nat} :
    addExtras total part = .ok sums ↔ (total.add part).Fits ∧ total.add part = sums := by
  simp only [addExtras, Loop.bind_eq_ok_iff, Counter.add_eq_ok_iff]
  constructor
  · rintro ⟨_, ⟨hall, rfl⟩, _, ⟨hcommitted, rfl⟩, _, ⟨haborted, rfl⟩, h⟩
    cases h
    exact ⟨⟨hall, hcommitted, haborted⟩, rfl⟩
  · rintro ⟨fits, rfl⟩
    exact ⟨_, ⟨fits.all, rfl⟩, _, ⟨fits.committed, rfl⟩, _, ⟨fits.aborted, rfl⟩, rfl⟩

/-- A step that fails names a sum that it cannot hold. -/
theorem exceeds_of_addExtras {total part : Sides Nat} {failure : Failure}
    (h : addExtras total part = .error failure) :
    ∃ counter, failure = .overflow counter .merge ∧ (total.add part).Exceeds counter := by
  simp only [addExtras, Loop.bind_eq_error_iff, Counter.add_eq_error_iff] at h
  rcases h with ⟨hall, rfl⟩ | ⟨_, -, ⟨hcommitted, rfl⟩ | ⟨_, -, ⟨haborted, rfl⟩ | ⟨_, -, h⟩⟩⟩
  · exact ⟨_, rfl, .all hall⟩
  · exact ⟨_, rfl, .committed hcommitted⟩
  · exact ⟨_, rfl, .aborted haborted⟩
  · cases h

/-- The loop gets through if and only if the sums fit at the end: they only grow on the way. -/
theorem foldlM_addExtras_eq_ok_iff {sides : List (Sides Nat)} {start sums : Sides Nat}
    (hstart : start.Fits) : sides.foldlM addExtras start = .ok sums ↔
      (start.add (.total sides)).Fits ∧ start.add (.total sides) = sums := by
  induction sides generalizing start with
  | nil =>
      simp only [List.foldlM_nil, Loop.pure_eq_ok, Except.ok.injEq, Sides.total_nil, Sides.add_zero]
      exact (and_iff_right hstart).symm
  | cons part sides ih =>
      rw [List.foldlM_cons, Loop.bind_eq_ok_iff, Sides.total_cons, ← Sides.add_assoc]
      constructor
      · rintro ⟨next, hstep, hrest⟩
        obtain ⟨fits, rfl⟩ := addExtras_eq_ok_iff.mp hstep
        exact (ih fits).mp hrest
      · rintro ⟨fits, hsums⟩
        have hnext := fits.of_add
        exact ⟨_, addExtras_eq_ok_iff.mpr ⟨hnext, rfl⟩, (ih hnext).mpr ⟨fits, hsums⟩⟩

/-- If the loop stops, the sum that it names does not fit at the end either. -/
theorem exceeds_of_foldlM_addExtras {sides : List (Sides Nat)} {start : Sides Nat}
    {failure : Failure} (h : sides.foldlM addExtras start = .error failure) :
    ∃ counter, failure = .overflow counter .merge ∧
      (start.add (.total sides)).Exceeds counter := by
  induction sides generalizing start with
  | nil => cases h
  | cons part sides ih =>
      rw [List.foldlM_cons, Loop.bind_eq_error_iff] at h
      rw [Sides.total_cons, ← Sides.add_assoc]
      rcases h with hstep | ⟨next, hstep, hrest⟩
      · obtain ⟨counter, hfailure, exceeds⟩ := exceeds_of_addExtras hstep
        exact ⟨counter, hfailure, exceeds.add⟩
      · obtain ⟨-, rfl⟩ := addExtras_eq_ok_iff.mp hstep
        exact ih hrest

/-! ## Tallies -/

/-- The sums of some tallies, whether they fit or not. -/
def sums (parts : List Tally) : Sides Nat := .total (parts.map Tally.extras)

/-- The merged tally of some tallies, whatever the size of the sums. -/
def ofTallies (parts : List Tally) : MergedTally where
  groups := Groups.ofFn fun grouping => .ofList (gather parts grouping)
  extras := sums parts

theorem merge_eq_ok_iff {parts : List Tally} {merged : MergedTally} :
    merge parts = .ok merged ↔ (sums parts).Fits ∧ ofTallies parts = merged := by
  rw [merge, Loop.bind_eq_ok_iff]
  simp only [foldlM_addExtras_eq_ok_iff Sides.fits_zero, Sides.zero_add]
  constructor
  · rintro ⟨_, ⟨fits, rfl⟩, h⟩
    cases h
    exact ⟨fits, rfl⟩
  · rintro ⟨fits, rfl⟩
    exact ⟨_, ⟨fits, rfl⟩, rfl⟩

theorem exceeds_of_merge {parts : List Tally} {failure : Failure}
    (h : merge parts = .error failure) :
    ∃ counter, failure = .overflow counter .merge ∧ (sums parts).Exceeds counter := by
  rw [merge, Loop.bind_eq_error_iff] at h
  rcases h with hloop | ⟨_, -, h⟩
  · have hexceeds := exceeds_of_foldlM_addExtras hloop
    rwa [Sides.zero_add] at hexceeds
  · cases h

/-- The order of the tallies does not matter. -/
theorem ofTallies_perm {parts parts' : List Tally} (h : parts.Perm parts') :
    ofTallies parts = ofTallies parts' := by
  have hgather (grouping : Grouping) : (gather parts grouping).Perm (gather parts' grouping) :=
    h.flatMap_right _
  have hsums : sums parts = sums parts' := Sides.total_perm (h.map Tally.extras)
  simp only [ofTallies, hsums, fun grouping => SortedLatencies.ofList_eq_of_perm (hgather grouping)]

/-- Several tallies joined to one: the latencies of each grouping one after the other, and the exact
    sums. -/
def join (parts : List Tally) : Tally where
  groups := Groups.ofFn fun grouping => (gather parts grouping).toArray
  extras := sums parts

/-- Joining some tallies beforehand does not matter. -/
theorem ofTallies_join (before run after : List Tally) :
    ofTallies (before ++ run ++ after) = ofTallies (before ++ join run :: after) := by
  have hgather (grouping : Grouping) :
      gather (before ++ run ++ after) grouping = gather (before ++ join run :: after) grouping := by
    simp [gather, join]
  have hsums : sums (before ++ run ++ after) = sums (before ++ join run :: after) := by
    simp [sums, join]
  simp only [ofTallies, hgather, hsums]

theorem merge_eq_ok_congr {parts parts' : List Tally} (h : ofTallies parts = ofTallies parts')
    (merged : MergedTally) : merge parts = .ok merged ↔ merge parts' = .ok merged := by
  have hsums : sums parts = sums parts' := congrArg MergedTally.extras h
  rw [merge_eq_ok_iff, merge_eq_ok_iff, h, hsums]

/-- Tallies of any kind merge if and only if each of the three sums fits 64 bits. They then give each
    grouping in ascending order and the exact sums, and otherwise a sum that does not fit is named. Neither
    the order of the tallies nor joining adjacent ones beforehand decides about it. -/
theorem merge_regrouped (parts : List Tally) :
    ((∃ merged, merge parts = .ok merged) ↔ (Sides.total (parts.map Tally.extras)).Fits) ∧
    (∀ merged, merge parts = .ok merged →
      (∀ grouping, (merged.groups.get grouping).toList =
        (parts.flatMap fun part => (part.groups.get grouping).toList).mergeSort (· ≤ ·)) ∧
      merged.extras = .total (parts.map Tally.extras)) ∧
    (∀ failure, merge parts = .error failure → ∃ counter, failure = .overflow counter .merge ∧
      (Sides.total (parts.map Tally.extras)).Exceeds counter) ∧
    (∀ parts' merged, parts.Perm parts' → (merge parts = .ok merged ↔ merge parts' = .ok merged)) ∧
    ∀ before run after merged, parts = before ++ run ++ after →
      (merge parts = .ok merged ↔ merge (before ++ join run :: after) = .ok merged) := by
  refine ⟨?_, ?_, fun _ => exceeds_of_merge, ?_, ?_⟩
  · simp only [merge_eq_ok_iff, exists_and_left, exists_eq', and_true]
    rfl
  · intro merged h
    obtain ⟨-, rfl⟩ := merge_eq_ok_iff.mp h
    refine ⟨fun grouping => ?_, rfl⟩
    rw [ofTallies, Groups.get_ofFn, SortedLatencies.toList_ofList]
    rfl
  · intro parts' merged h
    exact merge_eq_ok_congr (ofTallies_perm h) merged
  · intro before run after merged h
    subst h
    exact merge_eq_ok_congr (ofTallies_join before run after) merged

/-- Tallies that no lines have: there are committed transactions and none among all. -/
def lopsided : List Tally :=
  [⟨⟨#[], #[9, 4], #[], #[], #[], #[], #[]⟩, ⟨0, 2 ^ 64 - 2, 3⟩⟩,
    ⟨⟨#[6], #[5], #[], #[], #[], #[7], #[]⟩, ⟨1, 1, 0⟩⟩, ⟨⟨#[2], #[], #[8], #[], #[], #[], #[]⟩, ⟨5, 0, 4⟩⟩]

/-- The tallies merge in another order and with the last two of them joined. With one more committed retry
    they do not. -/
theorem merge_regrouped_lopsided :
    ∃ merged, merge lopsided = .ok merged ∧ merged.groups.committed.toList = [4, 5, 9] ∧
      merged.extras = ⟨6, 2 ^ 64 - 1, 7⟩ ∧
      lopsided.Perm lopsided.reverse ∧ merge lopsided.reverse = .ok merged ∧
      merge [lopsided.head (by decide), join lopsided.tail] = .ok merged ∧
      ¬∃ merged, merge (⟨⟨#[], #[], #[], #[], #[], #[], #[]⟩, ⟨0, 1, 0⟩⟩ :: lopsided) = .ok merged := by
  obtain ⟨hexists, hholds, -, hperm, hjoin⟩ := merge_regrouped lopsided
  obtain ⟨hmore, -⟩ :=
    merge_regrouped (⟨⟨#[], #[], #[], #[], #[], #[], #[]⟩, ⟨0, 1, 0⟩⟩ :: lopsided)
  obtain ⟨merged, hmerged⟩ := hexists.mpr ⟨by decide, by decide, by decide⟩
  obtain ⟨hgroups, hextras⟩ := hholds merged hmerged
  have hreverse := (List.reverse_perm lopsided).symm
  refine ⟨merged, hmerged, ?_, hextras, hreverse, (hperm _ merged hreverse).mp hmerged, ?_, ?_⟩
  · have hsorted : [9, 4, 5].mergeSort (· ≤ ·) = [4, 5, 9] := by
      rw [← SortedLatencies.toList_ofList]
      decide +kernel
    exact (hgroups .committed).trans hsorted
  · exact (hjoin [_] _ [] merged rfl).mp hmerged
  · intro h
    exact absurd (hmore.mp h).committed (by decide)

end MergedTally

end BenchLog
