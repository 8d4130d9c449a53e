import BenchLog.Analysis
import BenchLog.Proofs.Partition
import Mathlib.Algebra.Order.Floor.Div

/-!
# Where a list is cut

Parts are filled one after the other: each takes as much as the chunk allows until the items run out, so that
at most one is filled in part and all behind it are empty (`filled_sizes`). The places of a part lie inside
the list and in order, and no product and no sum that they are reckoned from passes 64 bits, however many
workers there are (`mul_chunkSize_lt`, `start_add_chunkSize_lt`). Only the vector that holds the parts sets a
bound to the number of workers (`partition_of_lt`, `partition_of_le`).
-/

namespace BenchLog

variable {α : Type}

/-- The sizes of parts that are filled one after the other: full ones, at most one that is filled in part,
    and empty ones. -/
def Filled (chunk : Nat) (sizes : List Nat) : Prop :=
  ∃ full partly empty, sizes = List.replicate full chunk ++ partly ++ List.replicate empty 0 ∧
    partly.length ≤ 1 ∧ ∀ size ∈ partly, 0 < size ∧ size < chunk

/-! ## Sizes -/

theorem Filled.cons {chunk : Nat} {sizes : List Nat} (h : Filled chunk sizes) :
    Filled chunk (chunk :: sizes) := by
  obtain ⟨full, partly, empty, rfl, hone, hpartly⟩ := h
  exact ⟨full + 1, partly, empty, by simp [List.replicate_succ], hone, hpartly⟩

/-- What is less than a chunk fills one part at most. -/
theorem filled_of_lt {chunk rest : Nat} (h : rest < chunk) (empty : Nat) :
    Filled chunk (rest :: List.replicate empty 0) := by
  by_cases hrest : rest = 0
  · subst hrest
    exact ⟨0, [], empty + 1, by simp [List.replicate_succ], by simp, by simp⟩
  · have hpos : 0 < rest := Nat.pos_of_ne_zero hrest
    exact ⟨0, [rest], empty, by simp, by simp, by simpa using ⟨hpos, h⟩⟩

/-- However many parts there are, they are filled one after the other. -/
theorem filled_sizes (chunk count length : Nat) :
    Filled chunk ((List.range count).map fun index => min chunk (length - index * chunk)) := by
  induction count generalizing length with
  | zero => exact ⟨0, [], 0, by simp, by simp, by simp⟩
  | succ count ih =>
      have hlater (index : Nat) : length - (index + 1) * chunk = length - chunk - index * chunk := by
        rw [Nat.succ_mul, Nat.add_comm, Nat.sub_add_eq]
      rw [List.range_succ_eq_map, List.map_cons, List.map_map]
      simp only [Function.comp_def, Nat.succ_eq_add_one, Nat.zero_mul, Nat.sub_zero, hlater]
      rcases Nat.lt_or_ge length chunk with hlast | hfull
      · -- The items run out in the first part, and nothing is left for the others.
        have hnone : length - chunk = 0 := Nat.sub_eq_zero_of_le hlast.le
        simp only [hnone, Nat.zero_sub, Nat.min_zero, List.map_const', List.length_range,
          Nat.min_eq_right hlast.le]
        exact filled_of_lt hlast count
      · rw [Nat.min_eq_left hfull]
        exact (ih (length - chunk)).cons

theorem map_length_slices (items : List α) (workers : Nat) :
    (slices items workers).map List.length = (List.range (max workers 1)).map fun index =>
      min (chunkSize items.length (max workers 1))
        (items.length - index * chunkSize items.length (max workers 1)) := by
  rw [slices_eq, List.map_map]
  apply List.map_congr_left
  intro index _
  simp

example : (slices [2, 4, 6, 8, 10] 4).map List.length = [2, 2, 1, 0] := by decide

/-! ## Places -/

theorem chunkSize_eq_ceilDiv (length : Nat) {workers : Nat} (h : 0 < workers) :
    chunkSize length workers = length ⌈/⌉ workers := by
  rw [Nat.ceilDiv_eq_add_pred_div, chunkSize, Nat.add_sub_assoc h]

theorem partBounds_le (length chunk index : Nat) :
    (partBounds length chunk index).1 ≤ (partBounds length chunk index).2 ∧
      (partBounds length chunk index).2 ≤ length := by
  simp only [partBounds]
  omega

theorem getElem?_slices (items : List α) {workers index : Nat} (h : index < max workers 1)
    {start stop : Nat}
    (hbounds : partBounds items.length (chunkSize items.length (max workers 1)) index =
      (start, stop)) :
    (slices items workers)[index]? = some ((items.drop start).take (stop - start)) := by
  simp only [slices, List.size_toArray, List.getElem?_map, List.getElem?_range h, Option.map_some,
    hbounds, Array.toList_extract, List.extract_eq_take_drop]

/-- No chunk is larger than the list. -/
theorem chunkSize_le (length : Nat) {workers : Nat} (h : 0 < workers) :
    chunkSize length workers ≤ length := by
  rw [chunkSize_eq_ceilDiv length h, ceilDiv_le_iff_le_mul h]
  exact Nat.le_mul_of_pos_left length h

theorem mul_chunkSize_lt {length workers index : Nat} (hlength : length < 2 ^ 63)
    (hworkers : workers < 2 ^ 64) (hindex : index < workers) :
    index * chunkSize length workers < 2 ^ 64 := by
  have hpos : 0 < workers := Nat.zero_lt_of_lt hindex
  rcases Nat.lt_or_ge workers length with hfew | hmany
  · -- All chunks together are less than one item for each worker longer than the list.
    have hall : chunkSize length workers * workers ≤ length + (workers - 1) :=
      Nat.div_mul_le_self _ _
    have hle : index * chunkSize length workers ≤ workers * chunkSize length workers :=
      Nat.mul_le_mul_right _ hindex.le
    rw [Nat.mul_comm workers] at hle
    omega
  · have hone : chunkSize length workers ≤ 1 := by
      rw [chunkSize_eq_ceilDiv length hpos, ceilDiv_le_iff_le_mul hpos, Nat.mul_one]
      exact hmany
    have hle : index * chunkSize length workers ≤ index * 1 := Nat.mul_le_mul_left _ hone
    omega

theorem start_add_chunkSize_lt {length workers : Nat} (hlength : length < 2 ^ 63) (h : 0 < workers)
    (index : Nat) :
    (partBounds length (chunkSize length workers) index).1 + chunkSize length workers < 2 ^ 64 := by
  have hchunk := chunkSize_le length h
  obtain ⟨hstart, hstop⟩ := partBounds_le length (chunkSize length workers) index
  omega

/-! ## The vector of parts -/

theorem sliceLimit_eq : sliceLimit = 2 ^ 59 - 1 := by decide

theorem partition_of_lt (items : List α) {workers : Nat} (h : workers < 2 ^ 59) :
    partition items workers = some (slices items workers) := by
  rw [partition, if_neg]
  rw [sliceLimit_eq]
  omega

theorem partition_of_le (items : List α) {workers : Nat} (h : 2 ^ 59 ≤ workers) :
    partition items workers = none := by
  rw [partition, if_pos]
  rw [sliceLimit_eq]
  omega

/-- An analysis asks for no more parts than there are lines, so one vector holds them whatever number of
    workers the settings name. -/
theorem partition_parts {lines : List LogLine} (h : lines.length < 2 ^ 59) (workers : Nat) :
    partition lines (min (max workers 1) lines.length) = some (Analysis.parts lines workers) :=
  partition_of_lt lines (Nat.lt_of_le_of_lt (Nat.min_le_right _ _) h)

/-- Each part of a list of less than `2 ^ 63` items lies between two places of the list, and to reckon these
    no number that passes 64 bits is needed, however many workers there are. One vector holds the parts of
    less than `2 ^ 59` workers: as many as there are workers, and one if there is none. In order they are the
    list, and they are filled one after the other. For more workers there is no such vector. -/
theorem partition_filled (items : List α) (workers : Nat) (hitems : items.length < 2 ^ 63)
    (hworkers : workers < 2 ^ 64) :
    (∀ index < max workers 1, ∃ start stop,
      partBounds items.length (items.length ⌈/⌉ max workers 1) index = (start, stop) ∧
      start ≤ stop ∧ stop ≤ items.length ∧
      index * (items.length ⌈/⌉ max workers 1) < 2 ^ 64 ∧
      start + (items.length ⌈/⌉ max workers 1) < 2 ^ 64) ∧
    (workers < 2 ^ 59 → ∃ parts, partition items workers = some parts ∧
      parts.length = max workers 1 ∧ parts.flatten = items ∧
      Filled (items.length ⌈/⌉ max workers 1) (parts.map List.length) ∧
      ∀ index < max workers 1, ∃ start stop,
        partBounds items.length (items.length ⌈/⌉ max workers 1) index = (start, stop) ∧
        parts[index]? = some ((items.drop start).take (stop - start))) ∧
    (2 ^ 59 ≤ workers → partition items workers = none) := by
  have hpos : 0 < max workers 1 := by omega
  have hword : max workers 1 < 2 ^ 64 := by omega
  rw [← chunkSize_eq_ceilDiv items.length hpos]
  refine ⟨?_, ?_, partition_of_le items⟩
  · intro index hindex
    obtain ⟨hstart, hstop⟩ :=
      partBounds_le items.length (chunkSize items.length (max workers 1)) index
    exact ⟨_, _, rfl, hstart, hstop, mul_chunkSize_lt hitems hword hindex,
      start_add_chunkSize_lt hitems hpos index⟩
  · intro hfew
    refine ⟨_, partition_of_lt items hfew, length_slices items workers, flatten_slices items workers, ?_, ?_⟩
    · rw [map_length_slices]
      exact filled_sizes _ _ _
    · intro index hindex
      exact ⟨_, _, rfl, getElem?_slices items hindex rfl⟩

/-- Three items for the greatest number of workers whose parts one vector holds: the first three parts take one
    each, and the last one is empty. For the greatest number of all, the last product is the greatest one that
    has to fit. -/
theorem partition_filled_mostWorkers :
    [7, 3, 5].length < 2 ^ 63 ∧ 2 ^ 59 - 1 < 2 ^ 64 ∧ 2 ^ 64 - 1 < 2 ^ 64 ∧
    (∃ parts, partition [7, 3, 5] (2 ^ 59 - 1) = some parts ∧ parts.length = 2 ^ 59 - 1 ∧
      parts.flatten = [7, 3, 5] ∧ Filled 1 (parts.map List.length) ∧
      parts[2]? = some [5] ∧ parts[2 ^ 59 - 2]? = some []) ∧
    (2 ^ 64 - 2) * 1 < 2 ^ 64 ∧ partition [7, 3, 5] (2 ^ 64 - 1) = none := by
  have hitems : [7, 3, 5].length < 2 ^ 63 := by decide
  have hheld : 2 ^ 59 - 1 < 2 ^ 64 := by decide
  have hmost : 2 ^ 64 - 1 < 2 ^ 64 := by decide
  obtain ⟨-, held, -⟩ := partition_filled [7, 3, 5] (2 ^ 59 - 1) hitems hheld
  obtain ⟨parts, hparts, hlength, hflatten, hfilled, hplaces⟩ := held (by decide)
  obtain ⟨start, stop, hthird, hpart⟩ := hplaces 2 (by decide)
  obtain ⟨first, last, hbounds, hlast⟩ := hplaces (2 ^ 59 - 2) (by decide)
  cases hthird
  cases hbounds
  obtain ⟨bounded, -, refused⟩ := partition_filled [7, 3, 5] (2 ^ 64 - 1) hitems hmost
  obtain ⟨_, _, _, -, -, hproduct, -⟩ := bounded (2 ^ 64 - 2) (by decide)
  exact ⟨hitems, hheld, hmost, ⟨parts, hparts, hlength, hflatten, hfilled, hpart, hlast⟩, hproduct,
    refused (by decide)⟩

/-- Three items are not cut for every number of workers of 64 bits. -/
theorem partition_not_total :
    [7, 3, 5].length < 2 ^ 63 ∧ 2 ^ 59 < 2 ^ 64 ∧
    ¬∃ parts, partition [7, 3, 5] (2 ^ 59) = some parts ∧ parts.length = max (2 ^ 59) 1 := by
  refine ⟨by decide, by decide, ?_⟩
  intro ⟨parts, hparts, _⟩
  rw [partition_of_le [7, 3, 5] (Nat.le_refl _)] at hparts
  cases hparts

end BenchLog
