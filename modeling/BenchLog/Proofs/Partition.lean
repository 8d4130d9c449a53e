import BenchLog.Partition
import Mathlib.Data.List.Basic

/-!
# What the parts of a list hold

Each part takes what fits from where the one before it stopped (`slices_eq`), so the parts in order are
the list (`flatten_slices`). One worker gets everything, and with a worker for each item no part holds
more than one.
-/

namespace BenchLog

variable {α : Type}

/-- The parts are as large as the chunk allows, from the first item on. -/
theorem slices_eq (items : List α) (workers : Nat) :
    slices items workers = (List.range (max workers 1)).map fun index =>
      (items.drop (index * chunkSize items.length (max workers 1))).take
        (chunkSize items.length (max workers 1)) := by
  simp only [slices, partBounds, List.size_toArray]
  generalize chunkSize items.length (max workers 1) = chunk
  apply List.map_congr_left
  intro index _
  rw [Array.toList_extract, List.extract_eq_take_drop]
  rcases Nat.le_total (index * chunk) items.length with h | h
  · rw [Nat.min_eq_left h]
    rcases Nat.le_total (index * chunk + chunk) items.length with h' | h'
    · rw [Nat.min_eq_left h', Nat.add_sub_cancel_left]
    · rw [Nat.min_eq_right h', List.take_of_length_le (by simp),
        List.take_of_length_le (by rw [List.length_drop]; omega)]
  · simp [Nat.min_eq_right h, List.drop_eq_nil_of_le h]

theorem flatten_map_take_drop (items : List α) (chunk count : Nat) :
    ((List.range count).map fun index => (items.drop (index * chunk)).take chunk).flatten =
      items.take (count * chunk) := by
  induction count with
  | zero => simp
  | succ count ih =>
      rw [List.range_succ, List.map_append, List.flatten_append, ih, Nat.succ_mul, List.take_add]
      simp

/-- The chunk is large enough for the workers to take everything. -/
theorem length_le_mul_chunkSize (length : Nat) {workers : Nat} (h : 0 < workers) :
    length ≤ workers * chunkSize length workers := by
  have hdiv := Nat.div_add_mod (length + (workers - 1)) workers
  have hmod := Nat.mod_lt (length + (workers - 1)) h
  unfold chunkSize
  omega

@[simp] theorem flatten_slices (items : List α) (workers : Nat) :
    (slices items workers).flatten = items := by
  rw [slices_eq, flatten_map_take_drop]
  exact List.take_of_length_le (length_le_mul_chunkSize _ (by omega))

theorem length_le_chunkSize {items part : List α} {workers : Nat}
    (h : part ∈ slices items workers) :
    part.length ≤ chunkSize items.length (max workers 1) := by
  rw [slices_eq] at h
  obtain ⟨index, -, rfl⟩ := List.mem_map.mp h
  exact List.length_take_le _ _

theorem slices_one (items : List α) : slices items 1 = [items] := by
  have hchunk : chunkSize items.length 1 = items.length := by simp [chunkSize]
  rw [slices_eq, Nat.max_self, hchunk]
  simp

/-- With a worker for each item, a part holds at most one. -/
theorem length_le_one_of_mem_slices {items part : List α}
    (h : part ∈ slices items items.length) : part.length ≤ 1 := by
  have hchunk : chunkSize items.length (max items.length 1) < 2 := by
    rw [chunkSize, Nat.div_lt_iff_lt_mul (by omega)]
    omega
  exact Nat.le_of_lt_succ (Nat.lt_of_le_of_lt (length_le_chunkSize h) hchunk)

end BenchLog
