/-!
# Partitions

A list is cut into contiguous parts of equal size, one for each worker. The last parts take what is
left and may be empty, so the parts in order are the list whatever the number of workers.
-/

namespace BenchLog

/-- The size of a part: the least one for which the parts hold everything. -/
def chunkSize (length workers : Nat) : Nat :=
  (length + (workers - 1)) / workers

/-- Where the part with the given index begins and ends. -/
def partBounds (length chunk index : Nat) : Nat × Nat :=
  let start := min (index * chunk) length
  (start, min (start + chunk) length)

/-- The parts of a list, as many as there are workers and at least one. -/
def slices {α : Type} (items : List α) (workers : Nat) : List (List α) :=
  let workers := max workers 1
  let array := items.toArray
  let chunk := chunkSize array.size workers
  (List.range workers).map fun index =>
    let (start, stop) := partBounds array.size chunk index
    (array.extract start stop).toList

@[simp] theorem length_slices {α : Type} (items : List α) (workers : Nat) :
    (slices items workers).length = max workers 1 := by
  simp [slices]

/-- How many parts one vector can hold. A part is kept as its place and its size, in 16 bytes, and no
    vector takes more bytes than a signed number of 64 bits can count. -/
def sliceLimit : Nat := Int64.maxValue.toNatClampNeg / 16

/-- The parts in one vector. The room for all of them is reserved first, and where there cannot be as much
    the program breaks off. -/
def partition {α : Type} (items : List α) (workers : Nat) : Option (List (List α)) :=
  if sliceLimit < max workers 1 then none else some (slices items workers)

end BenchLog
