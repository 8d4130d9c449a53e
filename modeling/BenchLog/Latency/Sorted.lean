/-!
# Sorted latencies

Order statistics are read off a list of latencies in ascending order. Lists are sorted by merging
ascending runs of doubling length. Merging and sorting keep every latency as often as it occurs
(`toList_merge_perm`, `toList_ofList_perm`), so that only the contents of a list matter and not its
order (`ofList_eq_of_perm`).
-/

namespace BenchLog

/-- Latencies in ascending order. -/
structure SortedLatencies where
  toList : List Nat
  sorted : toList.Pairwise (· ≤ ·)
  deriving DecidableEq

namespace SortedLatencies

/-- No latencies. -/
def empty : SortedLatencies := ⟨[], .nil⟩

instance : Inhabited SortedLatencies := ⟨empty⟩

/-- A single latency. -/
def singleton (latency : Nat) : SortedLatencies := ⟨[latency], List.pairwise_singleton _ _⟩

/-- The number of latencies. -/
def size (latencies : SortedLatencies) : Nat := latencies.toList.length

/-- Whether there are none. -/
def isEmpty (latencies : SortedLatencies) : Bool := latencies.toList.isEmpty

/-- The latency below which `num / den` of all latencies lie, by nearest rank, and zero if there are
    none. -/
def nearestRank (latencies : SortedLatencies) (num den : Nat) : Nat :=
  (latencies.toList[latencies.size * num / den]?).getD 0

@[simp] theorem nearestRank_empty (num den : Nat) : empty.nearestRank num den = 0 := by
  simp [nearestRank, empty]

/-- Two ascending lists with the same contents are equal. -/
theorem ext_perm {left right : SortedLatencies} (h : left.toList.Perm right.toList) :
    left = right := by
  obtain ⟨left, leftSorted⟩ := left
  obtain ⟨right, rightSorted⟩ := right
  simp only [mk.injEq]
  exact h.eq_of_pairwise (fun _ _ _ _ => Nat.le_antisymm) leftSorted rightSorted

/-! ## Merging -/

/-- Two ascending lists merged behind what is already `merged`, which is held in descending order. -/
def mergeBehind : List Nat → List Nat → List Nat → List Nat
  | merged, [], right => merged.reverseAux right
  | merged, latency :: left, right =>
      mergeBehind (latency :: (right.takeWhile (· < latency)).reverseAux merged) left
        (right.dropWhile (· < latency))

/-- Merging keeps every latency as often as it occurs. -/
theorem mergeBehind_perm (merged left right : List Nat) :
    (mergeBehind merged left right).Perm (merged ++ (left ++ right)) := by
  induction left generalizing merged right with
  | nil =>
      simp only [mergeBehind, List.reverseAux_eq, List.nil_append]
      exact (List.reverse_perm merged).append_right right
  | cons latency left ih =>
      refine (ih _ _).trans ?_
      conv => rhs; rw [← List.takeWhile_append_dropWhile (p := (decide <| · < latency)) (l := right)]
      generalize right.takeWhile (decide <| · < latency) = below
      generalize right.dropWhile (decide <| · < latency) = above
      simp only [List.reverseAux_eq, List.perm_iff_count, List.count_append, List.count_cons,
        List.count_reverse]
      intro other
      omega

/-- The leading latencies below a bound lie below it. -/
theorem lt_of_mem_takeWhile {latency low : Nat} {latencies : List Nat}
    (h : low ∈ latencies.takeWhile (· < latency)) : low < latency := by
  simpa using List.all_eq_true.1 (List.all_takeWhile (p := (decide <| · < latency))) low h

/-- What follows the leading latencies below a bound, in ascending order, reaches it. -/
theorem le_of_mem_dropWhile {latency high : Nat} {latencies : List Nat}
    (sorted : latencies.Pairwise (· ≤ ·)) (h : high ∈ latencies.dropWhile (· < latency)) :
    latency ≤ high := by
  have sortedRest := sorted.sublist (List.dropWhile_sublist (decide <| · < latency))
  have hfirst := List.head?_dropWhile_not (decide <| · < latency) latencies
  cases hrest : latencies.dropWhile (decide <| · < latency) with
  | nil => simp [hrest] at h
  | cons first rest =>
      simp only [hrest, List.head?_cons, decide_eq_false_iff_not] at hfirst
      rw [hrest] at h sortedRest
      rcases List.mem_cons.1 h with rfl | hmem
      · omega
      · have := (List.pairwise_cons.1 sortedRest).1 high hmem
        omega

/-- Merging ascending lists behind smaller latencies gives an ascending list. -/
theorem mergeBehind_sorted {merged left right : List Nat}
    (hm : merged.Pairwise (· ≥ ·)) (hl : left.Pairwise (· ≤ ·)) (hr : right.Pairwise (· ≤ ·))
    (below : ∀ low ∈ merged, ∀ high ∈ left ++ right, low ≤ high) :
    (mergeBehind merged left right).Pairwise (· ≤ ·) := by
  induction left generalizing merged right with
  | nil =>
      simp only [mergeBehind, List.reverseAux_eq, List.pairwise_append, List.pairwise_reverse,
        List.mem_reverse]
      exact ⟨hm, hr, fun low hlow high hhigh => below low hlow high (by simpa using hhigh)⟩
  | cons latency left ih =>
      obtain ⟨hlatency, hleft⟩ := List.pairwise_cons.1 hl
      have mem_right {high : Nat} (h : high ∈ right.takeWhile (· < latency)) : high ∈ right :=
        (List.takeWhile_sublist _).subset h
      have below_latency : ∀ low ∈ merged, low ≤ latency := fun low h => below low h _ (by simp)
      apply ih
      · simp only [List.reverseAux_eq, List.pairwise_cons, List.pairwise_append,
          List.pairwise_reverse, List.mem_append, List.mem_reverse]
        refine ⟨?_, hr.sublist (List.takeWhile_sublist _), hm, ?_⟩
        · rintro low (h | h)
          · exact Nat.le_of_lt (lt_of_mem_takeWhile h)
          · exact below_latency low h
        · intro high hhigh low hlow
          exact below low hlow high (by simp [mem_right hhigh])
      · exact hleft
      · exact hr.sublist (List.dropWhile_sublist _)
      · intro low hlow high hhigh
        have latency_le : latency ≤ high := by
          rcases List.mem_append.1 hhigh with h | h
          · exact hlatency high h
          · exact le_of_mem_dropWhile hr h
        simp only [List.reverseAux_eq, List.mem_cons, List.mem_append, List.mem_reverse] at hlow
        rcases hlow with rfl | h | h
        · exact latency_le
        · exact Nat.le_trans (Nat.le_of_lt (lt_of_mem_takeWhile h)) latency_le
        · exact Nat.le_trans (below_latency low h) latency_le

/-- The latencies of both, in ascending order. -/
def merge (left right : SortedLatencies) : SortedLatencies where
  toList := mergeBehind [] left.toList right.toList
  sorted := mergeBehind_sorted .nil left.sorted right.sorted (by simp)

/-- Merging keeps the latencies of both. -/
theorem toList_merge_perm (left right : SortedLatencies) :
    (left.merge right).toList.Perm (left.toList ++ right.toList) :=
  mergeBehind_perm [] left.toList right.toList

/-! ## Sorting -/

/-- Adds `run` to runs in which the one at place `n`, if any, has merged `2 ^ n` of those added. -/
def addRun (run : SortedLatencies) : List (Option SortedLatencies) → List (Option SortedLatencies)
  | [] => [some run]
  | none :: runs => some run :: runs
  | some other :: runs => none :: addRun (other.merge run) runs

/-- The latencies of all runs, in ascending order. -/
def mergeRuns : List (Option SortedLatencies) → SortedLatencies
  | [] => empty
  | none :: runs => mergeRuns runs
  | some run :: runs => run.merge (mergeRuns runs)

/-- Adding a run adds its latencies and no others. -/
theorem toList_mergeRuns_addRun_perm (run : SortedLatencies) (runs : List (Option SortedLatencies)) :
    (mergeRuns (addRun run runs)).toList.Perm (run.toList ++ (mergeRuns runs).toList) := by
  induction runs generalizing run with
  | nil => exact toList_merge_perm run empty
  | cons other runs ih =>
      cases other with
      | none => exact toList_merge_perm run (mergeRuns runs)
      | some other =>
          refine (ih _).trans (.trans ((toList_merge_perm other run).append_right _) ?_)
          refine .trans ?_ (List.Perm.append_left _ (toList_merge_perm other (mergeRuns runs)).symm)
          simp only [← List.append_assoc]
          exact List.perm_append_comm.append_right _

/-- The given latencies in ascending order. -/
def ofList (latencies : List Nat) : SortedLatencies :=
  mergeRuns (latencies.foldl (fun runs latency => addRun (singleton latency) runs) [])

/-- Sorting keeps every latency as often as it occurs. -/
theorem toList_ofList_perm (latencies : List Nat) : (ofList latencies).toList.Perm latencies := by
  suffices ∀ runs, (mergeRuns (latencies.foldl (fun runs latency =>
      addRun (singleton latency) runs) runs)).toList.Perm (latencies ++ (mergeRuns runs).toList) by
    simpa [mergeRuns, empty, ofList] using this []
  induction latencies with
  | nil => exact fun runs => .refl _
  | cons latency latencies ih =>
      intro runs
      refine (ih _).trans (.trans
        (List.Perm.append_left _ (toList_mergeRuns_addRun_perm (singleton latency) runs)) ?_)
      exact List.perm_middle

/-- The order in which latencies are given does not matter. -/
theorem ofList_eq_of_perm {left right : List Nat} (h : left.Perm right) : ofList left = ofList right :=
  ext_perm ((toList_ofList_perm left).trans (h.trans (toList_ofList_perm right).symm))

end SortedLatencies

end BenchLog
