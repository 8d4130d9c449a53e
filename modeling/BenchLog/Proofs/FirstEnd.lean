import BenchLog.Proofs.Kept

/-!
# When the first transaction ended

The first pass looks for the earliest end of a transaction, part by part. It finds a time that is not
after any other (`earliestEnd_of_accepted`), and times are compared as numbers: how the lines are cut and
ordered decides at most about the sign of a zero (`IsEarliest.alike`).
-/

namespace BenchLog.Window

open FloatOrder (le_iff le_of_lt le_of_not_lt)

/-- `first` is one of the times, and no other one that is a number is before it. -/
def IsEarliest (times : List Float) (first : Float) : Prop :=
  first ∈ times ∧ ∀ time ∈ times, time.isNaN = true ∨ first ≤ time

/-- The earliest of some times; none if there are none. -/
def earliest? (times : List Float) : Option Float :=
  times.find? fun first => times.all fun time => time.isNaN || first ≤ time

/-- What has been found among some times: the earliest of them, and nothing if there are none. -/
def Found (times : List Float) : Option Float → Prop
  | none => times = []
  | some first => IsEarliest times first

/-- When the transactions ended. -/
def finishes (lines : List LogLine) : List Float :=
  (Entry.ofAccepted lines).map Entry.finish

namespace IsEarliest

variable {times left right : List Float} {a b : Float}

theorem singleton (time : Float) : IsEarliest [time] time := by
  refine ⟨by simp, ?_⟩
  intro other member
  rw [List.mem_singleton.mp member]
  cases h : time.isNaN with
  | true => exact Or.inl rfl
  | false => exact Or.inr (FloatOrder.le_refl h)

/-- If what is earliest is not a number, no time is one. -/
theorem isNaN_of_mem (h : IsEarliest times a) (ha : a.isNaN = true) {time : Float}
    (member : time ∈ times) : time.isNaN = true := by
  rcases h.2 time member with hnan | hle
  · exact hnan
  · rw [(le_iff.mp hle).1] at ha
    cases ha

theorem le_of_mem (h : IsEarliest times a) {time : Float} (member : time ∈ times)
    (hnumber : time.isNaN = false) : a ≤ time := by
  rcases h.2 time member with hnan | hle
  · rw [hnumber] at hnan
    cases hnan
  · exact hle

/-- The earliest of two lots of times is the smaller one of the earliest ones. -/
theorem append (hleft : IsEarliest left a) (hright : IsEarliest right b) :
    IsEarliest (left ++ right) (smaller a b) := by
  -- If the earliest time of one side is not a number, that side has none to compare with.
  have keep_left (h : b.isNaN = true ∨ a ≤ b) : IsEarliest (left ++ right) a := by
    refine ⟨List.mem_append_left right hleft.1, ?_⟩
    intro time member
    rcases List.mem_append.mp member with member | member
    · exact hleft.2 time member
    · rcases h with hb | hab
      · exact Or.inl (hright.isNaN_of_mem hb member)
      · exact (hright.2 time member).imp_right (FloatOrder.le_trans hab)
  have keep_right (h : a.isNaN = true ∨ b ≤ a) : IsEarliest (left ++ right) b := by
    refine ⟨List.mem_append_right left hright.1, ?_⟩
    intro time member
    rcases List.mem_append.mp member with member | member
    · rcases h with ha | hba
      · exact Or.inl (hleft.isNaN_of_mem ha member)
      · exact (hleft.2 time member).imp_right (FloatOrder.le_trans hba)
    · exact hright.2 time member
  unfold smaller
  split
  · rename_i hb
    exact keep_left (Or.inl hb)
  · rename_i hb
    split
    · rename_i hab
      exact keep_left (Or.inr (le_of_lt hab))
    · rename_i hab
      apply keep_right
      cases ha : a.isNaN with
      | true => exact Or.inl rfl
      | false => exact Or.inr (le_of_not_lt ha (by simpa using hb) hab)

/-- Which time is the earliest does not depend on the order of the times or on how often they occur. -/
theorem alike (hleft : IsEarliest left a) (hright : IsEarliest right b)
    (h : ∀ time, time ∈ left ↔ time ∈ right) : FloatOrder.Alike a b := by
  cases ha : a.isNaN with
  | true =>
      exact .of_isNaN ha (hleft.isNaN_of_mem ha ((h b).mpr hright.1))
  | false =>
      have hba := hright.le_of_mem ((h a).mp hleft.1) ha
      exact .of_le_of_le (hleft.le_of_mem ((h b).mpr hright.1) (le_iff.mp hba).1) hba

end IsEarliest

theorem isEarliest_of_earliest? {times : List Float} {first : Float}
    (h : earliest? times = some first) : IsEarliest times first := by
  refine ⟨List.mem_of_find?_eq_some h, ?_⟩
  simpa using List.find?_some h

theorem exists_earliest? {times : List Float} {first : Float} (h : IsEarliest times first) :
    ∃ first, earliest? times = some first := by
  apply Option.isSome_iff_exists.mp
  rw [earliest?, List.find?_isSome]
  exact ⟨first, h.1, by simpa using h.2⟩

/-! ## The first pass -/

/-- Nothing has been found among no times. -/
theorem found_nil : Found [] none := rfl

theorem Found.least {times group : List Float} {found? : Option Float} {first : Float}
    (h : Found times found?) (hgroup : IsEarliest group first) :
    Found (times ++ group) (some (least found? first)) := by
  cases found? with
  | none =>
      have htimes : times = [] := h
      subst htimes
      exact hgroup
  | some found => exact IsEarliest.append h hgroup

theorem found_foldl_least (times : List Float) {done : List Float} {found? : Option Float}
    (h : Found done found?) :
    Found (done ++ times) (times.foldl (fun found? time => some (least found? time)) found?) := by
  induction times generalizing done found? with
  | nil => simpa using h
  | cons time times ih =>
      have hstep := ih (h.least (.singleton time))
      rwa [List.append_assoc, List.singleton_append] at hstep

theorem found_foldl_filterMap {groups : List (List Float)} {founds : List (Option Float)}
    (hgroups : List.Forall₂ Found groups founds) {done : List Float} {found? : Option Float}
    (h : Found done found?) :
    Found (done ++ groups.flatten)
      ((founds.filterMap id).foldl (fun found? time => some (least found? time)) found?) := by
  induction hgroups generalizing done found? with
  | nil => simpa using h
  | @cons group first? groups founds hgroup hgroups ih =>
      cases first? with
      | none =>
          have hempty : group = [] := hgroup
          subst hempty
          simpa using ih h
      | some first =>
          have hstep := ih (h.least hgroup)
          rw [List.append_assoc] at hstep
          simpa using hstep

/-- A part is read to its end, and the earliest end is kept on the way. -/
theorem earliestIn_eq_mapM (lines : List LogLine) :
    earliestIn lines = (lines.mapM Entry.ofLine >>= fun entries => pure
      ((entries.map Entry.finish).foldl (fun found? time => some (least found? time)) none)) := by
  simp only [List.foldl_map]
  exact Loop.foldlM_eq_mapM_foldl Entry.ofLine
    (fun found? entry => some (least found? entry.finish)) lines none

theorem mapM_earliestIn_of_accepted {parts : List (List LogLine)}
    (accepted : ∀ line ∈ parts.flatten, Entry.accepts line = true) :
    ∃ founds, parts.mapM earliestIn = .ok founds ∧
      List.Forall₂ Found (parts.map finishes) founds := by
  induction parts with
  | nil => exact ⟨[], rfl, .nil⟩
  | cons part parts ih =>
      rw [List.flatten_cons] at accepted
      obtain ⟨founds, hparts, hfounds⟩ :=
        ih fun line member => accepted line (List.mem_append_right _ member)
      have hpart := earliestIn_eq_mapM part
      rw [Entry.mapM_ofLine_of_accepted fun line member =>
        accepted line (List.mem_append_left _ member), Loop.ok_bind] at hpart
      have hfound := found_foldl_least (finishes part) found_nil
      refine ⟨_ :: founds, ?_, .cons hfound hfounds⟩
      rw [List.mapM_cons, hpart, hparts]
      rfl

theorem finishes_flatten (parts : List (List LogLine)) :
    finishes parts.flatten = (parts.map finishes).flatten := by
  induction parts with
  | nil => rfl
  | cons part parts ih =>
      rw [List.map_cons, List.flatten_cons, List.flatten_cons, ← ih, finishes,
        Entry.ofAccepted_append, List.map_append]
      rfl

/-- If every line is an entry, the first pass finds the earliest end of all. -/
theorem earliestEnd_of_accepted {parts : List (List LogLine)}
    (accepted : ∀ line ∈ parts.flatten, Entry.accepts line = true)
    (nonempty : finishes parts.flatten ≠ []) :
    ∃ first, earliestEnd parts = .ok first ∧ IsEarliest (finishes parts.flatten) first := by
  obtain ⟨founds, hparts, hfounds⟩ := mapM_earliestIn_of_accepted accepted
  have hfound := found_foldl_filterMap hfounds found_nil
  rw [List.nil_append, ← finishes_flatten] at hfound
  rw [earliestEnd, hparts, Loop.ok_bind]
  cases hfold : (founds.filterMap id).foldl (fun found? time => some (least found? time)) none with
  | none =>
      rw [hfold] at hfound
      exact absurd hfound nonempty
  | some first =>
      rw [hfold] at hfound
      exact ⟨first, rfl, hfound⟩

/-- Without lines there is no earliest end. -/
theorem earliestEnd_of_flatten_eq_nil {parts : List (List LogLine)} (h : parts.flatten = []) :
    earliestEnd parts = .error .noInput := by
  have accepted : ∀ line ∈ parts.flatten, Entry.accepts line = true := by simp [h]
  obtain ⟨founds, hparts, hfounds⟩ := mapM_earliestIn_of_accepted accepted
  have hfound := found_foldl_filterMap hfounds found_nil
  rw [List.nil_append, ← finishes_flatten, h] at hfound
  rw [earliestEnd, hparts, Loop.ok_bind]
  cases hfold : (founds.filterMap id).foldl (fun found? time => some (least found? time)) none with
  | none => rfl
  | some first =>
      rw [hfold] at hfound
      exact absurd hfound.1 List.not_mem_nil

/-- If some line is no entry, the first pass reports the first such line. -/
theorem earliestEnd_of_fault {parts : List (List LogLine)} {line : LogLine} {reason : Reason}
    (fault : Entry.FirstFault parts.flatten line reason) :
    earliestEnd parts = .error (.malformed line reason) := by
  -- Which line is reported does not change if everything is read before times are compared.
  have hread := Entry.mapM_ofLine_of_fault fault
  rw [Loop.mapM_flatten] at hread
  have hparts : parts.mapM (·.mapM Entry.ofLine) = .error (.malformed line reason) := by
    rcases Loop.bind_eq_error_iff.mp hread with hparts | ⟨founds, -, hpure⟩
    · exact hparts
    · cases hpure
  rw [earliestEnd, funext earliestIn_eq_mapM, Loop.mapM_bind_pure, hparts]
  rfl

end BenchLog.Window
