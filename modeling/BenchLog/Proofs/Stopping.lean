import BenchLog.Proofs.Merging
import Mathlib.Data.List.Induction

/-!
# Where counting lines stops

Lines are counted from the first to the last, and the count stops at the first line that is no entry or that
takes the sum of extra retries past 64 bits (`Tally.Stops`). Whether a line is that one is settled by the lines
up to it, so that more lines behind it change nothing (`Tally.Stops.append_right`). If there is none, counting
two lists of lines one after the other joins what each of them holds (`Tally.join_ofEntries`).
-/

namespace BenchLog

namespace Tally

variable {tracked : Tracked} {window? : Option Window} {lines : List LogLine} {k : Nat}
  {failure : Failure}

/-- Every line is an entry, and the sum of the extra retries that count fits 64 bits after each line. -/
structure Passes (window? : Option Window) (lines : List LogLine) : Prop where
  accepted : ∀ line ∈ lines, Entry.accepts line = true
  fits : ∀ k, Entry.extraSum (Window.kept window? (lines.take k)) < 2 ^ 64

/-- The index of the first line that cannot be counted, and why: the line is no entry, or it counts and
    takes the sum of extra retries past 64 bits. -/
inductive Stops (window? : Option Window) (lines : List LogLine) : Nat → Failure → Prop where
  | malformed {k : Nat} {line : LogLine} {reason : Reason} (before : Passes window? (lines.take k))
      (here : lines[k]? = some line) (fault : Entry.ofLine line = .error (.malformed line reason)) :
      Stops window? lines k (.malformed line reason)
  | overflow {k : Nat} {line : LogLine} {entry : Entry} (before : Passes window? (lines.take k))
      (here : lines[k]? = some line) (hline : Entry.ofLine line = .ok entry)
      (admitted : Window.admits window? entry = true)
      (exceeds : 2 ^ 64 ≤ Entry.extraSum (Window.kept window? (lines.take k)) + entry.extra) :
      Stops window? lines k (.overflow .extraAll line.origin)

/-! ## Passing -/

/-- The sum only grows from line to line, so it is enough that it fits at the end. -/
theorem passes_iff : Passes window? lines ↔
    (∀ line ∈ lines, Entry.accepts line = true) ∧
      Entry.extraSum (Window.kept window? lines) < 2 ^ 64 := by
  constructor
  · intro h
    have hall := h.fits lines.length
    rw [List.take_length] at hall
    exact ⟨h.accepted, hall⟩
  · intro h
    refine ⟨h.1, ?_⟩
    intro k
    have hle := Window.extraSum_kept_le_append window? (lines.take k) (lines.drop k)
    rw [List.take_append_drop] at hle
    exact Nat.lt_of_le_of_lt hle h.2

/-- Lines that pass are counted to the end. -/
theorem exists_ofLines_eq_ok_iff_passes :
    (∃ tally, ofLines tracked window? lines = .ok tally) ↔ Passes window? lines := by
  simp only [ofLines_eq_ok_iff, passes_iff, Decimal.le_wordLimit_iff, exists_and_left, exists_eq,
    and_true]

theorem Passes.ofLines_eq_ok (h : Passes window? lines) (tracked : Tracked) :
    ofLines tracked window? lines = .ok (ofEntries tracked (Window.kept window? lines)) := by
  have hfits := (passes_iff.mp h).2
  exact ofLines_of_accepted tracked h.accepted (Decimal.le_wordLimit_iff.mpr hfits)

/-! ## Stopping -/

theorem Stops.lt_length (h : Stops window? lines k failure) : k < lines.length := by
  cases h with
  | malformed _ here _ => exact (List.getElem?_eq_some_iff.mp here).1
  | overflow _ here _ _ _ => exact (List.getElem?_eq_some_iff.mp here).1

/-- What follows the line at which the count stops does not matter. -/
theorem Stops.append_right (h : Stops window? lines k failure) (rest : List LogLine) :
    Stops window? (lines ++ rest) k failure := by
  have hlength := h.lt_length
  have htake : (lines ++ rest).take k = lines.take k := List.take_append_of_le_length hlength.le
  have hget : (lines ++ rest)[k]? = lines[k]? := List.getElem?_append_left hlength
  cases h with
  | malformed before here fault =>
      rw [← htake] at before
      rw [← hget] at here
      exact .malformed before here fault
  | overflow before here hline admitted exceeds =>
      rw [← htake] at before exceeds
      rw [← hget] at here
      exact .overflow before here hline admitted exceeds

/-- The step that the loop takes at the line at which it stops. -/
theorem Stops.recordLine_eq_error (h : Stops window? lines k failure) (tracked : Tracked) :
    ∃ line, lines[k]? = some line ∧ Passes window? (lines.take k) ∧
      recordLine tracked window? (ofEntries tracked (Window.kept window? (lines.take k))) line =
        .error failure := by
  cases h with
  | malformed before here fault => exact ⟨_, here, before, recordLine_of_error fault⟩
  | @overflow line entry before here hline admitted exceeds =>
      refine ⟨line, here, before, ?_⟩
      have hfits := Decimal.le_wordLimit_iff.mpr (passes_iff.mp before).2
      have hexceeds := mt Decimal.le_wordLimit_iff.mp (Nat.not_lt.mpr exceeds)
      have hsum : Entry.extraSum (Window.kept window? (lines.take k) ++ Window.kept window? [line]) =
          Entry.extraSum (Window.kept window? (lines.take k)) + entry.extra := by
        rw [Window.kept_cons_of_admits hline admitted, Window.kept_nil, Entry.extraSum_append,
          Entry.extraSum_cons, Entry.extraSum_nil, Nat.add_zero]
      rw [recordLine_of_ok hline hfits, hsum, if_neg hexceeds]

theorem Stops.ofLines_eq_error (h : Stops window? lines k failure) :
    ofLines tracked window? lines = .error failure := by
  obtain ⟨line, here, before, hstep⟩ := h.recordLine_eq_error tracked
  obtain ⟨hlength, hget⟩ := List.getElem?_eq_some_iff.mp here
  have hbefore := before.ofLines_eq_ok tracked
  have hsplit : lines = lines.take k ++ line :: lines.drop (k + 1) := by
    rw [← hget, List.getElem_cons_drop, List.take_append_drop]
  rw [ofLines] at hbefore
  rw [ofLines, hsplit, List.foldlM_append, hbefore, Loop.ok_bind, List.foldlM_cons, hstep,
    Loop.error_bind]

/-- Lines pass, or there is a first one that cannot be counted. -/
theorem passes_or_stops (window? : Option Window) (lines : List LogLine) :
    Passes window? lines ∨ ∃ k failure, Stops window? lines k failure := by
  -- On the lines from the last one: what comes before it settles the matter unless it passes.
  induction lines using List.reverseRecOn with
  | nil => exact .inl (passes_iff.mpr (by simp))
  | append_singleton lines line ih =>
      cases ih with
      | inr h =>
          obtain ⟨k, failure, h⟩ := h
          exact .inr ⟨k, failure, h.append_right [line]⟩
      | inl before =>
          have here : (lines ++ [line])[lines.length]? = some line := by simp
          have htake : (lines ++ [line]).take lines.length = lines := by simp
          have hbefore : Passes window? ((lines ++ [line]).take lines.length) := htake.symm ▸ before
          obtain ⟨accepted, fits⟩ := passes_iff.mp before
          cases haccepts : Entry.accepts line with
          | false =>
              obtain ⟨reason, fault⟩ := Entry.accepts_eq_false_iff.mp haccepts
              exact .inr ⟨_, _, .malformed hbefore here fault⟩
          | true =>
              have hall : ∀ other ∈ lines ++ [line], Entry.accepts other = true := by
                intro other member
                rw [List.mem_append, List.mem_singleton] at member
                cases member with
                | inl member => exact accepted other member
                | inr same => rw [same, haccepts]
              obtain ⟨entry, hline⟩ := Entry.accepts_iff.mp haccepts
              cases hadmits : Window.admits window? entry with
              | false =>
                  refine .inl (passes_iff.mpr ⟨hall, ?_⟩)
                  rwa [Window.kept_append, Window.kept_cons_of_not_admits hline hadmits,
                    Window.kept_nil, List.append_nil]
              | true =>
                  by_cases exceeds : 2 ^ 64 ≤ Entry.extraSum (Window.kept window? lines) + entry.extra
                  · rw [← htake] at exceeds
                    exact .inr ⟨_, _, .overflow hbefore here hline hadmits exceeds⟩
                  · refine .inl (passes_iff.mpr ⟨hall, ?_⟩)
                    rw [Window.kept_append, Window.kept_cons_of_admits hline hadmits,
                      Window.kept_nil, Entry.extraSum_append, Entry.extraSum_cons,
                      Entry.extraSum_nil, Nat.add_zero]
                    exact Nat.lt_of_not_le exceeds

theorem ofLines_eq_error_iff :
    ofLines tracked window? lines = .error failure ↔ ∃ k, Stops window? lines k failure := by
  constructor
  · intro h
    cases passes_or_stops window? lines with
    | inl passes =>
        rw [passes.ofLines_eq_ok] at h
        cases h
    | inr stops =>
        obtain ⟨k, failure', hstops⟩ := stops
        rw [hstops.ofLines_eq_error] at h
        cases h
        exact ⟨k, hstops⟩
  · intro h
    obtain ⟨k, hstops⟩ := h
    exact hstops.ofLines_eq_error

/-! ## Joining -/

theorem join_ofEntries (front back : List Entry) :
    MergedTally.join [ofEntries tracked front, ofEntries tracked back] =
      ofEntries tracked (front ++ back) := by
  have hgroups : (MergedTally.join [ofEntries tracked front, ofEntries tracked back]).groups =
      (ofEntries tracked (front ++ back)).groups := by
    apply Groups.ext_get
    intro grouping
    simp [MergedTally.join, MergedTally.gather]
  have hextras : (MergedTally.join [ofEntries tracked front, ofEntries tracked back]).extras =
      Entry.extras (front ++ back) := by
    simp [MergedTally.join, MergedTally.sums, Entry.extras, Sides.add, Entry.extraSum_append]
  exact congrArg₂ Tally.mk hgroups hextras

/-- Counting lines succeeds if and only if every line is an entry and the sum of the extra retries that
    count fits 64 bits all the way. Otherwise it stops at the first line that breaks one of the two, and the
    failure is the fault of that line or names it as the one at which the sum among all transactions
    overflows. What follows that line does not matter. If two lists of lines are both counted and their sums
    among all transactions fit together, counting one list behind the other joins the two tallies. -/
theorem ofLines_stops (tracked : Tracked) (window? : Option Window) (lines : List LogLine) :
    ((∃ tally, ofLines tracked window? lines = .ok tally) ↔ Passes window? lines) ∧
    (∀ failure, ofLines tracked window? lines = .error failure ↔
      ∃ k, Stops window? lines k failure) ∧
    (∀ failure rest, ofLines tracked window? lines = .error failure →
      ofLines tracked window? (lines ++ rest) = .error failure) ∧
    ∀ rest front back, ofLines tracked window? lines = .ok front →
      ofLines tracked window? rest = .ok back → front.extras.all + back.extras.all < 2 ^ 64 →
      ofLines tracked window? (lines ++ rest) = .ok (MergedTally.join [front, back]) := by
  refine ⟨exists_ofLines_eq_ok_iff_passes, fun _ => ofLines_eq_error_iff, ?_, ?_⟩
  · intro failure rest h
    obtain ⟨k, hstops⟩ := ofLines_eq_error_iff.mp h
    exact (hstops.append_right rest).ofLines_eq_error
  · intro rest front back hfront hback fits
    obtain ⟨accepted, -, rfl⟩ := ofLines_eq_ok_iff.mp hfront
    obtain ⟨accepted', -, rfl⟩ := ofLines_eq_ok_iff.mp hback
    rw [join_ofEntries, ← Window.kept_append]
    apply Passes.ofLines_eq_ok
    rw [passes_iff, Window.kept_append, Entry.extraSum_append]
    refine ⟨?_, fits⟩
    intro line member
    rw [List.mem_append] at member
    cases member with
    | inl member => exact accepted line member
    | inr member => exact accepted' line member

/-- The second line ended outside the window, with extra retries that would not fit. Those of the first line
    leave no room for the third one, and the fourth line is no entry. -/
def crowded : List LogLine :=
  [⟨"run.log", 1, "1 0.0 1.0 10 1 2 18446744073709551615"⟩, ⟨"run.log", 2, "2 0.0 99.0 20 1 2 7"⟩,
    ⟨"run.log", 3, "3 0.0 2.0 30 2 2 1"⟩, ⟨"run.log", 4, "oops"⟩]

/-- The count passes over the second line and stops at the third, with or without the fourth. The first two
    lines are counted, and so they are with a line without extra retries behind them. -/
theorem ofLines_stops_crowded :
    ofLines {} (some ⟨0, 10⟩) crowded = .error (.overflow .extraAll (.line "run.log" 3)) ∧
    (∃ k, Stops (some ⟨0, 10⟩) (crowded.take 3) k (.overflow .extraAll (.line "run.log" 3))) ∧
    ∃ front back, ofLines {} (some ⟨0, 10⟩) (crowded.take 2) = .ok front ∧
      ofLines {} (some ⟨0, 10⟩) [⟨"run.log", 5, "5 0.0 3.0 40 3"⟩] = .ok back ∧
      ofLines {} (some ⟨0, 10⟩) (crowded.take 2 ++ [⟨"run.log", 5, "5 0.0 3.0 40 3"⟩]) =
        .ok (MergedTally.join [front, back]) := by
  have hthree : ofLines {} (some ⟨0, 10⟩) (crowded.take 3) =
      .error (.overflow .extraAll (.line "run.log" 3)) := by
    decide +kernel
  have hfront : ofLines {} (some ⟨0, 10⟩) (crowded.take 2) =
      .ok ⟨⟨#[10], #[10], #[], #[], #[], #[10], #[]⟩, ⟨2 ^ 64 - 1, 2 ^ 64 - 1, 0⟩⟩ := by
    decide +kernel
  have hback : ofLines {} (some ⟨0, 10⟩) [⟨"run.log", 5, "5 0.0 3.0 40 3"⟩] =
      .ok ⟨⟨#[40], #[], #[40], #[], #[40], #[], #[]⟩, ⟨0, 0, 0⟩⟩ := by
    decide +kernel
  obtain ⟨-, hstops, hlonger, -⟩ := ofLines_stops {} (some ⟨0, 10⟩) (crowded.take 3)
  obtain ⟨-, -, -, hjoin⟩ := ofLines_stops {} (some ⟨0, 10⟩) (crowded.take 2)
  exact ⟨hlonger _ [⟨"run.log", 4, "oops"⟩] hthree, (hstops _).mp hthree, _, _, hfront, hback,
    hjoin _ _ _ hfront hback (by decide)⟩

end Tally

end BenchLog
