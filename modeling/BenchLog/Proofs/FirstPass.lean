import BenchLog.Proofs.Outcome

/-!
# What the first pass finds

The first pass ends in one of three ways (`firstPass_earliestEnd`): there are no lines, some line is no entry
and the first one of that kind is reported, or the earliest end is found. It never adds anything up, but it
reads every line, so that it fails on the same lines as the tally as long as the extra retries fit 64 bits
(`earliestEnd_eq_malformed_iff`).
-/

namespace BenchLog

/-! ## Why a tally fails -/

namespace Window

/-- What a window keeps is a part of all. -/
theorem extraSum_kept_le (window? : Option Window) (lines : List LogLine) :
    Entry.extraSum (kept window? lines) ≤ Entry.extraSum (Entry.ofAccepted lines) := by
  have hsplit := Entry.extraSum_perm
    (List.filter_append_perm (admits window?) (Entry.ofAccepted lines))
  rw [Entry.extraSum_append] at hsplit
  rw [kept_eq_filter]
  omega

/-- If the extra retries of all lines fit, so do those that are kept before the first fault. -/
theorem extraSum_kept_takeWhile_lt (window? : Option Window) {lines : List LogLine}
    (fits : Entry.extraSum (Entry.ofAccepted lines) < 2 ^ 64) :
    Entry.extraSum (kept window? (lines.takeWhile Entry.accepts)) ≤ Decimal.wordLimit := by
  have hleading := extraSum_kept_le_append window? (lines.takeWhile Entry.accepts)
    (lines.dropWhile Entry.accepts)
  rw [List.takeWhile_append_dropWhile] at hleading
  have hle := hleading.trans (extraSum_kept_le window? lines)
  exact Nat.le_pred_of_lt (hle.trans_lt fits)

end Window

namespace MergedTally

variable {tracked : Tracked} {window? : Option Window} {parts : List (List LogLine)}

/-- If nothing overflows, a tally fails with the first fault and with nothing else. -/
theorem ofParts_eq_error_iff (fits : Entry.extraSum (Entry.ofAccepted parts.flatten) < 2 ^ 64)
    {failure : Failure} : ofParts tracked window? parts = .error failure ↔
      ∃ line reason, Entry.FirstFault parts.flatten line reason ∧
        .malformed line reason = failure := by
  have hleading := Window.extraSum_kept_takeWhile_lt window? fits
  have fails {failure : Failure} (h : ofParts tracked window? parts = .error failure) :
      ∃ line reason, Entry.FirstFault parts.flatten line reason ∧
        .malformed line reason = failure := by
    rcases ofParts_eq_error h with ⟨line, reason, rfl, fault⟩ | ⟨origin, rfl, exceeds, -⟩
    · exact ⟨line, reason, fault, rfl⟩
    · exact absurd exceeds (Nat.not_lt.mpr hleading)
  constructor
  · exact fails
  · rintro ⟨line, reason, fault, rfl⟩
    cases htally : ofParts tracked window? parts with
    | ok merged => exact absurd (ofParts_eq_ok_iff.mp htally).1 fault.not_accepted
    | error failure =>
        obtain ⟨other, cause, fault', rfl⟩ := fails htally
        obtain ⟨rfl, rfl⟩ := fault.unique fault'
        rfl

end MergedTally

namespace Window

variable {parts parts' : List (List LogLine)}

/-! ## The first pass -/

/-- How the first pass over some lines can end. -/
inductive FirstPass (lines : List LogLine) : Except Failure Float → Prop where
  | noInput (empty : lines = []) : FirstPass lines (.error .noInput)
  | malformed {line : LogLine} {reason : Reason} (fault : Entry.FirstFault lines line reason) :
      FirstPass lines (.error (.malformed line reason))
  | found {first : Float} (accepted : ∀ line ∈ lines, Entry.accepts line = true)
      (earliest : IsEarliest (finishes lines) first) : FirstPass lines (.ok first)

theorem firstPass_earliestEnd (parts : List (List LogLine)) :
    FirstPass parts.flatten (earliestEnd parts) := by
  by_cases hempty : parts.flatten = []
  · rw [earliestEnd_of_flatten_eq_nil hempty]
    exact .noInput hempty
  · rcases Entry.accepted_or_firstFault parts.flatten with accepted | ⟨line, reason, fault⟩
    · obtain ⟨first, hfirst, earliest⟩ :=
        earliestEnd_of_accepted accepted (Analysis.finishes_ne_nil accepted hempty)
      rw [hfirst]
      exact .found accepted earliest
    · rw [earliestEnd_of_fault fault]
      exact .malformed fault

theorem earliestEnd_eq_noInput_iff : earliestEnd parts = .error .noInput ↔ parts.flatten = [] := by
  constructor
  · intro h
    have hpass := firstPass_earliestEnd parts
    rw [h] at hpass
    cases hpass with
    | noInput empty => exact empty
  · exact earliestEnd_of_flatten_eq_nil

theorem earliestEnd_eq_malformed_iff {line : LogLine} {reason : Reason} :
    earliestEnd parts = .error (.malformed line reason) ↔
      Entry.FirstFault parts.flatten line reason := by
  constructor
  · intro h
    have hpass := firstPass_earliestEnd parts
    rw [h] at hpass
    cases hpass with
    | malformed fault => exact fault
  · exact earliestEnd_of_fault

theorem earliestEnd_eq_ok {first : Float} (h : earliestEnd parts = .ok first) :
    (∀ line ∈ parts.flatten, Entry.accepts line = true) ∧
      IsEarliest (finishes parts.flatten) first := by
  have hpass := firstPass_earliestEnd parts
  rw [h] at hpass
  cases hpass with
  | found accepted earliest => exact ⟨accepted, earliest⟩

/-- What is earliest is not a number if no time is one, and otherwise it is the least number among the
    times. -/
theorem IsEarliest.cases {times : List Float} {first : Float} (h : IsEarliest times first) :
    (first.isNaN = true ∧ ∀ time ∈ times, time.isNaN = true) ∨
      first ∈ times ∧ first.isNaN = false ∧ ∀ time ∈ times, time.isNaN = false → first ≤ time := by
  cases hfirst : first.isNaN with
  | true => exact Or.inl ⟨rfl, fun time member => h.isNaN_of_mem hfirst member⟩
  | false => exact Or.inr ⟨h.1, rfl, fun time member hnumber => h.le_of_mem member hnumber⟩

/-- The cut and the order of the lines decide at most about the sign of a zero. -/
theorem earliestEnd_perm {first : Float} (hperm : parts.flatten.Perm parts'.flatten)
    (h : earliestEnd parts = .ok first) :
    ∃ other, earliestEnd parts' = .ok other ∧ FloatOrder.Alike first other := by
  obtain ⟨accepted, earliest⟩ := earliestEnd_eq_ok h
  have accepted' : ∀ line ∈ parts'.flatten, Entry.accepts line = true :=
    fun line member => accepted line (hperm.mem_iff.mpr member)
  have hsame (time : Float) : time ∈ finishes parts.flatten ↔ time ∈ finishes parts'.flatten :=
    ((Entry.ofAccepted_perm hperm).map Entry.finish).mem_iff
  have nonempty : finishes parts'.flatten ≠ [] := List.ne_nil_of_mem ((hsame first).mp earliest.1)
  obtain ⟨other, hother, earliest'⟩ := earliestEnd_of_accepted accepted' nonempty
  exact ⟨other, hother, earliest.alike earliest' hsame⟩

/-- As long as the extra retries fit, the first pass fails where the tally fails, and in the same way. If
    there are no lines, it is alone in failing. -/
theorem earliestEnd_fails_iff (tracked : Tracked) (window? : Option Window)
    (fits : Entry.extraSum (Entry.ofAccepted parts.flatten) < 2 ^ 64) :
    ((∃ failure, earliestEnd parts = .error failure) ↔
      (∃ failure, MergedTally.ofParts tracked window? parts = .error failure) ∨
        parts.flatten = []) ∧
    ∀ line reason, earliestEnd parts = .error (.malformed line reason) ↔
      MergedTally.ofParts tracked window? parts = .error (.malformed line reason) := by
  have hmalformed (line : LogLine) (reason : Reason) :
      earliestEnd parts = .error (.malformed line reason) ↔
        MergedTally.ofParts tracked window? parts = .error (.malformed line reason) := by
    rw [earliestEnd_eq_malformed_iff, MergedTally.ofParts_eq_error_iff fits]
    simp
  refine ⟨?_, hmalformed⟩
  constructor
  · rintro ⟨failure, h⟩
    have hpass := firstPass_earliestEnd parts
    rw [h] at hpass
    cases hpass with
    | noInput empty => exact Or.inr empty
    | malformed fault => exact Or.inl ⟨_, (hmalformed _ _).mp h⟩
  · rintro (⟨failure, h⟩ | empty)
    · obtain ⟨line, reason, fault, -⟩ := (MergedTally.ofParts_eq_error_iff fits).mp h
      exact ⟨_, earliestEnd_of_fault fault⟩
    · exact ⟨_, earliestEnd_of_flatten_eq_nil empty⟩

/-- What the first pass gives for lines in parts, some of which may be empty: the first line that is no
    entry, a failure if there are no lines, and otherwise the least of all ends, which is no number only if
    no end is one. The cut and the order of the lines do not matter to a comparison with it, and where it
    fails the tally of the same parts fails. -/
theorem earliestEnd_least (parts : List (List LogLine)) :
    ((∃ line ∈ parts.flatten, Entry.accepts line = false) →
      ∃ line reason, Entry.FirstFault parts.flatten line reason ∧
        earliestEnd parts = .error (.malformed line reason)) ∧
    (earliestEnd parts = .error .noInput ↔ parts.flatten = []) ∧
    (parts.flatten ≠ [] → (∀ line ∈ parts.flatten, Entry.accepts line = true) →
      ∃ first, earliestEnd parts = .ok first ∧
        ((first.isNaN = true ∧ ∀ time ∈ finishes parts.flatten, time.isNaN = true) ∨
          first ∈ finishes parts.flatten ∧ first.isNaN = false ∧
            ∀ time ∈ finishes parts.flatten, time.isNaN = false → first ≤ time)) ∧
    (∀ parts' first, parts.flatten.Perm parts'.flatten → earliestEnd parts = .ok first →
      ∃ other, earliestEnd parts' = .ok other ∧
        (first.isNaN = true ∧ other.isNaN = true ∨ first == other)) ∧
    ∀ tracked window?, Entry.extraSum (Entry.ofAccepted parts.flatten) < 2 ^ 64 →
      ((∃ failure, earliestEnd parts = .error failure) ↔
        (∃ failure, MergedTally.ofParts tracked window? parts = .error failure) ∨
          parts.flatten = []) ∧
      ∀ line reason, earliestEnd parts = .error (.malformed line reason) ↔
        MergedTally.ofParts tracked window? parts = .error (.malformed line reason) := by
  refine ⟨?_, earliestEnd_eq_noInput_iff, ?_, ?_, earliestEnd_fails_iff⟩
  · rintro ⟨line, member, rejected⟩
    obtain ⟨first, reason, fault⟩ := Entry.firstFault_of_mem member rejected
    exact ⟨first, reason, fault, earliestEnd_of_fault fault⟩
  · intro nonempty accepted
    obtain ⟨first, hfirst, earliest⟩ :=
      earliestEnd_of_accepted accepted (Analysis.finishes_ne_nil accepted nonempty)
    exact ⟨first, hfirst, earliest.cases⟩
  · intro parts' first hperm h
    obtain ⟨other, hother, halike⟩ := earliestEnd_perm hperm h
    refine ⟨other, hother, ?_⟩
    cases hfirst : first.isNaN with
    | true => exact Or.inl ⟨rfl, halike.1.symm.trans hfirst⟩
    | false => exact Or.inr (halike.beq hfirst)

/-- A line whose end is no number, and two others. -/
def unclocked : List LogLine :=
  [⟨"run.log", 1, "1 0.0 nan 5 1"⟩, ⟨"run.log", 2, "2 0.0 0.5 7 1 2 4"⟩, ⟨"run.log", 3, "3 0.0 0.25 9 2"⟩]

/-- The least end is found behind an empty part and an end that is no number, and again if the lines come the
    other way round in parts of one. With a line that is no entry, the first pass and the tally fail alike. -/
theorem earliestEnd_least_unclocked :
    (∃ first other, earliestEnd [[], unclocked] = .ok first ∧ first ∈ finishes unclocked ∧
      (∀ time ∈ finishes unclocked, time.isNaN = false → first ≤ time) ∧
      earliestEnd (unclocked.reverse.map ([·])) = .ok other ∧ first == other) ∧
    ∃ line reason, earliestEnd [unclocked, [⟨"run.log", 4, "oops"⟩]] = .error (.malformed line reason) ∧
      MergedTally.ofParts {} none [unclocked, [⟨"run.log", 4, "oops"⟩]] =
        .error (.malformed line reason) := by
  refine ⟨?_, ?_⟩
  · obtain ⟨-, -, hfound, hperm, -⟩ := earliestEnd_least [[], unclocked]
    obtain ⟨first, hfirst, hleast⟩ := hfound (by decide) (by decide +kernel)
    have hsame : unclocked.Perm (unclocked.reverse.map ([·])).flatten := by decide
    obtain ⟨other, hother, hequal⟩ := hperm _ first hsame hfirst
    have hnumber : ¬∀ time ∈ finishes unclocked, time.isNaN = true := by decide +kernel
    rcases hleast with ⟨-, hnan⟩ | ⟨hmember, hfinite, hle⟩
    · exact absurd hnan hnumber
    · have hbeq := hequal.resolve_left fun h => by
        rw [hfinite] at h
        cases h.1
      exact ⟨first, other, hfirst, hmember, hle, hother, hbeq⟩
  · obtain ⟨hfault, -, -, -, htally⟩ :=
      earliestEnd_least [unclocked, [⟨"run.log", 4, "oops"⟩]]
    obtain ⟨line, reason, -, hpass⟩ :=
      hfault ⟨⟨"run.log", 4, "oops"⟩, by decide, by decide +kernel⟩
    exact ⟨line, reason, hpass, ((htally {} none (by decide +kernel)).2 line reason).mp hpass⟩

end Window

end BenchLog
