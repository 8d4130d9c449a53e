import BenchLog.Entry
import BenchLog.Proofs.Loop
import Mathlib.Algebra.GroupWithZero.Nat
import Mathlib.Data.List.TakeWhile

/-!
# The lines that can be read

A line is accepted if it is an entry. Reading a list of lines gives the entries of all of them, or the
fault of the first line that is not accepted (`mapM_ofLine_of_accepted`, `mapM_ofLine_of_fault`).
-/

namespace BenchLog.Entry

/-- Whether a line is an entry. -/
def accepts (line : LogLine) : Bool := (ofLine line).isOk

/-- The entries among some lines, in the order of the lines. -/
def ofAccepted (lines : List LogLine) : List Entry :=
  lines.filterMap fun line => (ofLine line).toOption

/-- The extra retries of some entries, taken together. -/
def extraSum (entries : List Entry) : Nat := (entries.map Entry.extra).sum

/-- `line` is the first one that is no entry, and `reason` says why it is none. -/
def FirstFault (lines : List LogLine) (line : LogLine) (reason : Reason) : Prop :=
  ∃ before after, lines = before ++ line :: after ∧
    (∀ earlier ∈ before, accepts earlier = true) ∧ ofLine line = .error (.malformed line reason)

/-! ## Lines -/

theorem accepts_iff {line : LogLine} : accepts line = true ↔ ∃ entry, ofLine line = .ok entry :=
  Loop.isOk_iff

/-- A line that is no entry is malformed, and the failure carries the line as it stands. -/
theorem exists_reason_of_ofLine {line : LogLine} {failure : Failure}
    (h : ofLine line = .error failure) : ∃ reason, failure = .malformed line reason := by
  obtain ⟨reason, -, hfailure⟩ := Loop.mapError_eq_error_iff.mp h
  exact ⟨reason, hfailure.symm⟩

theorem ofLine_eq_ok_iff {line : LogLine} {entry : Entry} :
    ofLine line = .ok entry ↔ ofWords (Text.words line.text.toList) = .ok entry :=
  Loop.mapError_eq_ok_iff

theorem accepts_eq_false_iff {line : LogLine} :
    accepts line = false ↔ ∃ reason, ofLine line = .error (.malformed line reason) := by
  constructor
  · intro h
    cases hline : ofLine line with
    | ok entry => simp [accepts, hline, Except.isOk, Except.toBool] at h
    | error failure =>
        obtain ⟨reason, rfl⟩ := exists_reason_of_ofLine hline
        exact ⟨reason, rfl⟩
  · rintro ⟨reason, h⟩
    simp [accepts, h, Except.isOk, Except.toBool]

/-! ## Entries of lines -/

@[simp] theorem ofAccepted_nil : ofAccepted [] = [] := rfl

theorem ofAccepted_cons_of_ok {line : LogLine} {entry : Entry} (h : ofLine line = .ok entry)
    (lines : List LogLine) : ofAccepted (line :: lines) = entry :: ofAccepted lines := by
  simp [ofAccepted, h, Except.toOption]

theorem ofAccepted_append (left right : List LogLine) :
    ofAccepted (left ++ right) = ofAccepted left ++ ofAccepted right :=
  List.filterMap_append

theorem ofAccepted_perm {left right : List LogLine} (h : left.Perm right) :
    (ofAccepted left).Perm (ofAccepted right) :=
  h.filterMap _

@[simp] theorem extraSum_nil : extraSum [] = 0 := rfl

theorem extraSum_cons (entry : Entry) (entries : List Entry) :
    extraSum (entry :: entries) = entry.extra + extraSum entries := by
  simp [extraSum]

theorem extraSum_append (left right : List Entry) :
    extraSum (left ++ right) = extraSum left + extraSum right := by
  simp [extraSum]

theorem extraSum_perm {left right : List Entry} (h : left.Perm right) :
    extraSum left = extraSum right :=
  (h.map Entry.extra).sum_nat

/-! ## The first fault -/

theorem firstFault_of_mem {lines : List LogLine} {line : LogLine} (member : line ∈ lines)
    (rejected : accepts line = false) : ∃ first reason, FirstFault lines first reason := by
  induction lines with
  | nil => cases member
  | cons head lines ih =>
      cases haccept : accepts head with
      | false =>
          obtain ⟨reason, hreason⟩ := accepts_eq_false_iff.mp haccept
          exact ⟨head, reason, [], lines, rfl, by simp, hreason⟩
      | true =>
          rcases List.mem_cons.mp member with rfl | member
          · rw [rejected] at haccept
            cases haccept
          · obtain ⟨first, reason, before, after, rfl, hbefore, hfirst⟩ := ih member
            exact ⟨first, reason, head :: before, after, rfl, by simpa [haccept], hfirst⟩

/-- Either every line is an entry, or there is a first one that is not. -/
theorem accepted_or_firstFault (lines : List LogLine) :
    (∀ line ∈ lines, accepts line = true) ∨ ∃ line reason, FirstFault lines line reason := by
  by_cases h : ∀ line ∈ lines, accepts line = true
  · exact Or.inl h
  · simp only [not_forall, Bool.not_eq_true] at h
    obtain ⟨line, member, rejected⟩ := h
    exact Or.inr (firstFault_of_mem member rejected)

theorem FirstFault.exists_rejected {lines : List LogLine} {line : LogLine} {reason : Reason}
    (h : FirstFault lines line reason) : line ∈ lines ∧ accepts line = false := by
  obtain ⟨before, after, rfl, -, hline⟩ := h
  exact ⟨by simp, accepts_eq_false_iff.mpr ⟨reason, hline⟩⟩

theorem FirstFault.not_accepted {lines : List LogLine} {line : LogLine} {reason : Reason}
    (h : FirstFault lines line reason) : ¬∀ line ∈ lines, accepts line = true := by
  intro accepted
  obtain ⟨member, rejected⟩ := h.exists_rejected
  rw [accepted line member] at rejected
  cases rejected

/-- The lines before the first fault are the leading lines that are entries. -/
theorem FirstFault.takeWhile_eq {before after : List LogLine} {line : LogLine}
    (hbefore : ∀ earlier ∈ before, accepts earlier = true) (rejected : accepts line = false) :
    (before ++ line :: after).takeWhile accepts = before := by
  rw [List.takeWhile_append_of_pos hbefore, List.takeWhile_cons, rejected]
  simp

theorem FirstFault.unique {lines : List LogLine} {line other : LogLine} {reason cause : Reason}
    (h : FirstFault lines line reason) (h' : FirstFault lines other cause) :
    line = other ∧ reason = cause := by
  obtain ⟨before, after, rfl, hbefore, hline⟩ := h
  obtain ⟨before', after', hsplit, hbefore', hother⟩ := h'
  -- Both lines follow the leading lines that are entries.
  have hbefores : before' = before := by
    rw [← FirstFault.takeWhile_eq hbefore (accepts_eq_false_iff.mpr ⟨reason, hline⟩), hsplit,
      FirstFault.takeWhile_eq hbefore' (accepts_eq_false_iff.mpr ⟨cause, hother⟩)]
  subst hbefores
  obtain ⟨rfl, -⟩ := List.cons.inj (List.append_cancel_left hsplit)
  rw [hline] at hother
  cases hother
  exact ⟨rfl, rfl⟩

/-- Lines that are all entries put the first fault off. -/
theorem FirstFault.append_left {before lines : List LogLine} {line : LogLine} {reason : Reason}
    (hbefore : ∀ earlier ∈ before, accepts earlier = true) (h : FirstFault lines line reason) :
    FirstFault (before ++ lines) line reason := by
  obtain ⟨middle, after, rfl, hmiddle, hline⟩ := h
  refine ⟨before ++ middle, after, by simp, ?_, hline⟩
  intro earlier member
  rcases List.mem_append.mp member with member | member
  · exact hbefore earlier member
  · exact hmiddle earlier member

/-- What follows the first fault does not matter. -/
theorem FirstFault.append_right {lines : List LogLine} {line : LogLine} {reason : Reason}
    (h : FirstFault lines line reason) (rest : List LogLine) :
    FirstFault (lines ++ rest) line reason := by
  obtain ⟨before, after, rfl, hbefore, hline⟩ := h
  exact ⟨before, after ++ rest, by simp, hbefore, hline⟩

/-! ## Reading everything -/

theorem mapM_ofLine_of_accepted {lines : List LogLine}
    (accepted : ∀ line ∈ lines, accepts line = true) :
    lines.mapM ofLine = .ok (ofAccepted lines) := by
  induction lines with
  | nil => rfl
  | cons line lines ih =>
      obtain ⟨entry, hline⟩ := accepts_iff.mp (accepted line (by simp))
      have hlines := ih fun other member => accepted other (by simp [member])
      rw [List.mapM_cons, hline, hlines, ofAccepted_cons_of_ok hline]
      rfl

theorem mapM_ofLine_of_fault {lines : List LogLine} {line : LogLine} {reason : Reason}
    (fault : FirstFault lines line reason) :
    lines.mapM ofLine = .error (.malformed line reason) := by
  obtain ⟨before, after, rfl, hbefore, hline⟩ := fault
  exact Loop.mapM_eq_error_iff.mpr
    ⟨before, line, after, rfl, fun earlier member => accepts_iff.mp (hbefore earlier member), hline⟩

end BenchLog.Entry
