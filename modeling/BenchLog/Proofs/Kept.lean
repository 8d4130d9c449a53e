import BenchLog.Proofs.FloatOrder
import BenchLog.Proofs.Reading

/-!
# The entries that a window keeps

An analysis keeps the entries that ended inside its window, and all of them if it has none. What is kept
of several parts is what is kept of each, and the order of the lines only orders what is kept.
-/

namespace BenchLog.Window

/-- The entries among some lines that count: those that ended inside the window, both ends included,
    and all of them if there is none. -/
def kept : Option Window → List LogLine → List Entry
  | none, lines => Entry.ofAccepted lines
  | some window, lines =>
      (Entry.ofAccepted lines).filter fun entry =>
        decide (window.start ≤ entry.finish ∧ entry.finish ≤ window.stop)

variable {window? : Option Window}

theorem kept_eq_filter (window? : Option Window) (lines : List LogLine) :
    kept window? lines = (Entry.ofAccepted lines).filter (admits window?) := by
  cases window? with
  | none => exact (List.filter_eq_self.mpr fun entry _ => admits_none entry).symm
  | some window =>
      apply List.filter_congr
      intro entry _
      exact Bool.decide_and _ _

@[simp] theorem kept_nil (window? : Option Window) : kept window? [] = [] := by
  simp [kept_eq_filter]

theorem kept_append (window? : Option Window) (left right : List LogLine) :
    kept window? (left ++ right) = kept window? left ++ kept window? right := by
  simp only [kept_eq_filter, Entry.ofAccepted_append, List.filter_append]

theorem kept_flatten (window? : Option Window) (parts : List (List LogLine)) :
    kept window? parts.flatten = (parts.map (kept window?)).flatten := by
  induction parts with
  | nil => simp
  | cons part parts ih => rw [List.flatten_cons, kept_append, ih, List.map_cons, List.flatten_cons]

theorem kept_perm (window? : Option Window) {left right : List LogLine} (h : left.Perm right) :
    (kept window? left).Perm (kept window? right) := by
  simp only [kept_eq_filter]
  exact (Entry.ofAccepted_perm h).filter _

/-- Two windows are alike if their ends are. -/
def Alike (left right : Window) : Prop :=
  FloatOrder.Alike left.start right.start ∧ FloatOrder.Alike left.stop right.stop

theorem alike_symm {left right : Option Window} (h : Option.Rel Alike left right) :
    Option.Rel Alike right left := by
  cases h with
  | none => exact .none
  | some halike => exact .some ⟨halike.1.symm, halike.2.symm⟩

theorem alike_trans {left middle right : Option Window} (h : Option.Rel Alike left middle)
    (h' : Option.Rel Alike middle right) : Option.Rel Alike left right := by
  cases h with
  | none => exact h'
  | some halike =>
      cases h' with
      | some halike' => exact .some ⟨halike.1.trans halike'.1, halike.2.trans halike'.2⟩

/-- The ends of a window that keeps something are numbers. -/
theorem not_isNaN_of_kept_ne_nil {window : Window} {lines : List LogLine}
    (h : kept (some window) lines ≠ []) :
    window.start.isNaN = false ∧ window.stop.isNaN = false := by
  obtain ⟨entry, member⟩ := List.exists_mem_of_ne_nil _ h
  have hinside : window.start ≤ entry.finish ∧ entry.finish ≤ window.stop := by
    simpa using (List.mem_filter.mp member).2
  exact ⟨(FloatOrder.le_iff.mp hinside.1).1, (FloatOrder.le_iff.mp hinside.2).2.1⟩

/-- Alike windows keep the same entries. -/
theorem kept_eq_of_alike {left right : Option Window} (h : Option.Rel Alike left right)
    (lines : List LogLine) : kept left lines = kept right lines := by
  cases h with
  | none => rfl
  | some halike =>
      apply List.filter_congr
      intro entry _
      simp only [halike.1.le_iff_left, halike.2.le_iff_right]

/-- If alike windows keep something, their ends are equal as numbers. -/
theorem beq_of_alike {left right : Option Window} {lines : List LogLine}
    (h : Option.Rel Alike left right) (nonempty : kept left lines ≠ []) :
    Option.Rel (fun one other => one.start == other.start ∧ one.stop == other.stop) left right := by
  cases h with
  | none => exact .none
  | some halike =>
      obtain ⟨hstart, hstop⟩ := not_isNaN_of_kept_ne_nil nonempty
      exact .some ⟨halike.1.beq hstart, halike.2.beq hstop⟩

/-- A line whose entry counts puts that entry in front. -/
theorem kept_cons_of_admits {line : LogLine} {entry : Entry} (hline : Entry.ofLine line = .ok entry)
    (hadmits : admits window? entry = true) (lines : List LogLine) :
    kept window? (line :: lines) = entry :: kept window? lines := by
  simp [kept_eq_filter, Entry.ofAccepted_cons_of_ok hline, hadmits]

theorem kept_cons_of_not_admits {line : LogLine} {entry : Entry}
    (hline : Entry.ofLine line = .ok entry) (hadmits : admits window? entry = false)
    (lines : List LogLine) : kept window? (line :: lines) = kept window? lines := by
  simp [kept_eq_filter, Entry.ofAccepted_cons_of_ok hline, hadmits]

/-- More lines keep at least as much. -/
theorem extraSum_kept_le_append (window? : Option Window) (left right : List LogLine) :
    Entry.extraSum (kept window? left) ≤ Entry.extraSum (kept window? (left ++ right)) := by
  rw [kept_append, Entry.extraSum_append]
  exact Nat.le_add_right _ _

/-- The leading entries of a part are among the leading entries of the whole, if no line before the
    part is malformed. -/
theorem extraSum_kept_takeWhile_le (window? : Option Window) {before : List LogLine}
    (hbefore : ∀ line ∈ before, Entry.accepts line = true) (part after : List LogLine) :
    Entry.extraSum (kept window? (part.takeWhile Entry.accepts)) ≤
      Entry.extraSum (kept window? ((before ++ (part ++ after)).takeWhile Entry.accepts)) := by
  have hpart : ∃ rest, (part ++ after).takeWhile Entry.accepts =
      part.takeWhile Entry.accepts ++ rest := by
    rw [List.takeWhile_append]
    split
    · rename_i hlength
      rw [(List.takeWhile_prefix Entry.accepts).eq_of_length hlength]
      exact ⟨_, rfl⟩
    · exact ⟨[], (List.append_nil _).symm⟩
  obtain ⟨rest, hrest⟩ := hpart
  rw [List.takeWhile_append_of_pos hbefore, hrest, kept_append, Entry.extraSum_append]
  exact (extraSum_kept_le_append window? _ _).trans (Nat.le_add_left _ _)

end BenchLog.Window
